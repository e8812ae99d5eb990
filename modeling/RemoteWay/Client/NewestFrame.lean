import RemoteWay.Base.Runs
import RemoteWay.Client.DisplayOutput

/-!
# The newest frame on the display

The display thread keeps the frame passed last.  That is the decoded frame
as long as nothing is interpolated; an interpolated frame is passed after
the newer of the two frames between which it lies.
-/

namespace RemoteWay.Client

open RemoteWay.Base RemoteWay.Proto RemoteWay.Compress
open RemoteWay.Interpolate RemoteWay.Transport RemoteWay.Display

variable {backend : Type}

/-- The number of the decoded frame for which a frame was passed to the
display, and whether it is that frame or an interpolated one. -/
inductive Origin where
  | real (index : Nat)
  | blend (index : Nat)
  deriving DecidableEq, Repr

structure Shown where
  origin : Origin
  frame : DisplayFrame
  deriving DecidableEq

/-- The client with its history: the frames passed to the display, the
number of decoded frames, and the timestamp of the last frame message. -/
structure ShowingClient (backend : Type) where
  client : ClientState backend
  sent : List Shown
  decoded : Nat
  clock : UInt64

/-- The frames passed for a decoded frame, the first of which is that
frame. -/
def originsOf (index : Nat) : List DisplayFrame → List Shown
  | [] => []
  | frame :: blends => ⟨.real index, frame⟩ :: blends.map (.mk (.blend index))

namespace ShowingClient

def start (interpolation : Option (InterpolationManager backend)) :
    ShowingClient backend :=
  ⟨.initial interpolation, [], 0, 0⟩

/-- Handle a message, while the overlay shows the given frame rate. -/
def perform (profile : Profile) (config : ClientConfig backend)
    (rendering : Rendering) (state : ShowingClient backend)
    (round : IncomingMessage × Nat) : Option (ShowingClient backend) :=
  match showMessage profile config rendering round.2 state.client
      round.1 with
  | .error _ => none
  | .ok (client, frames) =>
      some
        { client := client
          sent := state.sent ++ originsOf (state.decoded + 1) frames
          decoded := if frames = [] then state.decoded
            else state.decoded + 1
          clock := if frameKind round.1 = none then state.clock
            else round.1.header.timestampNs }

/-- The timestamps of frame messages do not decrease. -/
def InOrder (state : ShowingClient backend)
    (round : IncomingMessage × Nat) : Prop :=
  frameKind round.1 ≠ none → state.clock ≤ round.1.header.timestampNs

instance (state : ShowingClient backend) (round : IncomingMessage × Nat) :
    Decidable (state.InOrder round) :=
  inferInstanceAs (Decidable (_ → _))

/-- The rounds of messages in order. -/
abbrev Step (profile : Profile) (config : ClientConfig backend)
    (rendering : Rendering) (before : ShowingClient backend)
    (round : IncomingMessage × Nat) (after : ShowingClient backend) : Prop :=
  before.perform profile config rendering round = some after ∧
    before.InOrder round

/-- The frames passed are ordered in time, and the last one is the frame
decoded last. -/
structure NewestLast (state : ShowingClient backend) : Prop where
  ordered : (state.sent.map fun shown => shown.frame.timestampNs).Pairwise
    (· ≤ ·)
  last : (state.sent.getLast?.map Shown.origin) =
    if state.decoded = 0 then none else some (.real state.decoded)

/-- A frame that is decoded is not paired with an earlier one: there is no
manager, or a reset of the anchor is due, or there is no earlier frame, or
it differs in size. -/
def BlendsNothing (profile : Profile) (config : ClientConfig backend)
    (state : ShowingClient backend) (round : IncomingMessage × Nat) :
    Prop :=
  ∀ isAnchor, frameKind round.1 = some isAnchor →
    ∀ prepared frame,
      decodeFrame profile config.compressorKind state.client isAnchor
          round.1.payload = .ok (prepared, .decoded frame) →
        ∀ manager, state.client.interpolation = some manager →
          (isAnchor || !state.client.hasPrevious ||
              manager.forceReset) = true ∨
            ∀ target, manager.target = some target →
              target.sameDimensions
                (frame.gpuFrame round.1.header.timestampNs) = false

end ShowingClient

/-! ## What is interpolated -/

section Interpolated

variable {profile : Profile} {kind : Codec} {state : ClientState backend}
variable {isAnchor : Bool} {payload : List UInt8}

/-- A frame is decoded after its delta base was prepared. -/
theorem decodeFrame_prepared {prepared : ClientState backend}
    {frame : DecodedFrame}
    (decoded : decodeFrame profile kind state isAnchor payload =
      .ok (prepared, .decoded frame)) :
    ∃ frameSize, prepared = state.prepareBase isAnchor frameSize := by
  rcases decodeFrame_cases decoded with
    ⟨reason, _, _, impossible⟩ | ⟨parsed, frameSize, _, same, _⟩
  · cases impossible
  · exact ⟨frameSize, same⟩

variable {interpolator : FrameInterpolator backend}
variable {frame : DecodedFrame} {timestampNs : UInt64} {frameSize : Nat}

/-- The interpolated frame in terms of the state before the message. -/
theorem interpolated_prepareBase
    {manager : InterpolationManager backend}
    (present : state.interpolation = some manager) :
    interpolated interpolator (state.prepareBase isAnchor frameSize) frame
        timestampNs =
      if isAnchor || !state.hasPrevious || manager.forceReset then
        none
      else
        match manager.target with
        | none => none
        | some target =>
            match (interpolator.interpolate manager.backend target
                (frame.gpuFrame timestampNs) (1 / 2)).2 with
            | .ok blend => some blend
            | .error _ => none := by
  rw [ClientState.prepareBase]
  by_cases reset : (isAnchor || !state.hasPrevious) = true
  · rw [if_pos reset, interpolated, present]
    dsimp only [Option.map_some]
    rw [InterpolationManager.interpolate_pushFrame, reset, Bool.true_or,
      if_pos rfl]
    rfl
  · rw [if_neg reset, interpolated, present]
    dsimp only
    rw [InterpolationManager.interpolate_pushFrame,
      Bool.eq_false_iff.mpr reset, Bool.false_or]
    cases manager.forceReset with
    | true => rfl
    | false =>
        simp only [if_neg Bool.false_ne_true]
        cases manager.target with
        | none => rfl
        | some target =>
            dsimp only
            cases (interpolator.interpolate manager.backend target
              (frame.gpuFrame timestampNs) (1 / 2)).2 <;> rfl

/-- Frames that are not paired are not interpolated. -/
theorem interpolated_eq_none (refuses : interpolator.RefusesMismatch)
    (unpaired : ∀ manager, state.interpolation = some manager →
      (isAnchor || !state.hasPrevious || manager.forceReset) = true ∨
        ∀ target, manager.target = some target →
          target.sameDimensions (frame.gpuFrame timestampNs) = false) :
    interpolated interpolator (state.prepareBase isAnchor frameSize) frame
        timestampNs = none := by
  cases present : state.interpolation with
  | none =>
      have off : (state.prepareBase isAnchor frameSize).interpolation =
          none := by
        rw [ClientState.prepareBase]
        by_cases reset : (isAnchor || !state.hasPrevious) = true
        · rw [if_pos reset, present]
          rfl
        · rw [if_neg reset, present]
      rw [interpolated, off]
  | some manager =>
      rw [interpolated_prepareBase present]
      rcases unpaired manager present with reset | differ
      · rw [if_pos reset]
      · by_cases reset :
            (isAnchor || !state.hasPrevious || manager.forceReset) = true
        · rw [if_pos reset]
        · rw [if_neg reset]
          cases earlier : manager.target with
          | none => rfl
          | some target =>
              obtain ⟨after, reason, refused⟩ := refuses manager.backend
                target (frame.gpuFrame timestampNs) (1 / 2)
                (differ target earlier)
              dsimp only
              rw [refused]

/-- Paired frames are interpolated. -/
theorem interpolated_ne_none (stamps : interpolator.StampsMidpoint)
    {manager : InterpolationManager backend} {target : GpuFrame}
    (present : state.interpolation = some manager)
    (unreset : ¬ (isAnchor || !state.hasPrevious || manager.forceReset) =
      true)
    (earlier : manager.target = some target)
    (same : target.sameDimensions (frame.gpuFrame timestampNs) = true) :
    interpolated interpolator (state.prepareBase isAnchor frameSize) frame
        timestampNs ≠ none := by
  obtain ⟨after, blend, answered, _⟩ := stamps manager.backend target
    (frame.gpuFrame timestampNs) same
  rw [interpolated_prepareBase present, if_neg unreset, earlier]
  dsimp only
  rw [answered]
  nofun

end Interpolated

namespace ShowingClient

variable {profile : Profile} {config : ClientConfig backend}
variable {rendering : Rendering} {before after : ShowingClient backend}
variable {round : IncomingMessage × Nat}

/-- A round passes nothing, or it decodes a frame and passes that. -/
theorem perform_cases
    (performed : before.perform profile config rendering round =
      some after) :
    (∃ client, after =
        { before with
          client := client
          clock := if frameKind round.1 = none then before.clock
            else round.1.header.timestampNs } ∧
        ∀ isAnchor, frameKind round.1 = some isAnchor →
          ∀ prepared frame,
            decodeFrame profile config.compressorKind before.client isAnchor
                round.1.payload ≠ .ok (prepared, .decoded frame)) ∨
      ∃ isAnchor prepared frame, frameKind round.1 = some isAnchor ∧
        decodeFrame profile config.compressorKind before.client isAnchor
          round.1.payload = .ok (prepared, .decoded frame) ∧
        after =
          { client := acceptFrame config.interpolator prepared frame
              round.1.header.timestampNs
            sent := before.sent ++ originsOf (before.decoded + 1)
              (displayed config.interpolator rendering round.2 prepared
                round.1.header frame)
            decoded := before.decoded + 1
            clock := round.1.header.timestampNs } := by
  rw [perform] at performed
  cases shown : showMessage profile config rendering round.2 before.client
      round.1 with
  | error panic =>
      rw [shown] at performed
      cases performed
  | ok result =>
      obtain ⟨client, frames⟩ := result
      rw [shown] at performed
      injection performed with same
      rw [showMessage] at shown
      cases kind : frameKind round.1 with
      | none =>
          rw [kind] at shown same
          dsimp only at shown
          rw [bind_eq_ok_iff] at shown
          obtain ⟨handled, _, shown⟩ := shown
          injection shown with pair
          injection pair with _ empty
          rw [← empty] at same
          refine Or.inl ⟨client, ?_, ?_⟩
          · rw [← same, originsOf, List.append_nil]
            rfl
          · intro isAnchor impossible
            cases impossible
      | some isAnchor =>
          rw [kind] at shown same
          obtain ⟨prepared, outcome, decoded,
            ⟨empty, _, undecoded⟩ | ⟨frame, isFrame, accepted, frames⟩⟩ :=
            showFrame_cases shown
          · rw [empty] at same
            refine Or.inl ⟨client, ?_, ?_⟩
            · rw [← same, originsOf, List.append_nil]
              rfl
            · intro other sameKind prepared' frame decoded'
              injection sameKind with sameKind
              rw [← sameKind, decoded] at decoded'
              injection decoded' with pair
              injection pair with _ pair
              exact undecoded frame pair
          · refine Or.inr ⟨isAnchor, prepared, frame, rfl, ?_, ?_⟩
            · rw [decoded, isFrame]
            · rw [← same, accepted, frames]
              rfl

/-- The newest frame is last, and nothing passed is newer than the last
frame message. -/
structure Timely (state : ShowingClient backend) : Prop where
  newest : state.NewestLast
  past : ∀ shown, shown ∈ state.sent →
    shown.frame.timestampNs ≤ state.clock

theorem timely_start
    (interpolation : Option (InterpolationManager backend)) :
    (start interpolation).Timely :=
  ⟨⟨.nil, rfl⟩, nofun⟩

/-- A round without a frame changes nothing that was passed. -/
theorem Timely.quiet (timely : before.Timely) (inOrder : before.InOrder round)
    (client : ClientState backend) :
    Timely { before with
      client := client
      clock := if frameKind round.1 = none then before.clock
        else round.1.header.timestampNs } := by
  refine ⟨⟨timely.newest.ordered, timely.newest.last⟩, ?_⟩
  intro shown member
  have past := timely.past shown member
  by_cases other : frameKind round.1 = none
  · exact (if_pos other).symm ▸ past
  · exact (if_neg other).symm ▸ UInt64.le_trans past (inOrder other)

/-- A decoded frame is passed last. -/
theorem Timely.real (timely : before.Timely)
    (client : ClientState backend) {frame : DisplayFrame}
    (later : before.clock ≤ frame.timestampNs) :
    Timely
      { client := client
        sent := before.sent ++ [⟨.real (before.decoded + 1), frame⟩]
        decoded := before.decoded + 1
        clock := frame.timestampNs } := by
  refine ⟨⟨?_, ?_⟩, ?_⟩
  · rw [List.map_append, List.pairwise_append]
    refine ⟨timely.newest.ordered, List.pairwise_singleton _ _, ?_⟩
    intro earlier member new only
    obtain ⟨shown, sent, same⟩ := List.mem_map.mp member
    rw [← same, List.mem_singleton.mp only]
    exact UInt64.le_trans (timely.past shown sent) later
  · rw [List.getLast?_concat]
    rfl
  · intro shown member
    rcases List.mem_append.mp member with old | new
    · exact UInt64.le_trans (timely.past shown old) later
    · rw [List.mem_singleton.mp new]
      exact UInt64.le_refl _

/-- A round in which nothing is paired keeps the newest frame last. -/
theorem Timely.perform (refuses : config.interpolator.RefusesMismatch)
    (timely : before.Timely)
    (performed : before.perform profile config rendering round = some after)
    (inOrder : before.InOrder round)
    (unpaired : before.BlendsNothing profile config round) :
    after.Timely := by
  rcases perform_cases performed with ⟨client, rfl, _⟩ |
    ⟨isAnchor, prepared, frame, kind, decoded, rfl⟩
  · exact timely.quiet inOrder client
  · obtain ⟨frameSize, same⟩ := decodeFrame_prepared decoded
    have nothing : interpolated config.interpolator prepared frame
        round.1.header.timestampNs = none := by
      rw [same]
      exact interpolated_eq_none refuses
        (unpaired isAnchor kind prepared frame decoded)
    rw [displayed, nothing]
    refine timely.real _ (inOrder ?_)
    rw [kind]
    exact Option.some_ne_none isAnchor

/-- If the newest frame is last after a round, nothing was paired. -/
theorem blendsNothing_of_newestLast
    (stamps : config.interpolator.StampsMidpoint)
    (performed : before.perform profile config rendering round = some after)
    (newest : after.NewestLast) :
    before.BlendsNothing profile config round := by
  intro isAnchor kind prepared frame decoded manager present
  by_contra paired
  rw [not_or] at paired
  obtain ⟨unreset, paired⟩ := paired
  apply paired
  intro target earlier
  by_contra same
  rw [Bool.not_eq_false] at same
  rcases perform_cases performed with ⟨client, _, undecoded⟩ |
    ⟨isAnchor', prepared', frame', kind', decoded', rfl⟩
  · exact undecoded isAnchor kind prepared frame decoded
  · rw [kind] at kind'
    injection kind' with sameKind
    rw [← sameKind, decoded] at decoded'
    injection decoded' with pair
    injection pair with samePrepared outcome
    injection outcome with sameFrame
    obtain ⟨frameSize, base⟩ := decodeFrame_prepared decoded
    have blended : interpolated config.interpolator
        (before.client.prepareBase isAnchor frameSize) frame
        round.1.header.timestampNs ≠ none :=
      interpolated_ne_none stamps present unreset earlier same
    rw [← base] at blended
    obtain ⟨blend, produced⟩ := Option.ne_none_iff_exists'.mp blended
    have last := newest.last
    rw [← samePrepared, ← sameFrame, displayed, produced] at last
    -- The interpolated frame is behind the decoded one.
    dsimp only [Option.toList_some, List.map_cons, List.map_nil,
      originsOf] at last
    rw [List.getLast?_append_of_ne_nil _ (List.cons_ne_nil _ _),
      if_neg (Nat.succ_ne_zero before.decoded)] at last
    injection last with impossible
    cases impossible

/-- With a backend that refuses frames of different sizes: in every run in
which no decoded frame is paired with an earlier one, the frames passed to
the display are ordered in time and the last one is the frame decoded last,
after every round.  With a backend that has a result for all other pairs,
the converse holds too. -/
theorem newestLast_of_blendsNothing
    (refuses : config.interpolator.RefusesMismatch)
    {interpolation : Option (InterpolationManager backend)}
    {rounds : List (IncomingMessage × Nat)}
    {last : ShowingClient backend} :
    (Run (fun before round after =>
          Step profile config rendering before round after ∧
            before.BlendsNothing profile config round)
          (start interpolation) rounds last →
        Run (fun before round after =>
          Step profile config rendering before round after ∧
            after.NewestLast) (start interpolation) rounds last) ∧
      (config.interpolator.StampsMidpoint →
        Run (fun before round after =>
            Step profile config rendering before round after ∧
              after.NewestLast) (start interpolation) rounds last →
          Run (fun before round after =>
            Step profile config rendering before round after ∧
              before.BlendsNothing profile config round)
            (start interpolation) rounds last) := by
  constructor
  · intro run
    apply run.refine _ (timely_start interpolation)
    rintro before round after ⟨stepped, unpaired⟩ timely
    have next := timely.perform refuses stepped.1 stepped.2 unpaired
    exact ⟨next, stepped, next.newest⟩
  · intro stamps run
    apply run.refine _ (timely_start interpolation)
    rintro before round after ⟨stepped, newest⟩ timely
    have unpaired := blendsNothing_of_newestLast stamps stepped.1 newest
    exact ⟨timely.perform refuses stepped.1 stepped.2 unpaired, stepped,
      unpaired⟩

/-! ## Two frames of one size -/

/-- A frame of one pixel. -/
def onePixelMessage (msgType : MsgType) (timestampNs : UInt64) :
    IncomingMessage where
  header := FrameHeader.new 0 msgType Flags.lastChunk 40 timestampNs
  payload := (FrameMeta.mk 1 1 4 1).asBytes ++
    (WireRegion.mk 0 0 1 1 4).asBytes ++ [1, 2, 3, 4]

/-- The client on the CPU, with neither upscaling nor overlay. -/
def blendingConfig : ClientConfig Unit := ⟨.plain, linearBlend⟩

def plainRendering : Rendering := ⟨none, fun _ _ => [], none⟩

def anchorThenUpdate : List (IncomingMessage × Nat) :=
  [(onePixelMessage .anchorFrame 0, 0), (onePixelMessage .frameUpdate 10, 0)]

/-- After the update, the frame passed last lies between the two, and its
timestamp is that of the middle. -/
theorem newestLast_fails :
    ¬ ∀ profile (config : ClientConfig Unit) rendering interpolation rounds
        last, config.interpolator = linearBlend →
      Run (Step profile config rendering) (start interpolation) rounds
        last → last.NewestLast := by
  intro newest
  have evaluated : (anchorThenUpdate.foldlM
      (fun (before : ShowingClient Unit) round =>
        if before.InOrder round then
          before.perform .dev blendingConfig plainRendering round
        else none) (start (some (.new ())))).map (fun last =>
          (last.decoded, last.sent.map fun shown =>
            (shown.origin, shown.frame.timestampNs))) =
      some (2, [(.real 1, 0), (.real 2, 10), (.blend 2, 5)]) := by
    decide +kernel
  obtain ⟨last, iterated, state⟩ := Option.map_eq_some_iff.mp evaluated
  injection state with decoded passed
  have kept := newest .dev blendingConfig plainRendering _ _ last rfl
    (run_iff_foldlM_guarded.mpr iterated)
  have times : last.sent.map (fun shown => shown.frame.timestampNs) =
      [0, 10, 5] := by
    have projected := congrArg (List.map Prod.snd) passed
    rw [List.map_map] at projected
    exact projected
  have ordered := kept.ordered
  rw [times] at ordered
  exact absurd ordered (by decide)

/-- An anchor is never paired with an earlier frame. -/
theorem blendsNothing_of_anchor (anchor : frameKind round.1 = some true) :
    before.BlendsNothing profile config round := by
  intro isAnchor kind prepared frame _ manager _
  rw [anchor] at kind
  injection kind with same
  rw [← same]
  exact Or.inl rfl

def twoAnchors : List (IncomingMessage × Nat) :=
  [(onePixelMessage .anchorFrame 0, 0), (onePixelMessage .anchorFrame 10, 0)]

theorem newestLast_of_blendsNothing_twoAnchors :
    ∃ last,
      Run (fun before round after =>
          Step .dev blendingConfig plainRendering before round after ∧
            after.NewestLast) (start (some (.new ()))) twoAnchors last ∧
        Run (fun before round after =>
          Step .dev blendingConfig plainRendering before round after ∧
            before.BlendsNothing .dev blendingConfig round)
          (start (some (.new ()))) twoAnchors last ∧
        last.decoded = 2 := by
  have evaluated : (twoAnchors.foldlM
      (fun (before : ShowingClient Unit) round =>
        if before.InOrder round ∧ frameKind round.1 = some true then
          before.perform .dev blendingConfig plainRendering round
        else none) (start (some (.new ())))).map ShowingClient.decoded =
      some 2 := by
    decide +kernel
  obtain ⟨last, iterated, decoded⟩ := Option.map_eq_some_iff.mp evaluated
  have unpaired : Run (fun before round after =>
      Step .dev blendingConfig plainRendering before round after ∧
        before.BlendsNothing .dev blendingConfig round)
      (start (some (.new ()))) twoAnchors last := by
    have run := run_iff_foldlM_guarded.mpr iterated
    apply run.refine _ (timely_start _)
    rintro before round after ⟨performed, inOrder, anchor⟩ timely
    have blendsNothing : before.BlendsNothing .dev blendingConfig round :=
      blendsNothing_of_anchor anchor
    exact ⟨timely.perform linearBlend_refusesMismatch performed inOrder
      blendsNothing, ⟨performed, inOrder⟩, blendsNothing⟩
  have refuses : blendingConfig.interpolator.RefusesMismatch :=
    linearBlend_refusesMismatch
  have newest := (newestLast_of_blendsNothing refuses).1 unpaired
  exact ⟨last, newest,
    (newestLast_of_blendsNothing refuses).2 linearBlend_stampsMidpoint newest,
    decoded⟩

end ShowingClient

end RemoteWay.Client
