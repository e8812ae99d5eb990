import Mathlib.Data.List.Chain
import RemoteWay.Capture.Thread
import RemoteWay.System.Lockstep

/-!
# Damage over whole runs

The capture thread and the compress loop, interleaved in any order.  The
damage of a frame is relative to the frame the backend returned before it,
and the server's `previous_frame` may be an older one.  The loop sends full
damage when it skipped frames, when a message was refused, and when it finds
the dropped flag set.
-/

namespace RemoteWay.System

open RemoteWay.Base RemoteWay.Proto RemoteWay.Compress
open RemoteWay.Capture RemoteWay.Server RemoteWay.Client

/-! ## The system -/

/-- Where the compress loop is in its round: it waits for a frame, drains the
ring, has found it empty, or has taken the dropped flag. -/
inductive Consumer where
  | waiting
  | draining (first : Returned) (newer : List Returned)
  | drained (first : Returned) (newer : List Returned)
  | flagTaken (first : Returned) (newer : List Returned) (dropped : Bool)
  deriving DecidableEq, Repr

/-- The frames of a round that has not taken the flag. -/
def Consumer.held : Consumer → List Returned
  | .waiting => []
  | .draining first newer => first :: newer
  | .drained first newer => first :: newer
  | .flagTaken _ _ _ => []

/-- Both threads.  `steps` is the history of the rounds, `processed` the
frame with which the flag was taken last. -/
structure ServerState where
  thread : CaptureThread
  consumer : Consumer
  loop : LoopState
  steps : List ServerStep
  processed : Option Returned
  deriving DecidableEq, Repr

def ServerState.initial : ServerState :=
  ⟨.spawn, .waiting, .initial, [], none⟩

/-- A step of either thread.  A round ends with the transport's answer. -/
inductive ServerAction where
  | capture (action : CaptureAction)
  | tryRecv
  | takeDroppedFlag
  | send (sent : Bool)
  deriving DecidableEq, Repr

namespace ServerState

def recvStep (state : ServerState) : Option ServerState :=
  let (item, thread) := state.thread.tryRecv
  match state.consumer, item with
  | .waiting, none => some state
  | .waiting, some first =>
      some { state with thread := thread, consumer := .draining first [] }
  | .draining first newer, none =>
      some { state with consumer := .drained first newer }
  | .draining first newer, some item =>
      some { state with
        thread := thread
        consumer := .draining first (newer ++ [item]) }
  | .drained _ _, _ => none
  | .flagTaken _ _ _, _ => none

def flagStep (state : ServerState) : Option ServerState :=
  match state.consumer with
  | .drained first newer =>
      let (dropped, thread) := state.thread.takeDroppedFlag
      some { state with
        thread := thread
        consumer := .flagTaken first newer dropped
        processed := some (newer.getLastD first) }
  | _ => none

def sendStep (profile : Profile) (config : ServerConfig)
    (state : ServerState) (sent : Bool) : Option ServerState :=
  match state.consumer with
  | .flagTaken first newer dropped =>
      match round profile config state.loop
          ⟨first.frame, newer.map Returned.frame, dropped, sent⟩ with
      | .error _ => none
      | .ok step =>
          some { state with
            consumer := .waiting
            loop := step.after
            steps := state.steps ++ [step] }
  | _ => none

def perform (profile : Profile) (config : ServerConfig) (capacity : Nat)
    (state : ServerState) : ServerAction → Option ServerState
  | .capture action =>
      (state.thread.captureStep capacity action).map fun thread =>
        { state with thread := thread }
  | .tryRecv => state.recvStep
  | .takeDroppedFlag => state.flagStep
  | .send sent => state.sendStep profile config sent

/-! ## Assumptions on the steps -/

/-- The backend returns frames of constant dimensions with exact damage. -/
def FromBackend (captured : Geometry) (state : ServerState) :
    ServerAction → Prop
  | .capture (.limit frame) | .capture (.push frame) =>
      capturedGeometry frame = captured ∧
        ∀ previous, previous ∈ state.thread.latest →
          CaptureThread.DamageExact captured frame previous
  | _ => True

/-- When the loop finds the flag set, it was set only for drops before the
frame that the ring was drained to. -/
def FlagInTime (thread : CaptureThread) : Consumer → Prop
  | .drained first newer =>
      thread.framesDropped = true → ∀ seq, seq ∈ thread.flagged →
        seq < (newer.getLastD first).seq
  | _ => True

/-- The rate limiter drops no changed frame, and the flag is not taken with
a frame that is older than a drop. -/
def DropsNoticed (captured : Geometry) (state : ServerState) :
    ServerAction → Prop
  | .capture action => state.thread.LimitsUnchanged captured action
  | .takeDroppedFlag => FlagInTime state.thread state.consumer
  | _ => True

instance (captured : Geometry) (state : ServerState) :
    ∀ action, Decidable (state.FromBackend captured action)
  | .capture (.limit _) => inferInstanceAs (Decidable (_ ∧ _))
  | .capture (.push _) => inferInstanceAs (Decidable (_ ∧ _))
  | .capture .storeDropped => isTrue trivial
  | .tryRecv => isTrue trivial
  | .takeDroppedFlag => isTrue trivial
  | .send _ => isTrue trivial

instance (thread : CaptureThread) :
    ∀ consumer, Decidable (FlagInTime thread consumer)
  | .drained _ _ => inferInstanceAs (Decidable (_ = true → _))
  | .waiting => isTrue trivial
  | .draining _ _ => isTrue trivial
  | .flagTaken _ _ _ => isTrue trivial

instance (captured : Geometry) (state : ServerState) :
    ∀ action, Decidable (state.DropsNoticed captured action)
  | .capture action =>
      inferInstanceAs
        (Decidable (state.thread.LimitsUnchanged captured action))
  | .takeDroppedFlag =>
      inferInstanceAs (Decidable (FlagInTime state.thread state.consumer))
  | .tryRecv => isTrue trivial
  | .send _ => isTrue trivial

/-! ## What a step can do -/

variable {profile : Profile} {config : ServerConfig} {capacity : Nat}
variable {before after : ServerState}

theorem perform_capture {action : CaptureAction}
    (performed : before.perform profile config capacity (.capture action) =
      some after) :
    ∃ thread, before.thread.captureStep capacity action = some thread ∧
      after = { before with thread := thread } := by
  obtain ⟨thread, stepped, same⟩ := Option.map_eq_some_iff.mp performed
  exact ⟨thread, stepped, same.symm⟩

/-- Reading the ring moves a frame from the ring to the round, or notices
that the ring is empty. -/
theorem recvStep_eq_some (performed : before.recvStep = some after) :
    ∃ ring consumer,
      after =
        { before with
          thread := { before.thread with ring := ring }
          consumer := consumer } ∧
      consumer.held ++ ring = before.consumer.held ++ before.thread.ring ∧
      (∀ first newer dropped,
        before.consumer ≠ .flagTaken first newer dropped) ∧
      ∀ first newer dropped, consumer ≠ .flagTaken first newer dropped := by
  rw [recvStep] at performed
  rcases before.thread.tryRecv_eq with
    ⟨empty, read⟩ | ⟨item, ring, holds, read⟩
  · rw [read] at performed
    cases at_ : before.consumer with
    | waiting =>
        rw [at_] at performed
        injection performed with same
        exact ⟨before.thread.ring, .waiting, by rw [← same, ← at_], rfl,
          nofun, nofun⟩
    | draining first newer =>
        rw [at_] at performed
        injection performed with same
        exact ⟨before.thread.ring, .drained first newer, same.symm, rfl,
          nofun, nofun⟩
    | drained first newer =>
        rw [at_] at performed
        cases performed
    | flagTaken first newer dropped =>
        rw [at_] at performed
        cases performed
  · rw [read] at performed
    cases at_ : before.consumer with
    | waiting =>
        rw [at_] at performed
        injection performed with same
        exact ⟨ring, .draining item [], same.symm, by rw [holds]; rfl,
          nofun, nofun⟩
    | draining first newer =>
        rw [at_] at performed
        injection performed with same
        refine ⟨ring, .draining first (newer ++ [item]), same.symm, ?_,
          nofun, nofun⟩
        rw [holds, Consumer.held, Consumer.held, List.cons_append,
          List.append_assoc]
        rfl
    | drained first newer =>
        rw [at_] at performed
        cases performed
    | flagTaken first newer dropped =>
        rw [at_] at performed
        cases performed

theorem flagStep_eq_some (performed : before.flagStep = some after) :
    ∃ first newer, before.consumer = .drained first newer ∧
      after =
        { before with
          thread := { before.thread with framesDropped := false }
          consumer :=
            .flagTaken first newer before.thread.framesDropped
          processed := some (newer.getLastD first) } := by
  rw [flagStep] at performed
  cases at_ : before.consumer with
  | drained first newer =>
      rw [at_] at performed
      injection performed with same
      exact ⟨first, newer, rfl, same.symm⟩
  | waiting =>
      rw [at_] at performed
      cases performed
  | draining first newer =>
      rw [at_] at performed
      cases performed
  | flagTaken first newer dropped =>
      rw [at_] at performed
      cases performed

theorem sendStep_eq_some {sent : Bool}
    (performed : before.sendStep profile config sent = some after) :
    ∃ first newer dropped step,
      before.consumer = .flagTaken first newer dropped ∧
      round profile config before.loop
        ⟨first.frame, newer.map Returned.frame, dropped, sent⟩ =
          .ok step ∧
      after =
        { before with
          consumer := .waiting
          loop := step.after
          steps := before.steps ++ [step] } := by
  rw [sendStep] at performed
  cases at_ : before.consumer with
  | flagTaken first newer dropped =>
      rw [at_] at performed
      dsimp only at performed
      cases done : round profile config before.loop
          ⟨first.frame, newer.map Returned.frame, dropped, sent⟩ with
      | error panic =>
          rw [done] at performed
          cases performed
      | ok step =>
          rw [done] at performed
          injection performed with same
          exact ⟨first, newer, dropped, step, rfl, done, same.symm⟩
  | waiting =>
      rw [at_] at performed
      cases performed
  | draining first newer =>
      rw [at_] at performed
      cases performed
  | drained first newer =>
      rw [at_] at performed
      cases performed

/-! ## The invariant -/

/-- The damage of a frame covers what changed since an older one, unless a
full ring dropped a frame in between. -/
def Link (captured : Geometry) (flagged : List Nat)
    (older newer : Returned) : Prop :=
  older.seq < newer.seq ∧
    ((∀ seq, seq ∈ flagged → seq ≤ older.seq ∨ newer.seq ≤ seq) →
      Covers captured newer.frame.damage newer.frame.data older.frame.data)

theorem Link.append {captured : Geometry} {flagged : List Nat}
    {older newer : Returned} (link : Link captured flagged older newer)
    (more : List Nat) : Link captured (flagged ++ more) older newer :=
  ⟨link.1, fun none => link.2 fun seq member =>
    none seq (List.mem_append.mpr (Or.inl member))⟩

/-- The frames that were processed last, are held by the loop, or wait in the
ring, in the order in which they were pushed. -/
def line (state : ServerState) : List Returned :=
  state.processed.toList ++ (state.consumer.held ++ state.thread.ring)

/-- A drop after the frame that was processed last is announced. -/
def FlagPending (state : ServerState) : Prop :=
  ∀ seq, seq ∈ state.thread.flagged →
    (∀ item, item ∈ state.processed → item.seq < seq) →
      state.thread.framesDropped = true

/-- Between two rounds, the delta base is the frame processed last, unless
the next round sends full damage anyway. -/
def BaseProcessed (state : ServerState) : Prop :=
  state.loop.needFullDamage = false → state.loop.isFirst = false →
    ∃ item, item ∈ state.processed ∧
      item.frame.data = state.loop.previousFrame

/-- What the loop knows about its delta base. -/
def BaseKnown (captured : Geometry) (state : ServerState) :
    Consumer → Prop
  | .flagTaken first newer dropped =>
      state.processed = some (newer.getLastD first) ∧
        (newer = [] → dropped = false →
          state.loop.needFullDamage = false → state.loop.isFirst = false →
            Covers captured first.frame.damage first.frame.data
              state.loop.previousFrame)
  | _ => state.BaseProcessed

structure Covering (captured : Geometry) (state : ServerState) : Prop where
  tracked : state.thread.Tracked captured
  links : List.IsChain (Link captured state.thread.flagged) state.line
  pushed : state.line.getLast? = state.thread.pushed
  sized : ∀ item, item ∈ state.line →
    capturedGeometry item.frame = captured
  pending : state.FlagPending
  base : state.BaseKnown captured state.consumer
  covers : ∀ step, step ∈ state.steps → UpdateCovers step

variable {captured : Geometry}

theorem covering_initial : initial.Covering captured where
  tracked := CaptureThread.tracked_spawn
  links := .nil
  pushed := rfl
  sized := by
    intro item member
    cases member
  pending := by
    intro seq member
    cases member
  base := by
    intro _ notFirst
    cases notFirst
  covers := by
    intro step member
    cases member

theorem baseKnown_iff {state : ServerState} {consumer : Consumer}
    (elsewhere : ∀ first newer dropped,
      consumer ≠ .flagTaken first newer dropped) :
    state.BaseKnown captured consumer ↔ state.BaseProcessed := by
  cases consumer with
  | flagTaken first newer dropped =>
      exact absurd rfl (elsewhere first newer dropped)
  | waiting => exact Iff.rfl
  | draining first newer => exact Iff.rfl
  | drained first newer => exact Iff.rfl

/-! ## The capture thread keeps it -/

/-- The next frame is linked to the frame pushed last. -/
theorem Covering.link_next (covering : before.Covering captured)
    (idle : before.thread.storing = none) {item : Returned}
    (member : item ∈ before.thread.pushed) {frame : CapturedFrame}
    (damage : ∀ previous, previous ∈ before.thread.latest →
      CaptureThread.DamageExact captured frame previous) :
    Link captured before.thread.flagged item
      ⟨before.thread.returned, frame⟩ := by
  refine ⟨covering.tracked.pushed item member, ?_⟩
  intro none
  apply covering.tracked.covers idle member _ damage
  intro seq flagged
  rcases none seq flagged with early | late
  · exact early
  · have bound := covering.tracked.flagged seq flagged
    exact absurd late (Nat.not_le_of_lt bound)

theorem Covering.push (covering : before.Covering captured)
    (idle : before.thread.storing = none) {frame : CapturedFrame}
    (sized : capturedGeometry frame = captured)
    (damage : ∀ previous, previous ∈ before.thread.latest →
      CaptureThread.DamageExact captured frame previous)
    {thread : CaptureThread} (tracked : thread.Tracked captured)
    (ring : thread.ring =
      before.thread.ring ++ [⟨before.thread.returned, frame⟩])
    (pushed : thread.pushed = some ⟨before.thread.returned, frame⟩)
    (flagged : thread.flagged = before.thread.flagged)
    (dropped : thread.framesDropped = before.thread.framesDropped) :
    { before with thread := thread }.Covering captured := by
  have longer : { before with thread := thread }.line =
      before.line ++ [⟨before.thread.returned, frame⟩] := by
    simp only [line, ring, List.append_assoc]
  refine
    { tracked := tracked
      links := ?_
      pushed := ?_
      sized := ?_
      pending := ?_
      base := covering.base
      covers := covering.covers }
  · rw [longer]
    change List.IsChain (Link captured thread.flagged) _
    rw [flagged]
    refine covering.links.append (List.isChain_singleton _) ?_
    intro item last next first
    rw [covering.pushed] at last
    injection first with same
    rw [← same]
    exact covering.link_next idle last damage
  · rw [longer, List.getLast?_concat]
    exact pushed.symm
  · rw [longer]
    intro item member
    rcases List.mem_append.mp member with earlier | last
    · exact covering.sized item earlier
    · rw [List.mem_singleton.mp last]
      exact sized
  · intro seq member
    change seq ∈ thread.flagged at member
    change _ → thread.framesDropped = true
    rw [flagged] at member
    rw [dropped]
    exact covering.pending seq member

theorem Covering.capture {action : CaptureAction} {thread : CaptureThread}
    (covering : before.Covering captured)
    (stepped : before.thread.captureStep capacity action = some thread)
    (returned : before.FromBackend captured (.capture action))
    (noticed : before.DropsNoticed captured (.capture action)) :
    { before with thread := thread }.Covering captured := by
  have tracked := covering.tracked.captureStep stepped noticed
  cases action with
  | limit frame =>
      obtain ⟨_, rfl⟩ := CaptureThread.captureStep_limit stepped
      exact { covering with tracked := tracked }
  | push frame =>
      obtain ⟨idle, ⟨_, rfl⟩ | ⟨_, rfl⟩⟩ :=
        CaptureThread.captureStep_push stepped
      · exact covering.push idle returned.1 returned.2 tracked rfl rfl rfl
          rfl
      · exact { covering with tracked := tracked }
  | storeDropped =>
      obtain ⟨seq, _, rfl⟩ := CaptureThread.captureStep_storeDropped stepped
      exact
        { covering with
          tracked := tracked
          links := covering.links.imp fun _ _ link => link.append [seq]
          pending := fun _ _ _ => rfl }

/-! ## The compress loop keeps it -/

theorem Covering.tryRecv (covering : before.Covering captured)
    (performed : before.recvStep = some after) :
    after.Covering captured := by
  obtain ⟨ring, consumer, rfl, held, notYet, notNow⟩ :=
    recvStep_eq_some performed
  have sameLine : { before with
      thread := { before.thread with ring := ring }
      consumer := consumer }.line = before.line := by
    rw [line, line, ← held]
  exact
    { tracked :=
        ⟨covering.tracked.pushed, covering.tracked.flagged,
          covering.tracked.storing, covering.tracked.latest⟩
      links := by
        rw [sameLine]
        exact covering.links
      pushed := by
        rw [sameLine]
        exact covering.pushed
      sized := by
        rw [sameLine]
        exact covering.sized
      pending := covering.pending
      base :=
        (baseKnown_iff notNow).mpr ((baseKnown_iff notYet).mp covering.base)
      covers := covering.covers }

/-- Frames are taken from the ring in the order of their numbers. -/
theorem Covering.processed_lt (covering : before.Covering captured)
    {item other : Returned} (processed : item ∈ before.processed)
    (held : other ∈ before.consumer.held) : item.seq < other.seq := by
  have seqs : List.IsChain (· < ·) (before.line.map Returned.seq) :=
    (List.isChain_map _).mpr (covering.links.imp fun _ _ link => link.1)
  rw [line, processed] at seqs
  apply seqs.rel_cons
  apply List.mem_map_of_mem
  change other ∈ before.consumer.held ++ before.thread.ring
  exact List.mem_append.mpr (Or.inl held)

/-- A round that takes the flag leaves no drop unnoticed. -/
theorem Covering.flagged_le (covering : before.Covering captured)
    {first : Returned} {newer : List Returned}
    (at_ : before.consumer = .drained first newer)
    (inTime : FlagInTime before.thread before.consumer) {seq : Nat}
    (flagged : seq ∈ before.thread.flagged) :
    seq ≤ (newer.getLastD first).seq := by
  have held : newer.getLastD first ∈ before.consumer.held := by
    rw [at_]
    exact List.getLastD_mem_cons
  rw [at_] at inTime
  by_cases dropped : before.thread.framesDropped = true
  · exact Nat.le_of_lt (inTime dropped seq flagged)
  · by_contra late
    apply dropped
    apply covering.pending seq flagged
    intro item processed
    have early := covering.processed_lt processed held
    omega

theorem Covering.takeDroppedFlag (covering : before.Covering captured)
    (performed : before.flagStep = some after)
    (inTime : FlagInTime before.thread before.consumer) :
    after.Covering captured := by
  obtain ⟨first, newer, at_, rfl⟩ := flagStep_eq_some performed
  have known : before.BaseProcessed := by
    have base := covering.base
    rw [at_] at base
    exact base
  have lineEq : before.line = before.processed.toList ++
      (first :: newer ++ before.thread.ring) := by
    rw [line, at_]
    rfl
  have lastHeld : newer.getLastD first ∈ (first :: newer).getLast? := by
    rw [List.getLast?_cons, List.getLastD_eq_getLast?]
    rfl
  have latestLine : newer.getLastD first :: before.thread.ring <:+
      before.line := by
    refine ⟨before.processed.toList ++ (first :: newer).dropLast, ?_⟩
    rw [lineEq, ← List.dropLast_append_getLast? _ lastHeld]
    simp
  refine
    { tracked :=
        ⟨covering.tracked.pushed, covering.tracked.flagged,
          covering.tracked.storing, covering.tracked.latest⟩
      links := covering.links.suffix latestLine
      pushed := ?_
      sized := fun item member =>
        covering.sized item (latestLine.subset member)
      pending := ?_
      base := ⟨rfl, ?_⟩
      covers := covering.covers }
  · obtain ⟨front, split⟩ := latestLine
    have pushed := covering.pushed
    rw [← split, List.getLast?_append_of_ne_nil _ (by simp)] at pushed
    exact pushed
  · intro seq flagged later
    have early := covering.flagged_le at_ inTime flagged
    have late := later (newer.getLastD first) rfl
    exact absurd late (Nat.not_lt_of_le early)
  · intro single undropped partialDamage notFirst
    obtain ⟨item, processed, same⟩ := known partialDamage notFirst
    have links := covering.links
    rw [lineEq, processed, single] at links
    change Covers captured _ _ before.loop.previousFrame
    rw [← same]
    apply (List.isChain_cons_cons.mp links).1.2
    intro seq flagged
    apply Or.inl
    by_contra late
    have pending := covering.pending seq flagged (by
      intro other member
      rw [Option.mem_unique member processed]
      exact Nat.lt_of_not_le late)
    rw [undropped] at pending
    cases pending

/-- The regions of a round cover what changed, if the damage of a frame does
that is not sent with full damage. -/
theorem updateCovers_of_round {loop : LoopState} {input : RoundInput}
    {step : ServerStep} (unscaled : config.downscale = none)
    (done : round profile config loop input = .ok step)
    (sized : capturedGeometry input.latest = captured)
    (known : input.newer = [] → input.dropped = false →
      loop.needFullDamage = false → loop.isFirst = false →
        Covers captured input.first.damage input.first.data
          loop.previousFrame) : UpdateCovers step := by
  obtain ⟨_, beforeEq, prepared, _⟩ := round_eq_ok done
  have viewEq := viewOf_unscaled unscaled prepared.view
  intro _ _
  rcases chooseRegions_eq_ok prepared.regions with
    upTo | ⟨_, update, partialDamage, damage⟩
  · exact StripesUpTo.covers upTo _ _
  · rw [FrameMessage.geometry, viewEq, damage]
    change Covers (capturedGeometry input.latest) input.latest.damage
      input.latest.data _
    rw [beforeEq] at update partialDamage ⊢
    simp only [LoopState.forceAnchor, LoopState.noteSkipped,
      Bool.or_eq_false_iff, Bool.not_eq_false', List.isEmpty_iff]
      at update partialDamage
    obtain ⟨⟨partialDamage, single⟩, undropped⟩ := partialDamage
    have latestEq : input.latest = input.first := by
      rw [RoundInput.latest, single]
      rfl
    rw [sized, latestEq]
    exact known single undropped partialDamage update.1

theorem Covering.send (unscaled : config.downscale = none) {sent : Bool}
    (covering : before.Covering captured)
    (performed : before.sendStep profile config sent = some after) :
    after.Covering captured := by
  obtain ⟨first, newer, dropped, step, at_, done, rfl⟩ :=
    sendStep_eq_some performed
  have base := covering.base
  rw [at_] at base
  obtain ⟨processed, known⟩ := base
  have latestEq : RoundInput.latest
      ⟨first.frame, newer.map Returned.frame, dropped, sent⟩ =
        (newer.getLastD first).frame := List.getLastD_map
  have lineEq : before.line =
      newer.getLastD first :: before.thread.ring := by
    rw [line, at_, processed]
    rfl
  have sameLine : { before with
      consumer := .waiting
      loop := step.after
      steps := before.steps ++ [step] }.line = before.line := by
    rw [lineEq, line, processed]
    rfl
  refine
    { tracked := covering.tracked
      links := ?_
      pushed := ?_
      sized := ?_
      pending := covering.pending
      base := ?_
      covers := ?_ }
  · rw [sameLine]
    exact covering.links
  · rw [sameLine]
    exact covering.pushed
  · rw [sameLine]
    exact covering.sized
  · intro partialDamage _
    refine ⟨newer.getLastD first, processed, ?_⟩
    obtain ⟨_, _, prepared, afterEq⟩ := round_eq_ok done
    have viewEq := viewOf_unscaled unscaled prepared.view
    change step.after.needFullDamage = false at partialDamage
    change _ = step.after.previousFrame
    rw [afterEq] at partialDamage ⊢
    have accepted : sent = true := Bool.not_eq_false' sent ▸ partialDamage
    rw [LoopState.afterSend, accepted, if_pos rfl, viewEq, ← accepted,
      latestEq]
  · intro other member
    rcases List.mem_append.mp member with earlier | last
    · exact covering.covers other earlier
    · have sized := covering.sized (newer.getLastD first)
        (by rw [lineEq]; exact List.mem_cons_self)
      rw [← latestEq] at sized
      rw [List.mem_singleton.mp last]
      exact updateCovers_of_round unscaled done sized fun single =>
        known (List.map_eq_nil_iff.mp single)

/-! ## Whole runs -/

theorem Covering.perform (unscaled : config.downscale = none)
    {action : ServerAction} (covering : before.Covering captured)
    (performed : before.perform profile config capacity action = some after)
    (returned : before.FromBackend captured action)
    (noticed : before.DropsNoticed captured action) :
    after.Covering captured := by
  cases action with
  | capture action =>
      obtain ⟨thread, stepped, rfl⟩ := perform_capture performed
      exact covering.capture stepped returned noticed
  | tryRecv => exact covering.tryRecv performed
  | takeDroppedFlag => exact covering.takeDroppedFlag performed noticed
  | send sent => exact covering.send unscaled performed

/-- The rounds of a run are rounds of the loop. -/
theorem rounds_perform {action : ServerAction}
    (performed : before.perform profile config capacity action = some after)
    (rounds : Run (roundStep profile config) LoopState.initial before.steps
      before.loop) :
    Run (roundStep profile config) LoopState.initial after.steps
      after.loop := by
  cases action with
  | capture action =>
      obtain ⟨thread, _, rfl⟩ := perform_capture performed
      exact rounds
  | tryRecv =>
      obtain ⟨ring, consumer, rfl, _⟩ := recvStep_eq_some performed
      exact rounds
  | takeDroppedFlag =>
      obtain ⟨first, newer, _, rfl⟩ := flagStep_eq_some performed
      exact rounds
  | send sent =>
      obtain ⟨first, newer, dropped, step, _, done, rfl⟩ :=
        sendStep_eq_some performed
      obtain ⟨inputEq, _, _, _⟩ := round_eq_ok done
      rw [← inputEq] at done
      exact run_concat_iff.mpr ⟨before.loop, rounds, done, rfl⟩

end ServerState

section Runs

variable {profile : Profile} {config : ServerConfig} {capacity : Nat}
variable {captured : Geometry}

/-- A step of either thread that keeps the assumptions. -/
def ServerState.Noticed (captured : Geometry) (state : ServerState)
    (action : ServerAction) : Prop :=
  state.FromBackend captured action ∧ state.DropsNoticed captured action

instance (captured : Geometry) (state : ServerState)
    (action : ServerAction) : Decidable (state.Noticed captured action) :=
  inferInstanceAs (Decidable (_ ∧ _))

/-- In every interleaving of the capture thread and the loop in which the
rate limiter drops no changed frame, and the flag is never taken with a frame
older than a drop, the regions of each accepted update cover what changed. -/
theorem updateCovers_of_run (unscaled : config.downscale = none)
    {actions : List ServerAction} {last : ServerState}
    (run : Run (fun before action after =>
        before.perform profile config capacity action = some after ∧
          before.Noticed captured action)
      ServerState.initial actions last) :
    compressSendLoop profile config LoopState.initial
        (last.steps.map ServerStep.input) = .ok last.steps ∧
      ∀ step, step ∈ last.steps → UpdateCovers step := by
  have rounds := run.keeps
    (fun _ _ _ stepped kept => ServerState.rounds_perform stepped.1 kept)
    (.nil LoopState.initial)
  have covering := run.keeps
    (fun _ _ _ ⟨performed, returned, noticed⟩ kept =>
      ServerState.Covering.perform unscaled kept performed returned noticed)
    ServerState.covering_initial
  exact ⟨compressSendLoop_of_rounds rounds, covering.covers⟩

end Runs

/-! ## Example runs -/

/-- A 2×1 picture of which the given pixels changed. -/
def changedFrame (data : List UInt8) (damage : List DamageRect) :
    CapturedFrame :=
  { smallFrame data with damage := damage }

def firstPicture : List UInt8 := [1, 2, 3, 4, 5, 6, 7, 8]

def firstPixel : DamageRect := ⟨0, 0, 1, 1⟩

def secondPixel : DamageRect := ⟨1, 0, 1, 1⟩

def startFrame : CapturedFrame := changedFrame firstPicture [firstPixel]

def unchangedFrame : CapturedFrame := changedFrame firstPicture []

/-- Changes the first pixel. -/
def middleFrame : CapturedFrame :=
  changedFrame [9, 2, 3, 4, 5, 6, 7, 8] [firstPixel]

/-- Then changes the second pixel. -/
def finalFrame : CapturedFrame :=
  changedFrame [9, 2, 3, 4, 9, 6, 7, 8] [secondPixel]

/-- A round that finds the given number of frames in the ring. -/
def roundActions (frames : Nat) : List ServerAction :=
  List.replicate (frames + 1) .tryRecv ++ [.takeDroppedFlag, .send true]

/-- The rate limiter drops the frame that changes the first pixel. -/
def limitedActions : List ServerAction :=
  .capture (.push startFrame) :: roundActions 1 ++
    [.capture (.limit middleFrame), .capture (.push finalFrame)] ++
      roundActions 1

/-- The ring is full when the first pixel changes, and the flag is taken with
the last frame that the ring held. -/
def overflowActions : List ServerAction :=
  .capture (.push startFrame) ::
    List.replicate 3 (.capture (.push unchangedFrame)) ++
    [.capture (.push middleFrame), .capture .storeDropped] ++
    roundActions 4 ++ .capture (.push finalFrame) :: roundActions 1

/-- In both runs an accepted update leaves out the first pixel. -/
theorem updateCovers_fails :
    (∀ frame,
      frame ∈ [startFrame, unchangedFrame, middleFrame, finalFrame] →
        frame.WellFormed) ∧
    ∀ actions, actions = limitedActions ∨ actions = overflowActions →
      ∃ last, Run (fun before action after =>
          before.perform .dev plainServer ringCapacity action =
              some after ∧
            before.FromBackend ⟨2, 1, 8⟩ action)
        ServerState.initial actions last ∧
      ∃ step, step ∈ last.steps ∧ ¬ UpdateCovers step := by
  refine ⟨by decide, ?_⟩
  intro actions either
  have evaluated : (actions.foldlM (fun (before : ServerState) action =>
      if before.FromBackend ⟨2, 1, 8⟩ action then
        before.perform .dev plainServer ringCapacity action
      else none) ServerState.initial).map (fun (last : ServerState) =>
        decide (∃ step, step ∈ last.steps ∧ ¬ UpdateCovers step)) =
      some true := by
    rcases either with rfl | rfl
    · decide +kernel
    · decide +kernel
  obtain ⟨last, iterated, outcome⟩ := Option.map_eq_some_iff.mp evaluated
  exact ⟨last, run_iff_foldlM_guarded.mpr iterated,
    of_decide_eq_true outcome⟩

/-- An unchanged frame is dropped early, a changed one is sent, and the flag
for a drop is set after the ring was drained and taken with the next frame. -/
def noticedActions : List ServerAction :=
  .capture (.push startFrame) :: roundActions 1 ++
    [.capture (.limit unchangedFrame), .capture (.push middleFrame)] ++
    roundActions 1 ++
    List.replicate 4 (.capture (.push { middleFrame with damage := [] })) ++
    .capture (.push finalFrame) :: roundActions 4 ++
    [.capture .storeDropped,
      .capture (.push { finalFrame with damage := [] })] ++ roundActions 1

theorem updateCovers_of_run_noticed :
    ∃ last, Run (fun before action after =>
          before.perform .dev plainServer ringCapacity action =
              some after ∧
            before.Noticed ⟨2, 1, 8⟩ action)
        ServerState.initial noticedActions last ∧
      last.steps.length = 4 ∧
      ∀ step, step ∈ last.steps → UpdateCovers step := by
  have evaluated : (noticedActions.foldlM (fun (before : ServerState) action =>
      if before.Noticed ⟨2, 1, 8⟩ action then
        before.perform .dev plainServer ringCapacity action
      else none) ServerState.initial).map (fun (last : ServerState) =>
        last.steps.length) = some 4 := by
    decide +kernel
  obtain ⟨last, iterated, rounds⟩ := Option.map_eq_some_iff.mp evaluated
  have run := run_iff_foldlM_guarded.mpr iterated
  exact ⟨last, run, rounds, (updateCovers_of_run rfl run).2⟩

end RemoteWay.System
