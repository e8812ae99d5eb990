import RemoteWay.Base.Runs
import RemoteWay.Capture.ExtEvents

/-!
# Frames of an ext-image-capture session

A returned frame has the size that was announced last, and the pixels of the
pool that was created at set-up.  It is well formed exactly if the announced
size still has as many pixels as the pool, its rows can be measured in `u32`,
and the damage of a frame without a transform lies inside.
-/

namespace RemoteWay.Capture

open RemoteWay.Base RemoteWay.Compress

namespace ExtCaptureState

/-! ## What a call returns -/

/-- The format of the frame that a call ends with. -/
def Labelled (state : ExtCaptureState) : Prop :=
  ∃ format, PixelFormat.fromWlShm (state.shmFormat.getD 0) = some format

/-- A frame that was copied out of the pool. -/
structure Copied (state : ExtCaptureState) (pool : ShmBufferPool)
    (frame : CapturedFrame) : Prop where
  length_eq : frame.data.length = pool.bufferSize
  width_eq : frame.width = state.bufferWidth
  height_eq : frame.height = state.bufferHeight
  stride_eq : state.bufferWidth * 4 = frame.stride
  damage_eq : frame.damage =
    if state.frameTransform = 0 then
      if state.damageRects.isEmpty then state.fullDamage
      else state.damageRects
    else state.fullDamage

/-- What copying a frame leads to. -/
theorem copyFrame_eq_ok {profile : Profile} {state after : ExtCaptureState}
    {memory : Nat → UInt8} {pool : ShmBufferPool}
    {returned : Except CaptureError CapturedFrame}
    (pooled : state.shmPool = some pool)
    (copied : state.copyFrame profile memory = .ok (returned, after)) :
    after.session = state.session ∧
      ((¬state.Labelled ∧ (∃ reason, returned = .error reason) ∧
          after.shmPool = some pool) ∨
        (state.Labelled ∧ after.shmPool = some pool.swap ∧
          ∃ frame, returned = .ok frame ∧ state.Copied pool frame)) := by
  rw [copyFrame] at copied
  dsimp only at copied
  have shared : ∀ damaged : ExtCaptureState,
      damaged = (if state.damageRects.isEmpty = true then
        { state with damageRects := state.fullDamage } else state) →
      damaged.bufferWidth = state.bufferWidth ∧
        damaged.bufferHeight = state.bufferHeight ∧
        damaged.shmFormat = state.shmFormat ∧
        damaged.shmPool = state.shmPool ∧
        damaged.session = state.session ∧
        damaged.frameTransform = state.frameTransform ∧
        damaged.damageRects = if state.damageRects.isEmpty then
          state.fullDamage else state.damageRects := by
    rintro damaged rfl
    split <;> exact ⟨rfl, rfl, rfl, rfl, rfl, rfl, rfl⟩
  generalize damagedEq : (if state.damageRects.isEmpty = true then
    { state with damageRects := state.fullDamage } else state) = damaged
    at copied
  obtain ⟨width, height, format, samePool, sameSession, transform, rects⟩ :=
    shared damaged damagedEq.symm
  rw [bind_eq_ok_iff] at copied
  obtain ⟨stride, strideEq, copied⟩ := copied
  cases known : PixelFormat.fromWlShm (damaged.shmFormat.getD 0) with
  | none =>
      rw [known] at copied
      injection copied with same
      injection same with returnedEq afterEq
      subst returnedEq afterEq
      refine ⟨sameSession, Or.inl ⟨?_, ⟨_, rfl⟩, by rw [samePool, pooled]⟩⟩
      rintro ⟨label, found⟩
      rw [← format, known] at found
      cases found
  | some label =>
      rw [known, samePool, pooled] at copied
      dsimp only at copied
      rw [bind_eq_ok_iff] at copied
      obtain ⟨⟨data, damage⟩, undone, copied⟩ := copied
      injection copied with same
      injection same with returnedEq afterEq
      subst returnedEq afterEq
      obtain ⟨length, damageEq⟩ := undoTransform_eq_ok undone
      refine ⟨sameSession, Or.inr ⟨⟨label, by rw [← format]; exact known⟩,
        rfl, _, rfl, ?_⟩⟩
      exact
        { length_eq := by
            rw [length, ShmBufferPool.length_activeData]
          width_eq := width
          height_eq := height
          stride_eq := by
            rw [← width]
            exact u32Mul_eq_ok strideEq
          damage_eq := by
            dsimp only
            rw [damageEq, transform, rects, fullDamage, fullDamage, width,
              height] }

/-- A frame is copied unless the session has ended or the frame failed. -/
theorem finishFrame_eq_ok {profile : Profile} {state after : ExtCaptureState}
    {memory : Nat → UInt8} {returned : Except CaptureError CapturedFrame}
    (finished : state.finishFrame profile memory = .ok (returned, after)) :
    ((state.frameFailed || state.stopped) = true ∧
        (∃ reason, returned = .error reason) ∧ after = state) ∨
      ((state.frameFailed || state.stopped) = false ∧
        state.copyFrame profile memory = .ok (returned, after)) := by
  rw [finishFrame] at finished
  cases stopped : state.stopped with
  | true =>
      rw [stopped, if_pos rfl] at finished
      injection finished with same
      injection same with resultEq lastEq
      exact Or.inl ⟨Bool.or_true _, ⟨_, resultEq.symm⟩, lastEq.symm⟩
  | false =>
      rw [stopped, if_neg (by decide)] at finished
      cases failed : state.frameFailed with
      | true =>
          rw [failed, if_pos rfl] at finished
          injection finished with same
          injection same with resultEq lastEq
          exact Or.inl ⟨rfl, ⟨_, resultEq.symm⟩, lastEq.symm⟩
      | false =>
          rw [failed, if_neg (by decide)] at finished
          exact Or.inr ⟨rfl, finished⟩

abbrev ExtScript := List (DispatchOutcome ExtEvent)

/-- The call is not cut short, and its frame has a supported format. -/
structure Completes (state : ExtCaptureState) (script : ExtScript) :
    Prop where
  running : state.stopped = false
  unaborted : (scriptEvents script).any ExtEvent.aborts = false
  unbroken : ¬∃ events reason, DispatchOutcome.failed events reason ∈ script
  labelled : ∃ format, PixelFormat.fromWlShm
    ((state.formatAfter (scriptEvents script)).getD 0) = some format

/-- The frame that a call returns, in terms of what the compositor sent. -/
structure Delivered (state : ExtCaptureState) (script : ExtScript)
    (pool : ShmBufferPool) (frame : CapturedFrame) : Prop where
  length_eq : frame.data.length = pool.bufferSize
  size_eq : (frame.width, frame.height) =
    state.sizeAfter (scriptEvents script)
  stride_eq : frame.width * 4 = frame.stride
  damage_eq : frame.damage =
    if state.transformAfter (scriptEvents script) = 0 ∧
        (scriptEvents script).filterMap ExtEvent.rect ≠ [] then
      (scriptEvents script).filterMap ExtEvent.rect
    else [⟨0, 0, frame.width, frame.height⟩]

private theorem Copied.delivered {before state : ExtCaptureState}
    {script : ExtScript} {pool : ShmBufferPool} {frame : CapturedFrame}
    (copied : state.Copied pool frame)
    (handled : before.beginFrame.Handled (scriptEvents script) state) :
    before.Delivered script pool frame := by
  have damage : state.damageRects =
      (scriptEvents script).filterMap ExtEvent.rect := handled.damage
  have transform : state.frameTransform =
      before.transformAfter (scriptEvents script) := handled.transform
  constructor
  · exact copied.length_eq
  · rw [copied.width_eq, copied.height_eq]
    exact handled.size
  · rw [copied.width_eq]
    exact copied.stride_eq
  · rw [copied.damage_eq, copied.width_eq, copied.height_eq, fullDamage,
      transform, damage]
    by_cases upright : before.transformAfter (scriptEvents script) = 0
    · cases rects : (scriptEvents script).filterMap ExtEvent.rect <;>
        simp [upright]
    · simp [upright]

/-- What a call leads to. -/
theorem nextFrame_eq_ok {profile : Profile} {before after : ExtCaptureState}
    {script : ExtScript} {memory : Nat → UInt8} {pool : ShmBufferPool}
    {returned : Except CaptureError CapturedFrame}
    (opened : before.session = true)
    (pooled : before.shmPool = some pool)
    (done : before.nextFrame profile script memory =
      .ok (returned, after, [])) :
    after.session = true ∧
      ((¬before.Completes script ∧ (∃ reason, returned = .error reason) ∧
          after.shmPool = some pool) ∨
        (before.Completes script ∧ after.shmPool = some pool.swap ∧
          ∃ frame, returned = .ok frame ∧
            before.Delivered script pool frame)) := by
  rw [nextFrame] at done
  by_cases stopped : before.stopped = true
  · rw [if_pos stopped] at done
    injection done with same
    injection same with returnedEq same
    injection same with afterEq _
    subst returnedEq afterEq
    refine ⟨opened, Or.inl ⟨?_, ⟨_, rfl⟩, pooled⟩⟩
    intro completes
    rw [completes.running] at stopped
    cases stopped
  · rw [if_neg stopped, opened, pooled] at done
    rw [if_neg (by decide), if_neg (by simp), bind_eq_ok_iff] at done
    obtain ⟨⟨waited, state, rest⟩, awaited, done⟩ := done
    obtain ⟨used, wait⟩ := awaitEvents_eq_ok awaited
    have handled := handled_of_foldlM wait.handled
    have open' : state.session = true := by
      rw [handled.session]
      exact opened
    have pool' : state.shmPool = some pool := by
      rw [handled.pool]
      exact pooled
    have aborted := handled.aborted
    have running : before.stopped = false := by simpa using stopped
    rw [beginFrame, running] at aborted
    simp only [Bool.false_or] at aborted
    cases waited with
    | failed reason =>
        injection done with same
        injection same with returnedEq same
        injection same with afterEq restEq
        subst returnedEq afterEq restEq
        refine ⟨open', Or.inl ⟨?_, ⟨_, rfl⟩, pool'⟩⟩
        intro completes
        have broken := wait.failure.mpr ⟨reason, rfl⟩
        rw [← List.append_nil used, ← wait.script_eq] at broken
        exact completes.unbroken broken
    | timedOut => cases wait.timeout rfl
    | satisfied =>
        dsimp only at done
        rw [bind_eq_ok_iff] at done
        obtain ⟨⟨result, last⟩, finished, done⟩ := done
        injection done with same
        injection same with returnedEq same
        injection same with afterEq restEq
        subst returnedEq afterEq restEq
        have whole : used = script := by
          rw [wait.script_eq, List.append_nil]
        subst whole
        rcases finishFrame_eq_ok finished with
          ⟨cut, reported, rfl⟩ | ⟨uncut, finished⟩
        · refine ⟨open', Or.inl ⟨?_, reported, pool'⟩⟩
          intro completes
          rw [cut, completes.unaborted] at aborted
          cases aborted
        · have unaborted :
              (scriptEvents used).any ExtEvent.aborts = false :=
            aborted.symm.trans uncut
          obtain ⟨sameSession, unlabelled | labelled⟩ :=
            copyFrame_eq_ok pool' finished
          · obtain ⟨unsupported, reported, kept⟩ := unlabelled
            refine ⟨by rw [sameSession, open'], Or.inl ⟨?_, reported, kept⟩⟩
            intro completes
            apply unsupported
            rw [Labelled, handled.format]
            exact completes.labelled
          · obtain ⟨supported, swapped, frame, returned, copied⟩ := labelled
            refine ⟨by rw [sameSession, open'],
              Or.inr ⟨?_, swapped, frame, returned,
                copied.delivered handled⟩⟩
            rw [Labelled, handled.format] at supported
            exact
              { running := running
                unaborted := unaborted
                unbroken := by
                  intro broken
                  obtain ⟨reason, impossible⟩ := wait.failure.mp broken
                  cases impossible
                labelled := supported }

/-! ## When a frame is well formed -/

/-- The announced size has the pixels of the pool, and the damage lies in
it. -/
structure FitsPool (state : ExtCaptureState) (script : ExtScript)
    (pool : ShmBufferPool) : Prop where
  rows : (state.sizeAfter (scriptEvents script)).1.toNat * 4 < UInt32.size
  area : (state.sizeAfter (scriptEvents script)).1.toNat *
      (state.sizeAfter (scriptEvents script)).2.toNat =
    pool.width.toNat * pool.height.toNat
  damage : state.transformAfter (scriptEvents script) = 0 →
    ∀ rect, rect ∈ (scriptEvents script).filterMap ExtEvent.rect →
      InPicture (state.sizeAfter (scriptEvents script)).1
        (state.sizeAfter (scriptEvents script)).2 rect

end ExtCaptureState

/-- The buffer has whole rows of `width` pixels, and the damage is inside. -/
structure CapturedFrame.Unpadded (frame : CapturedFrame) : Prop where
  length_eq : frame.data.length = frame.stride.toNat * frame.height.toNat
  rows : frame.stride.toNat = frame.width.toNat * 4
  damage_inside : ∀ rect, rect ∈ frame.damage →
    InPicture frame.width frame.height rect

namespace ExtCaptureState

theorem Delivered.unpadded_iff {state : ExtCaptureState}
    {script : ExtScript} {pool : ShmBufferPool} {frame : CapturedFrame}
    (delivered : state.Delivered script pool frame)
    (tight : pool.stride.toNat = pool.width.toNat * 4) :
    frame.Unpadded ↔ state.FitsPool script pool := by
  obtain ⟨length, size, stride, damage⟩ := delivered
  have widthEq : (state.sizeAfter (scriptEvents script)).1 = frame.width := by
    rw [← size]
  have heightEq :
      (state.sizeAfter (scriptEvents script)).2 = frame.height := by
    rw [← size]
  have product : frame.stride.toNat = frame.width.toNat * 4 % 2 ^ 32 := by
    rw [← stride, UInt32.toNat_mul]
    rfl
  have full : InPicture frame.width frame.height
      ⟨0, 0, frame.width, frame.height⟩ := by
    constructor
    · exact Nat.le_of_eq (Nat.zero_add _)
    · exact Nat.le_of_eq (Nat.zero_add _)
  have cancelled : frame.width.toNat * 4 * frame.height.toNat =
        pool.bufferSize ↔
      frame.width.toNat * frame.height.toNat =
        pool.width.toNat * pool.height.toNat := by
    rw [ShmBufferPool.bufferSize, tight, Nat.mul_right_comm _ 4,
      Nat.mul_right_comm _ 4]
    exact Nat.mul_right_cancel_iff (by decide)
  constructor
  · rintro ⟨whole, rows, inside⟩
    refine ⟨?_, ?_, ?_⟩
    · rw [widthEq]
      change _ < 2 ^ 32
      omega
    · rw [widthEq, heightEq, ← cancelled, ← rows, ← whole, length]
    · intro upright rect member
      rw [widthEq, heightEq]
      apply inside
      rw [damage, if_pos ⟨upright, List.ne_nil_of_mem member⟩]
      exact member
  · rintro ⟨rows, area, inside⟩
    rw [widthEq] at rows
    have tightRows : frame.stride.toNat = frame.width.toNat * 4 := by
      rw [product]
      exact Nat.mod_eq_of_lt rows
    refine ⟨?_, tightRows, ?_⟩
    · rw [length, tightRows, cancelled.mpr (by rw [← widthEq, ← heightEq, area])]
    · intro rect member
      rw [damage] at member
      split at member
      · rename_i reported
        rw [widthEq, heightEq] at inside
        exact inside reported.1 rect member
      · rw [List.mem_singleton.mp member]
        exact full

end ExtCaptureState

/-! ## Sessions -/

/-- What the capture thread calls. -/
inductive ExtCall where
  | nextFrame (script : ExtCaptureState.ExtScript) (memory : Nat → UInt8)
  | stop

namespace ExtCall

/-- A call that returns. -/
def Step (profile : Profile) (before : ExtCaptureState) (call : ExtCall)
    (after : ExtCaptureState) : Prop :=
  match call with
  | .nextFrame script memory =>
      ∃ returned, before.nextFrame profile script memory =
        .ok (returned, after, [])
  | .stop => after = before.stop

/-- A frame that the call returns has unpadded rows and damage inside. -/
def FramesFit (profile : Profile) (before : ExtCaptureState) :
    ExtCall → Prop
  | .nextFrame script memory =>
      ∀ frame after, before.nextFrame profile script memory =
        .ok (.ok frame, after, []) → frame.Unpadded
  | .stop => True

/-- In a call that returns a frame the announced size keeps the area of the
pool, and the reported damage lies inside unless there is a transform. -/
def KeepsSize (before : ExtCaptureState) : ExtCall → Prop
  | .nextFrame script _ =>
      before.Completes script →
        ∀ pool, before.shmPool = some pool → before.FitsPool script pool
  | .stop => True

/-- The session has its pool. -/
def Opened (state : ExtCaptureState) : Prop :=
  state.session = true ∧ ∃ pool, state.shmPool = some pool ∧
    pool.stride.toNat = pool.width.toNat * 4

theorem opened_of_setUp {profile : Profile}
    {provided : Fin 2 → Except String Unit} {events : List ExtSessionEvent}
    {state : ExtCaptureState}
    (setUp : ExtCaptureState.setUp profile provided events =
      .ok (.ok state)) : Opened state := by
  rw [ExtCaptureState.setUp] at setUp
  have kept : ∀ (events : List ExtSessionEvent) (start : ExtCaptureState),
      (events.foldl ExtCaptureState.onSession start).session =
        start.session := by
    intro events
    induction events with
    | nil => exact fun _ => rfl
    | cons event events inductionHypothesis =>
        intro start
        rw [List.foldl_cons, inductionHypothesis]
        cases event <;> rfl
  have session := kept events
    { ExtCaptureState.initial with session := true }
  generalize events.foldl ExtCaptureState.onSession
    { ExtCaptureState.initial with session := true } = answered
    at setUp session
  split at setUp
  · cases setUp
  · cases format : answered.shmFormat with
    | none =>
        rw [format] at setUp
        cases setUp
    | some code =>
        rw [format] at setUp
        dsimp only at setUp
        rw [bind_eq_ok_iff] at setUp
        obtain ⟨stride, strideEq, setUp⟩ := setUp
        cases created : ShmBufferPool.new provided answered.bufferWidth
            answered.bufferHeight stride code with
        | error reason =>
            rw [created] at setUp
            cases setUp
        | ok pool =>
            rw [created] at setUp
            injection setUp with same
            injection same with same
            obtain ⟨sound, width, _, strideSame, _⟩ :=
              ShmBufferPool.new_eq_ok created
            have product := u32Mul_eq_ok strideEq
            have rows := sound.rows
            rw [← same]
            refine ⟨session, pool, rfl, ?_⟩
            rw [width, strideSame, ← product, UInt32.toNat_mul] at *
            have bounded := Nat.mod_le
              (answered.bufferWidth.toNat * UInt32.toNat 4) (2 ^ 32)
            change _ ≤ answered.bufferWidth.toNat * 4 at bounded
            omega

/-- From a session that was set up, every call keeps the size exactly if
every frame fits. -/
theorem framesFit_iff_keepsSize {profile : Profile}
    {provided : Fin 2 → Except String Unit} {events : List ExtSessionEvent}
    {start last : ExtCaptureState} {calls : List ExtCall}
    (setUp : ExtCaptureState.setUp profile provided events =
      .ok (.ok start)) :
    Run (fun before call after =>
        Step profile before call after ∧ KeepsSize before call)
        start calls last ↔
      Run (fun before call after =>
        Step profile before call after ∧ FramesFit profile before call)
        start calls last := by
  have initially := opened_of_setUp setUp
  refine run_restrict_iff ?_ ?_ initially
  · rintro before call after stepped ⟨session, pool, pooled, tight⟩ keeps
    cases call with
    | stop =>
        have same : after = before.stop := stepped
        rw [same]
        exact ⟨⟨session, pool, pooled, tight⟩, trivial⟩
    | nextFrame script memory =>
        obtain ⟨returned, done⟩ := stepped
        obtain ⟨open', outcome⟩ :=
          ExtCaptureState.nextFrame_eq_ok session pooled done
        rcases outcome with ⟨_, ⟨reason, failed⟩, kept⟩ |
          ⟨completes, swapped, frame, succeeded, delivered⟩
        · refine ⟨⟨open', pool, kept, tight⟩, ?_⟩
          intro frame later again
          rw [done, failed] at again
          cases again
        · refine ⟨⟨open', pool.swap, swapped, tight⟩, ?_⟩
          intro other later again
          rw [done, succeeded] at again
          injection again with again
          injection again with again _
          injection again with same
          subst same
          exact (delivered.unpadded_iff tight).mpr
            (keeps completes pool pooled)
  · rintro before call after stepped ⟨session, pool, pooled, tight⟩ fit
    cases call with
    | stop => exact trivial
    | nextFrame script memory =>
        intro completes other otherPooled
        rw [pooled] at otherPooled
        injection otherPooled with same
        subst same
        obtain ⟨returned, done⟩ := stepped
        obtain ⟨_, outcome⟩ :=
          ExtCaptureState.nextFrame_eq_ok session pooled done
        rcases outcome with ⟨incomplete, _⟩ |
          ⟨_, _, frame, succeeded, delivered⟩
        · exact absurd completes incomplete
        · rw [succeeded] at done
          exact (delivered.unpadded_iff tight).mp (fit frame after done)

private def offeredSize : List ExtSessionEvent :=
  [.bufferSize 2 1, .shmFormat (.value 1), .done]

/-- The session that was set up with two pixels. -/
private def pixelPair : ExtCaptureState :=
  { ExtCaptureState.initial with
    session := true
    shmPool := some
      { slots := fun index =>
          if index.val = 0 then ⟨2, 1, 8, 1, 8⟩ else ⟨2, 1, 8, 1, 8⟩
        active := ⟨0, Nat.two_pos⟩
        width := 2
        height := 1
        stride := 8
        format := 1 }
    bufferWidth := 2
    bufferHeight := 1
    shmFormat := some 1
    sessionReady := true }

private theorem setUp_pixelPair :
    ExtCaptureState.setUp .dev (fun _ => .ok ()) offeredSize =
      .ok (.ok pixelPair) := rfl

private def settledScript : ExtCaptureState.ExtScript :=
  [.timedOut, .dispatched [.frame (.damage 0 1 1 1),
    .frame (.presentationTime 0 1 5), .session (.bufferSize 1 2),
    .frame .ready]]

theorem framesFit_iff_keepsSize_settled :
    ∃ after, Run (fun before call after =>
        Step .dev before call after ∧ FramesFit .dev before call)
      pixelPair [.nextFrame settledScript fun _ => 7, .stop] after := by
  have keeps : KeepsSize pixelPair (.nextFrame settledScript fun _ => 7) := by
    intro _ pool pooled
    injection pooled with same
    subst same
    exact ⟨by decide, by decide, fun _ => by decide⟩
  exact ⟨_, (framesFit_iff_keepsSize setUp_pixelPair).mp
    (.cons ⟨⟨_, rfl⟩, keeps⟩ (.cons ⟨rfl, trivial⟩ (.nil _)))⟩

private def grownScript : ExtCaptureState.ExtScript :=
  [.timedOut, .dispatched [.session (.bufferSize 2 2), .session .done,
    .frame .ready]]

private def negativeScript : ExtCaptureState.ExtScript :=
  [.dispatched [.frame (.damage (-1) 0 1 1), .frame .ready]]

/-- A session that grows gives a frame with too few pixels, and negative
damage a frame with damage outside. -/
theorem not_framesFit_grown :
    ExtCaptureState.setUp .dev (fun _ => .ok ()) offeredSize =
        .ok (.ok pixelPair) ∧
      (∃ after, Run (Step .dev) pixelPair
          [.nextFrame grownScript fun _ => 7] after ∧
        ¬FramesFit .dev pixelPair (.nextFrame grownScript fun _ => 7)) ∧
      ∃ after, Run (Step .dev) pixelPair
          [.nextFrame negativeScript fun _ => 7] after ∧
        ¬FramesFit .dev pixelPair
          (.nextFrame negativeScript fun _ => 7) := by
  refine ⟨setUp_pixelPair, ⟨_, .cons ⟨_, rfl⟩ (.nil _), ?_⟩,
    ⟨_, .cons ⟨_, rfl⟩ (.nil _), ?_⟩⟩
  · intro fit
    have short := (fit _ _ rfl).length_eq
    revert short
    decide +kernel
  · intro fit
    have inside := (fit _ _ rfl).damage_inside
    revert inside
    decide +kernel

end ExtCall

end RemoteWay.Capture
