import RemoteWay.Base.Runs
import RemoteWay.Capture.Screencopy

/-!
# Frames of a wlr-screencopy session

The compositor offers buffers for a frame object, ends the offers with
`BufferDone`, and only then reports damage and that the frame is ready.  A
frame object that a call leaves behind is past its offers.  So the attributes
stored last are those of the call's own last offer, and the pool that is
copied into has them.
-/

namespace RemoteWay.Capture

open RemoteWay.Base RemoteWay.Compress

/-! ## The compositor -/

/-- The frame objects with an offer, and those past their offers. -/
structure Compositor where
  offered : List Nat
  done : List Nat
  deriving DecidableEq, Repr

/-- Send an event for one of the frame objects that were created, if it may
come now. -/
def Compositor.send (created : Nat) (compositor : Compositor)
    (sent : FrameObjectEvent) : Option Compositor :=
  if created ≤ sent.object then
    none
  else
    match sent.event with
    | .buffer _ _ _ _ =>
        if sent.object ∈ compositor.done then none
        else some
          { compositor with offered := sent.object :: compositor.offered }
    | .bufferDone =>
        if sent.object ∈ compositor.offered ∧
            sent.object ∉ compositor.done then
          some { compositor with done := sent.object :: compositor.done }
        else
          none
    | .damage _ _ _ _ =>
        if sent.object ∈ compositor.done then some compositor else none
    | .ready _ _ _ =>
        if sent.object ∈ compositor.done then some compositor else none
    | .failed => some compositor
    | .other => some compositor

/-- The attributes of a `Buffer` event. -/
structure BufferOffer where
  format : WEnum
  width : UInt32
  height : UInt32
  stride : UInt32
  deriving DecidableEq, Repr

/-- The offer of an event for the given frame object. -/
def FrameObjectEvent.offer (object : Nat) (sent : FrameObjectEvent) :
    Option BufferOffer :=
  if sent.object = object then
    match sent.event with
    | .buffer format width height stride =>
        some ⟨format, width, height, stride⟩
    | _ => none
  else
    none

/-- The last offer for a frame object. -/
def lastOffer (object : Nat) (events : List FrameObjectEvent) :
    Option BufferOffer :=
  (events.filterMap (FrameObjectEvent.offer object)).getLast?

/-- The attributes that the handlers stored. -/
structure ScreencopyState.Stores (state : ScreencopyState) (code : UInt32)
    (width height stride : UInt32) : Prop where
  width_eq : state.frameWidth = width
  height_eq : state.frameHeight = height
  stride_eq : state.frameStride = stride
  raw_eq : state.frameFormatRaw = code
  format_eq : state.frameFormat = PixelFormat.fromWlShm code
  wl_format_eq : state.wlShmFormat = some code

/-! ## Handling an event -/

/-- What the handler of frame events does. -/
structure ScreencopyState.Handles (before : ScreencopyState)
    (event : ScreencopyEvent) (after : ScreencopyState) : Prop where
  pool : after.shmPool = before.shmPool
  stopped : after.stopped = before.stopped
  failed : before.frameFailed = true → after.frameFailed = true
  ended : after.bufferDone = true →
    before.bufferDone = true ∨ event = .bufferDone
  offered : ∀ format width height stride,
    event = .buffer format width height stride →
      after.frameFailed = true ∨
        ∃ code, format = .value code ∧ after.Stores code width height stride
  stored : (∀ format width height stride,
      event ≠ .buffer format width height stride) →
    ∀ code width height stride, before.Stores code width height stride →
      after.Stores code width height stride

theorem ScreencopyState.handles_of_onFrame {profile : Profile}
    {before after : ScreencopyState} {event : ScreencopyEvent}
    (handled : before.onFrame profile event = .ok after) :
    before.Handles event after := by
  cases event with
  | buffer format width height stride =>
      cases format with
      | value code =>
          injection handled with same
          subst same
          refine ⟨rfl, rfl, id, Or.inl, ?_,
            fun other => absurd rfl (other _ _ _ _)⟩
          rintro format width height stride ⟨⟩
          exact Or.inr ⟨code, rfl, rfl, rfl, rfl, rfl, rfl, rfl⟩
      | unknown code =>
          injection handled with same
          subst same
          exact ⟨rfl, rfl, fun _ => rfl, Or.inl, fun _ _ _ _ _ => Or.inl rfl,
            fun other => absurd rfl (other _ _ _ _)⟩
  | bufferDone =>
      injection handled with same
      subst same
      refine ⟨rfl, rfl, id, fun _ => Or.inr rfl, ?_, ?_⟩
      · rintro format width height stride ⟨⟩
      · rintro _ code width height stride ⟨⟩
        constructor <;> assumption
  | damage x y width height =>
      injection handled with same
      subst same
      refine ⟨rfl, rfl, id, Or.inl, ?_, ?_⟩
      · rintro format width height stride ⟨⟩
      · rintro _ code width height stride ⟨⟩
        constructor <;> assumption
  | ready tvSecHi tvSecLo tvNsec =>
      rw [onFrame, bind_eq_ok_iff] at handled
      obtain ⟨timestampNs, _, handled⟩ := handled
      injection handled with same
      subst same
      refine ⟨rfl, rfl, id, Or.inl, ?_, ?_⟩
      · rintro format width height stride ⟨⟩
      · rintro _ code width height stride ⟨⟩
        constructor <;> assumption
  | failed =>
      injection handled with same
      subst same
      refine ⟨rfl, rfl, fun _ => rfl, Or.inl, ?_, ?_⟩
      · rintro format width height stride ⟨⟩
      · rintro _ code width height stride ⟨⟩
        constructor <;> assumption
  | other =>
      injection handled with same
      subst same
      refine ⟨rfl, rfl, id, Or.inl, ?_, ?_⟩
      · rintro format width height stride ⟨⟩
      · exact fun _ _ _ _ _ stored => stored

/-- What handling an event leaves alone. -/
structure Untouched (before after : ScreencopyBackend) : Prop where
  live : after.live = before.live
  created : after.created = before.created
  copied : after.copied = before.copied
  pool : after.state.shmPool = before.state.shmPool
  stopped : after.state.stopped = before.state.stopped

theorem Untouched.refl (backend : ScreencopyBackend) :
    Untouched backend backend :=
  ⟨rfl, rfl, rfl, rfl, rfl⟩

theorem Untouched.trans {first second third : ScreencopyBackend}
    (early : Untouched first second) (late : Untouched second third) :
    Untouched first third :=
  ⟨late.live.trans early.live, late.created.trans early.created,
    late.copied.trans early.copied, late.pool.trans early.pool,
    late.stopped.trans early.stopped⟩

/-- The events of destroyed objects do nothing. -/
theorem ScreencopyBackend.dispatch_eq_ok {profile : Profile}
    {before after : ScreencopyBackend} {sent : FrameObjectEvent}
    (handled : before.dispatch profile sent = .ok after) :
    Untouched before after ∧
      ((sent.object ∈ before.live ∧
          before.state.Handles sent.event after.state) ∨
        (sent.object ∉ before.live ∧ after.state = before.state)) := by
  rw [dispatch] at handled
  by_cases live : sent.object ∈ before.live
  · rw [if_pos live, bind_eq_ok_iff] at handled
    obtain ⟨state, stored, handled⟩ := handled
    injection handled with same
    subst same
    have handles := ScreencopyState.handles_of_onFrame stored
    exact ⟨⟨rfl, rfl, rfl, handles.pool, handles.stopped⟩,
      Or.inl ⟨live, handles⟩⟩
  · rw [if_neg live] at handled
    injection handled with same
    subst same
    exact ⟨Untouched.refl before, Or.inr ⟨live, rfl⟩⟩

/-! ## What the compositor may send -/

/-- An event of the compositor adds offers and ends them. -/
structure Compositor.Sends (created : Nat) (before : Compositor)
    (sent : FrameObjectEvent) (after : Compositor) : Prop where
  object_lt : sent.object < created
  offered : ∀ object, object ∈ after.offered ↔ object ∈ before.offered ∨
    (object = sent.object ∧ ∃ format width height stride,
      sent.event = .buffer format width height stride)
  done : ∀ object, object ∈ after.done ↔ object ∈ before.done ∨
    (object = sent.object ∧ sent.event = .bufferDone)
  unfinished : ∀ format width height stride,
    sent.event = .buffer format width height stride →
      sent.object ∉ before.done
  ended : sent.event = .bufferDone →
    sent.object ∈ before.offered ∧ sent.object ∉ before.done

theorem Compositor.sends_of_send {created : Nat}
    {before after : Compositor} {sent : FrameObjectEvent}
    (sending : before.send created sent = some after) :
    Sends created before sent after := by
  obtain ⟨object, event⟩ := sent
  rw [send] at sending
  by_cases future : created ≤ object
  · rw [if_pos future] at sending
    cases sending
  · rw [if_neg future] at sending
    have objectLt := Nat.lt_of_not_le future
    cases event with
    | buffer format width height stride =>
        dsimp only at sending
        by_cases done : object ∈ before.done
        · rw [if_pos done] at sending
          cases sending
        · rw [if_neg done] at sending
          injection sending with same
          subst same
          constructor <;> simp [objectLt, done, or_comm]
    | bufferDone =>
        dsimp only at sending
        by_cases ends : object ∈ before.offered ∧ object ∉ before.done
        · rw [if_pos ends] at sending
          injection sending with same
          subst same
          constructor <;> simp [objectLt, ends, or_comm]
        · rw [if_neg ends] at sending
          cases sending
    | damage x y width height =>
        dsimp only at sending
        split at sending
        · injection sending with same
          subst same
          constructor <;> simp [objectLt]
        · cases sending
    | ready tvSecHi tvSecLo tvNsec =>
        dsimp only at sending
        split at sending
        · injection sending with same
          subst same
          constructor <;> simp [objectLt]
        · cases sending
    | failed =>
        injection sending with same
        subst same
        constructor <;> simp [objectLt]
    | other =>
        injection sending with same
        subst same
        constructor <;> simp [objectLt]

/-- Whether an event is an offer. -/
def ScreencopyEvent.IsOffer (event : ScreencopyEvent) : Prop :=
  ∃ format width height stride, event = .buffer format width height stride

private theorem offer_eq_none {object : Nat} {sent : FrameObjectEvent}
    (foreign : sent.object = object → ¬sent.event.IsOffer) :
    sent.offer object = none := by
  rw [FrameObjectEvent.offer]
  by_cases own : sent.object = object
  · rw [if_pos own]
    cases event : sent.event with
    | buffer format width height stride =>
        exact absurd ⟨format, width, height, stride, event⟩ (foreign own)
    | bufferDone => rfl
    | damage x y width height => rfl
    | ready tvSecHi tvSecLo tvNsec => rfl
    | failed => rfl
    | other => rfl
  · rw [if_neg own]

private theorem lastOffer_concat (object : Nat)
    (events : List FrameObjectEvent) (sent : FrameObjectEvent) :
    lastOffer object (events ++ [sent]) =
      (sent.offer object).or (lastOffer object events) := by
  rw [lastOffer, lastOffer, List.filterMap_append]
  cases found : sent.offer object <;> simp [found]

/-- After `BufferDone` there are no more offers. -/
private theorem noOffers_of_done {created object : Nat}
    {more : List FrameObjectEvent} :
    ∀ {before after : Compositor}, object ∈ before.done →
      more.foldlM (Compositor.send created) before = some after →
        object ∈ after.done ∧
          more.filterMap (FrameObjectEvent.offer object) = [] := by
  induction more with
  | nil =>
      intro before after done sent
      injection sent with same
      rw [← same]
      exact ⟨done, rfl⟩
  | cons first more inductionHypothesis =>
      intro before after done sent
      rw [List.foldlM_cons] at sent
      cases firstSent : before.send created first with
      | none =>
          rw [firstSent] at sent
          cases sent
      | some middle =>
          rw [firstSent] at sent
          have sends := Compositor.sends_of_send firstSent
          obtain ⟨stillDone, none⟩ := inductionHypothesis
            ((sends.done object).mpr (Or.inl done)) sent
          refine ⟨stillDone, ?_⟩
          rw [List.filterMap_cons_none (offer_eq_none ?_)]
          · exact none
          · rintro own ⟨format, width, height, stride, offer⟩
            rw [← own] at done
            exact sends.unfinished _ _ _ _ offer done

/-- After `BufferDone` the last offer stays. -/
theorem lastOffer_of_done {created object : Nat}
    {events more : List FrameObjectEvent} {before after : Compositor}
    (done : object ∈ before.done)
    (sent : more.foldlM (Compositor.send created) before = some after) :
    lastOffer object (events ++ more) = lastOffer object events := by
  rw [lastOffer, List.filterMap_append, (noOffers_of_done done sent).2,
    List.append_nil, lastOffer]

/-! ## During a call -/

/-- Of the live frame objects only the call's own may still get offers, and
the last one of them is stored unless the frame has failed. -/
structure InCall (object : Nat) (events : List FrameObjectEvent)
    (backend : ScreencopyBackend) (compositor : Compositor) : Prop where
  live : object ∈ backend.live
  behind : ∀ other, other ∈ backend.live → other ≠ object →
    other ∈ compositor.done
  order : object ∈ compositor.done → object ∈ compositor.offered
  ended : backend.state.bufferDone = true → object ∈ compositor.done
  stored : object ∈ compositor.offered →
    backend.state.frameFailed = true ∨
      ∃ code width height stride,
        lastOffer object events = some ⟨.value code, width, height, stride⟩ ∧
          backend.state.Stores code width height stride

private theorem InCall.handle {profile : Profile} {created object : Nat}
    {events : List FrameObjectEvent} {before after : ScreencopyBackend}
    {compositor later : Compositor} {sent : FrameObjectEvent}
    (inCall : InCall object events before compositor)
    (sends : compositor.Sends created sent later)
    (handled : before.dispatch profile sent = .ok after) :
    InCall object (events ++ [sent]) after later := by
  obtain ⟨untouched, effect⟩ := ScreencopyBackend.dispatch_eq_ok handled
  -- A live object that is not done is the call's own.
  have own : sent.object ∈ before.live → sent.object ∉ compositor.done →
      sent.object = object := by
    intro live unfinished
    by_contra distinct
    exact unfinished (inCall.behind sent.object live distinct)
  have order : object ∈ later.done → object ∈ later.offered := by
    intro done
    apply (sends.offered object).mpr
    rcases (sends.done object).mp done with early | ⟨same, ends⟩
    · exact Or.inl (inCall.order early)
    · rw [same]
      exact Or.inl (sends.ended ends).1
  have behind : ∀ other, other ∈ after.live → other ≠ object →
      other ∈ later.done := by
    intro other live distinct
    rw [untouched.live] at live
    exact (sends.done other).mpr (Or.inl (inCall.behind other live distinct))
  have unoffered : (sent.object = object → ¬sent.event.IsOffer) →
      object ∈ later.offered → object ∈ compositor.offered ∧
        lastOffer object (events ++ [sent]) = lastOffer object events := by
    intro foreign offered
    rw [lastOffer_concat, offer_eq_none foreign, Option.none_or]
    rcases (sends.offered object).mp offered with early | ⟨same, offer⟩
    · exact ⟨early, rfl⟩
    · exact absurd offer (foreign same.symm)
  rcases effect with ⟨live, handles⟩ | ⟨dead, unchanged⟩
  · refine ⟨untouched.live ▸ inCall.live, behind, order, ?_, ?_⟩
    · intro ended
      apply (sends.done object).mpr
      rcases handles.ended ended with early | ends
      · exact Or.inl (inCall.ended early)
      · exact Or.inr ⟨(own live (sends.ended ends).2).symm, ends⟩
    · by_cases offer : sent.event.IsOffer
      · obtain ⟨format, width, height, stride, offer⟩ := offer
        have same := own live (sends.unfinished _ _ _ _ offer)
        intro _
        rcases handles.offered _ _ _ _ offer with failed | ⟨code, rfl, stores⟩
        · exact Or.inl failed
        · refine Or.inr ⟨code, width, height, stride, ?_, stores⟩
          rw [lastOffer_concat, FrameObjectEvent.offer, if_pos same, offer]
          rfl
      · intro offered
        obtain ⟨early, lastSame⟩ := unoffered (fun _ => offer) offered
        rcases inCall.stored early with failed |
          ⟨code, width, height, stride, last, stores⟩
        · exact Or.inl (handles.failed failed)
        · refine Or.inr ⟨code, width, height, stride, lastSame.trans last,
            handles.stored ?_ _ _ _ _ stores⟩
          intro format width height stride is
          exact offer ⟨format, width, height, stride, is⟩
  · have foreign : sent.object ≠ object := by
      rintro same
      rw [same] at dead
      exact dead inCall.live
    refine ⟨untouched.live ▸ inCall.live, behind, order, ?_, ?_⟩
    · intro ended
      rw [unchanged] at ended
      exact (sends.done object).mpr (Or.inl (inCall.ended ended))
    · intro offered
      obtain ⟨early, lastSame⟩ :=
        unoffered (fun same => absurd same foreign) offered
      rw [unchanged, lastSame]
      exact inCall.stored early

/-- What the events of a call lead to. -/
theorem InCall.handleAll {profile : Profile} {created object : Nat}
    {more : List FrameObjectEvent} :
    ∀ {events : List FrameObjectEvent} {before after : ScreencopyBackend}
      {compositor later : Compositor},
      InCall object events before compositor →
        more.foldlM (Compositor.send created) compositor = some later →
        more.foldlM (ScreencopyBackend.dispatch profile) before = .ok after →
          InCall object (events ++ more) after later ∧
            Untouched before after := by
  induction more with
  | nil =>
      intro events before after compositor later inCall sent handled
      injection sent with same
      injection handled with sameBackend
      subst same sameBackend
      rw [List.append_nil]
      exact ⟨inCall, Untouched.refl before⟩
  | cons first more inductionHypothesis =>
      intro events before after compositor later inCall sent handled
      rw [List.foldlM_cons] at sent handled
      rw [bind_eq_ok_iff] at handled
      obtain ⟨middle, firstHandled, handled⟩ := handled
      cases firstSent : compositor.send created first with
      | none =>
          rw [firstSent] at sent
          cases sent
      | some between =>
          rw [firstSent] at sent
          have step := inCall.handle (Compositor.sends_of_send firstSent)
            firstHandled
          obtain ⟨rest, untouched⟩ := inductionHypothesis step sent handled
          rw [List.append_assoc, List.singleton_append] at rest
          exact ⟨rest,
            (ScreencopyBackend.dispatch_eq_ok firstHandled).1.trans
              untouched⟩

/-! ## What a call returns -/

/-- A frame with the attributes of an offer, out of a buffer that was created
with them. -/
structure Matches (offer : Option BufferOffer) (copied : Option ShmSlot)
    (frame : CapturedFrame) : Prop where
  offered : ∃ code, PixelFormat.fromWlShm code = some frame.format ∧
    offer = some ⟨.value code, frame.width, frame.height, frame.stride⟩ ∧
    copied = some ⟨frame.width.toInt32, frame.height.toInt32,
      frame.stride.toInt32, code, frame.stride.toNat * frame.height.toNat⟩
  length_eq : frame.data.length = frame.stride.toNat * frame.height.toNat
  rows : frame.width.toNat * 4 ≤ frame.stride.toNat
  damaged : frame.damage ≠ []

/-- A frame that was copied out of the pool. -/
structure ScreencopyState.Copied (state : ScreencopyState)
    (pool : ShmBufferPool) (frame : CapturedFrame) : Prop where
  length_eq : frame.data.length = pool.bufferSize
  width_eq : frame.width = state.frameWidth
  height_eq : frame.height = state.frameHeight
  stride_eq : frame.stride = state.frameStride
  format_eq : state.frameFormat = some frame.format
  damaged : frame.damage ≠ []

theorem ScreencopyState.copyFrame_eq {state after : ScreencopyState}
    {memory : Nat → UInt8} {pool : ShmBufferPool}
    {returned : Except CaptureError CapturedFrame}
    (pooled : state.shmPool = some pool)
    (copied : state.copyFrame memory = (returned, after)) :
    ((∃ reason, returned = .error reason) ∧ after.shmPool = some pool) ∨
      (after.shmPool = some pool.swap ∧
        ∃ frame, returned = .ok frame ∧ state.Copied pool frame) := by
  rw [copyFrame] at copied
  dsimp only at copied
  have shared : ∀ damaged : ScreencopyState,
      damaged = (if state.damageRects.isEmpty = true then
        { state with
          damageRects := [⟨0, 0, state.frameWidth, state.frameHeight⟩] }
        else state) →
      damaged.frameWidth = state.frameWidth ∧
        damaged.frameHeight = state.frameHeight ∧
        damaged.frameStride = state.frameStride ∧
        damaged.frameFormat = state.frameFormat ∧
        damaged.shmPool = state.shmPool ∧ damaged.damageRects ≠ [] := by
    rintro damaged rfl
    by_cases empty : state.damageRects.isEmpty = true
    · rw [if_pos empty]
      exact ⟨rfl, rfl, rfl, rfl, rfl, List.cons_ne_nil _ _⟩
    · rw [if_neg empty]
      exact ⟨rfl, rfl, rfl, rfl, rfl, by simpa using empty⟩
  generalize damagedEq : (if state.damageRects.isEmpty = true then
    { state with
      damageRects := [⟨0, 0, state.frameWidth, state.frameHeight⟩] }
    else state) = damaged at copied
  obtain ⟨width, height, stride, format, samePool, rects⟩ :=
    shared damaged damagedEq.symm
  cases known : damaged.frameFormat with
  | none =>
      rw [known] at copied
      injection copied with returnedEq afterEq
      subst returnedEq afterEq
      exact Or.inl ⟨⟨_, rfl⟩, samePool.trans pooled⟩
  | some label =>
      rw [known, samePool, pooled] at copied
      injection copied with returnedEq afterEq
      subst returnedEq afterEq
      refine Or.inr ⟨rfl, _, rfl, ?_⟩
      exact
        { length_eq := pool.length_activeData memory
          width_eq := width
          height_eq := height
          stride_eq := stride
          format_eq := format ▸ known
          damaged := rects }

/-- A frame is only returned if no failure was reported. -/
theorem ScreencopyState.finishFrame_eq {state after : ScreencopyState}
    {memory : Nat → UInt8} {pool : ShmBufferPool}
    {returned : Except CaptureError CapturedFrame}
    (pooled : state.shmPool = some pool)
    (finished : state.finishFrame memory = (returned, after)) :
    ((∃ reason, returned = .error reason) ∧ after.shmPool = some pool) ∨
      (state.frameFailed = false ∧ after.shmPool = some pool.swap ∧
        ∃ frame, returned = .ok frame ∧ state.Copied pool frame) := by
  rw [finishFrame] at finished
  by_cases stopped : state.stopped = true
  · rw [if_pos stopped] at finished
    injection finished with returnedEq afterEq
    subst returnedEq afterEq
    exact Or.inl ⟨⟨_, rfl⟩, pooled⟩
  · rw [if_neg stopped] at finished
    by_cases failed : state.frameFailed = true
    · rw [if_pos failed] at finished
      injection finished with returnedEq afterEq
      subst returnedEq afterEq
      exact Or.inl ⟨⟨_, rfl⟩, pooled⟩
    · rw [if_neg failed] at finished
      rcases copyFrame_eq pooled finished with kept | swapped
      · exact Or.inl kept
      · exact Or.inr ⟨by simpa using failed, swapped⟩

/-- A pool that the call goes on with has the stored attributes, even if it
is an earlier one. -/
theorem ScreencopyState.preparePool_eq {state after : ScreencopyState}
    {provided : Fin 2 → Except String Unit} {wlFormat : UInt32}
    {result : Except CaptureError Unit}
    (sound : ∀ pool, state.shmPool = some pool → pool.Sound)
    (prepared : state.preparePool provided
      (state.shmPool.map ShmBufferPool.format) wlFormat = (result, after)) :
    (∃ shmPool, after = { state with shmPool := shmPool }) ∧
      (∀ pool, after.shmPool = some pool → pool.Sound) ∧
      (result = .ok () → ∃ pool, after.shmPool = some pool ∧
        pool.width = state.frameWidth ∧ pool.height = state.frameHeight ∧
        pool.stride = state.frameStride ∧ pool.format = wlFormat) := by
  rw [preparePool] at prepared
  by_cases needed : state.needsNewPool
      (state.shmPool.map ShmBufferPool.format) wlFormat = true
  · rw [if_pos needed] at prepared
    by_cases missing : state.shm = false
    · rw [if_pos missing] at prepared
      injection prepared with resultEq afterEq
      subst resultEq afterEq
      exact ⟨⟨state.shmPool, rfl⟩, sound, fun impossible => by
        cases impossible⟩
    · rw [if_neg missing] at prepared
      cases created : ShmBufferPool.new provided state.frameWidth
          state.frameHeight state.frameStride wlFormat with
      | error reason =>
          rw [created] at prepared
          injection prepared with resultEq afterEq
          subst resultEq afterEq
          refine ⟨⟨none, rfl⟩, ?_, ?_⟩
          · rintro pool ⟨⟩
          · rintro ⟨⟩
      | ok pool =>
          rw [created] at prepared
          injection prepared with resultEq afterEq
          subst resultEq afterEq
          obtain ⟨soundPool, attributes⟩ := ShmBufferPool.new_eq_ok created
          refine ⟨⟨some pool, rfl⟩, ?_, fun _ => ⟨pool, rfl, attributes⟩⟩
          rintro other ⟨⟩
          exact soundPool
  · rw [if_neg needed] at prepared
    injection prepared with resultEq afterEq
    subst resultEq afterEq
    refine ⟨⟨state.shmPool, rfl⟩, sound, fun _ => ?_⟩
    cases pooled : state.shmPool with
    | none =>
        rw [needsNewPool, pooled] at needed
        exact absurd rfl needed
    | some pool =>
        rw [needsNewPool, pooled] at needed
        refine ⟨pool, rfl, ?_⟩
        simpa [and_assoc] using needed

/-- What a call leaves behind. -/
structure CallEnds (object : Nat) (events : List FrameObjectEvent)
    (returned : Except CaptureError CapturedFrame)
    (after : ScreencopyBackend) (compositor : Compositor) : Prop where
  settled : ∀ other, other ∈ after.live → other ∈ compositor.done
  pool : ∀ pool, after.state.shmPool = some pool → pool.Sound
  frame : ∀ frame, returned = .ok frame →
    Matches (lastOffer object events) after.copied frame

private theorem InCall.settled {object : Nat}
    {events : List FrameObjectEvent} {backend : ScreencopyBackend}
    {compositor : Compositor}
    (inCall : InCall object events backend compositor)
    (done : object ∈ compositor.done) :
    ∀ other, other ∈ backend.live → other ∈ compositor.done := by
  intro other live
  by_cases same : other = object
  · rw [same]
    exact done
  · exact inCall.behind other live same

private theorem InCall.settled_destroy {object : Nat}
    {events : List FrameObjectEvent} {backend : ScreencopyBackend}
    {compositor : Compositor}
    (inCall : InCall object events backend compositor) :
    ∀ other, other ∈ (backend.destroy object).live →
      other ∈ compositor.done := by
  intro other live
  obtain ⟨live, distinct⟩ := List.mem_filter.mp live
  exact inCall.behind other live (by simpa using distinct)

/-- A new frame object, of which no event has been handled. -/
private theorem InCall.opening {backend : ScreencopyBackend}
    {compositor : Compositor}
    (settled : ∀ other, other ∈ backend.live → other ∈ compositor.done)
    (unoffered : backend.created ∉ compositor.offered)
    (unfinished : backend.created ∉ compositor.done) :
    InCall backend.created []
      ({ backend with state := backend.state.beginFrame } :
        ScreencopyBackend).captureOutput compositor where
  live := List.mem_cons_self
  behind := by
    intro other live distinct
    rcases List.mem_cons.mp live with same | live
    · exact absurd same distinct
    · exact settled other live
  order := fun early => absurd early unfinished
  ended := fun impossible => by cases impossible
  stored := fun early => absurd early unoffered

/-- A change of the backend that leaves what the events said. -/
private theorem InCall.reassign {object : Nat}
    {events : List FrameObjectEvent} {before after : ScreencopyBackend}
    {compositor : Compositor}
    (inCall : InCall object events before compositor)
    (live : after.live = before.live)
    (ended : after.state.bufferDone = before.state.bufferDone)
    (failed : after.state.frameFailed = before.state.frameFailed)
    (stores : ∀ code width height stride,
      before.state.Stores code width height stride →
        after.state.Stores code width height stride) :
    InCall object events after compositor := by
  refine ⟨live ▸ inCall.live, live ▸ inCall.behind, inCall.order,
    ended ▸ inCall.ended, ?_⟩
  intro offered
  rw [failed]
  rcases inCall.stored offered with lost |
    ⟨code, width, height, stride, last, stored⟩
  · exact Or.inl lost
  · exact Or.inr ⟨code, width, height, stride, last, stores _ _ _ _ stored⟩

/-- The pool has the attributes of the last offer. -/
structure Attached (object : Nat) (events : List FrameObjectEvent)
    (backend : ScreencopyBackend) (pool : ShmBufferPool) : Prop where
  pooled : backend.state.shmPool = some pool
  sound : pool.Sound
  fits : lastOffer object events =
    some ⟨.value pool.format, pool.width, pool.height, pool.stride⟩

private theorem Attached.sound_of_pooled {object : Nat}
    {events : List FrameObjectEvent} {backend : ScreencopyBackend}
    {pool : ShmBufferPool} (attached : Attached object events backend pool) :
    ∀ other, backend.state.shmPool = some other → other.Sound := by
  intro other pooled
  rw [attached.pooled] at pooled
  injection pooled with same
  exact same ▸ attached.sound

private theorem matches_of_copied {object : Nat}
    {events : List FrameObjectEvent} {backend : ScreencopyBackend}
    {compositor : Compositor} {pool : ShmBufferPool} {frame : CapturedFrame}
    (inCall : InCall object events backend compositor)
    (done : object ∈ compositor.done)
    (attached : Attached object events backend pool)
    (unfailed : backend.state.frameFailed = false)
    (copied : backend.state.Copied pool frame) :
    Matches (lastOffer object events) (some pool.activeBuffer) frame := by
  rcases inCall.stored (inCall.order done) with failed |
    ⟨code, width, height, stride, last, stores⟩
  · rw [unfailed] at failed
    cases failed
  · rw [attached.fits] at last
    injection last with same
    injection same with sameFormat sameWidth sameHeight sameStride
    injection sameFormat with sameCode
    have widthEq : frame.width = pool.width := by
      rw [copied.width_eq, stores.width_eq, sameWidth]
    have heightEq : frame.height = pool.height := by
      rw [copied.height_eq, stores.height_eq, sameHeight]
    have strideEq : frame.stride = pool.stride := by
      rw [copied.stride_eq, stores.stride_eq, sameStride]
    have formatEq : PixelFormat.fromWlShm pool.format = some frame.format := by
      rw [sameCode, ← stores.format_eq, copied.format_eq]
    refine ⟨⟨pool.format, formatEq, ?_, ?_⟩, ?_, ?_, copied.damaged⟩
    · rw [attached.fits, widthEq, heightEq, strideEq]
    · rw [ShmBufferPool.activeBuffer, attached.sound.slots, widthEq, heightEq,
        strideEq, ShmBufferPool.bufferSize]
    · rw [copied.length_eq, heightEq, strideEq, ShmBufferPool.bufferSize]
    · rw [widthEq, strideEq]
      exact attached.sound.rows

/-! ## The phases of a call -/

private theorem callEnds_of_error {object : Nat}
    {events : List FrameObjectEvent} {after : ScreencopyBackend}
    {compositor : Compositor} {reason : CaptureError}
    (settled : ∀ other, other ∈ after.live → other ∈ compositor.done)
    (pool : ∀ pool, after.state.shmPool = some pool → pool.Sound) :
    CallEnds object events (.error reason) after compositor :=
  ⟨settled, pool, fun _ impossible => by cases impossible⟩

namespace ScreencopyBackend

/-- A call that returns early with an error, having read its whole script. -/
private theorem callEnds_of_return {object created : Nat}
    {events : List FrameObjectEvent} {backend after : ScreencopyBackend}
    {compositor later : Compositor} {script : Script}
    {reason : CaptureError} {returned : Except CaptureError CapturedFrame}
    (done : (.ok (.error reason, backend, script) : Exec
      (Except CaptureError CapturedFrame × ScreencopyBackend × Script)) =
        .ok (returned, after, []))
    (settled : ∀ other, other ∈ backend.live → other ∈ compositor.done)
    (pool : ∀ pool, backend.state.shmPool = some pool → pool.Sound)
    (sent : (scriptEvents script).foldlM (Compositor.send created)
      compositor = some later) :
    CallEnds object events returned after later ∧
      after.created = backend.created := by
  injection done with same
  injection same with returnedEq same
  injection same with afterEq scriptEq
  subst returnedEq afterEq scriptEq
  injection sent with same
  rw [← same]
  exact ⟨callEnds_of_error settled pool, rfl⟩

section Phases

variable {profile : Profile} {object created : Nat}
variable {events : List FrameObjectEvent}
variable {before after : ScreencopyBackend} {compositor later : Compositor}
variable {script : Script} {memory : Nat → UInt8}
variable {returned : Except CaptureError CapturedFrame}

theorem awaitFrame_eq_ok {pool : ShmBufferPool}
    (inCall : InCall object events before compositor)
    (done : object ∈ compositor.done)
    (attached : Attached object events before pool)
    (copied : before.copied = some pool.activeBuffer)
    (sent : (scriptEvents script).foldlM (Compositor.send created)
      compositor = some later)
    (awaited : before.awaitFrame profile object script memory =
      .ok (returned, after, [])) :
    CallEnds object (events ++ scriptEvents script) returned after later ∧
      after.created = before.created := by
  rw [awaitFrame, bind_eq_ok_iff] at awaited
  obtain ⟨⟨waited, ready, rest⟩, waiting, awaited⟩ := awaited
  obtain ⟨used, wait⟩ := awaitEvents_eq_ok waiting
  have complete : rest = [] → scriptEvents used = scriptEvents script := by
    rintro rfl
    rw [wait.script_eq, List.append_nil]
  have handled : rest = [] →
      InCall object (events ++ scriptEvents script) ready later ∧
        Untouched before ready ∧ object ∈ later.done ∧
        Attached object (events ++ scriptEvents script) ready pool := by
    intro empty
    obtain ⟨inCall', untouched⟩ := inCall.handleAll sent
      (complete empty ▸ wait.handled)
    exact ⟨inCall', untouched, (noOffers_of_done done sent).1,
      untouched.pool.trans attached.pooled, attached.sound,
      (lastOffer_of_done done sent).trans attached.fits⟩
  cases waited with
  | failed reason =>
      injection awaited with same
      injection same with returnedEq same
      injection same with afterEq restEq
      obtain ⟨inCall', untouched, done', attached'⟩ := handled restEq
      subst returnedEq afterEq
      exact ⟨callEnds_of_error (inCall'.settled done')
        attached'.sound_of_pooled, untouched.created⟩
  | timedOut =>
      injection awaited with same
      injection same with returnedEq same
      injection same with afterEq restEq
      obtain ⟨inCall', untouched, _, attached'⟩ := handled restEq
      subst returnedEq afterEq
      exact ⟨callEnds_of_error inCall'.settled_destroy
        attached'.sound_of_pooled, untouched.created⟩
  | satisfied =>
      dsimp only at awaited
      cases finished : (ready.destroy object).state.finishFrame memory with
      | mk result state =>
          rw [finished] at awaited
          injection awaited with same
          injection same with returnedEq same
          injection same with afterEq restEq
          obtain ⟨inCall', untouched, done', attached'⟩ := handled restEq
          subst returnedEq afterEq
          refine ⟨⟨inCall'.settled_destroy, ?_, ?_⟩, untouched.created⟩
          · intro other pooled
            change state.shmPool = _ at pooled
            rcases ScreencopyState.finishFrame_eq attached'.pooled finished with
              ⟨_, kept⟩ | ⟨_, swapped, _⟩
            · rw [kept] at pooled
              injection pooled with same
              exact same ▸ attached.sound
            · rw [swapped] at pooled
              injection pooled with same
              exact same ▸ attached.sound.swap
          · intro frame succeeded
            change Matches _ ready.copied frame
            rw [untouched.copied, copied]
            rcases ScreencopyState.finishFrame_eq attached'.pooled finished with
              ⟨⟨reason, failed⟩, _⟩ | ⟨unfailed, _, other, same, out⟩
            · rw [failed] at succeeded
              cases succeeded
            · rw [same] at succeeded
              injection succeeded with same
              rw [← same]
              exact matches_of_copied inCall' done' attached' unfailed out

theorem requestCopy_eq_ok {pool : ShmBufferPool}
    (inCall : InCall object events before compositor)
    (done : object ∈ compositor.done)
    (attached : Attached object events before pool)
    (sent : (scriptEvents script).foldlM (Compositor.send created)
      compositor = some later)
    (requested : before.requestCopy profile object script memory =
      .ok (returned, after, [])) :
    CallEnds object (events ++ scriptEvents script) returned after later ∧
      after.created = before.created := by
  rw [requestCopy, bind_eq_ok_iff] at requested
  obtain ⟨⟨waited, synced, rest⟩, synchronised, requested⟩ := requested
  obtain ⟨outcome, rfl, handled, _⟩ := roundtrip_eq_ok synchronised
  rw [scriptEvents, List.flatMap_cons, ← scriptEvents, List.foldlM_append]
    at sent
  cases first : outcome.events.foldlM (Compositor.send created)
      compositor with
  | none =>
      rw [first] at sent
      cases sent
  | some between =>
      rw [first] at sent
      change (scriptEvents rest).foldlM _ between = _ at sent
      obtain ⟨inCall', untouched⟩ := inCall.handleAll first handled
      have done' := (noOffers_of_done done first).1
      have attached' : Attached object (events ++ outcome.events) synced
          pool :=
        ⟨untouched.pool.trans attached.pooled, attached.sound,
          (lastOffer_of_done done first).trans attached.fits⟩
      have copies : (synced.copy pool.activeBuffer).awaitFrame profile object
            rest memory = .ok (returned, after, []) →
          CallEnds object (events ++ scriptEvents (outcome :: rest)) returned
              after later ∧ after.created = before.created := by
        intro awaited
        rw [scriptEvents, List.flatMap_cons, ← scriptEvents,
          ← List.append_assoc, ← untouched.created]
        have copying : InCall object (events ++ outcome.events)
            (synced.copy pool.activeBuffer) between := by
          refine inCall'.reassign rfl rfl rfl ?_
          intro code width height stride stored
          cases stored
          constructor <;> assumption
        have ends := awaitFrame_eq_ok copying done'
          ⟨attached'.pooled, attached'.sound, attached'.fits⟩ rfl sent
          awaited
        exact ends
      cases waited with
      | failed reason =>
          obtain ⟨ends, same⟩ := callEnds_of_return requested
            (inCall'.settled done') attached'.sound_of_pooled sent
          exact ⟨ends, same.trans untouched.created⟩
      | timedOut =>
          dsimp only at requested
          rw [attached'.pooled] at requested
          exact copies requested
      | satisfied =>
          dsimp only at requested
          rw [attached'.pooled] at requested
          exact copies requested

theorem betweenPhases_eq_ok {provided : Fin 2 → Except String Unit}
    (inCall : InCall object events before compositor)
    (ended : before.state.frameFailed = false → object ∈ compositor.done)
    (sound : ∀ pool, before.state.shmPool = some pool → pool.Sound)
    (sent : (scriptEvents script).foldlM (Compositor.send created)
      compositor = some later)
    (continued : before.betweenPhases profile object
      (before.state.shmPool.map ShmBufferPool.format) provided script
      memory = .ok (returned, after, [])) :
    CallEnds object (events ++ scriptEvents script) returned after later ∧
      after.created = before.created := by
  rw [betweenPhases] at continued
  by_cases failed : before.state.frameFailed = true
  · rw [if_pos failed] at continued
    obtain ⟨ends, same⟩ := callEnds_of_return continued
      inCall.settled_destroy sound sent
    exact ⟨ends, same⟩
  · rw [if_neg failed] at continued
    have done := ended (by simpa using failed)
    cases known : before.state.wlShmFormat with
    | none =>
        rw [known] at continued
        exact callEnds_of_return continued (inCall.settled done) sound sent
    | some wlFormat =>
        rw [known] at continued
        dsimp only at continued
        cases prepared : before.state.preparePool provided
            (before.state.shmPool.map ShmBufferPool.format) wlFormat with
        | mk result state =>
            rw [prepared] at continued
            obtain ⟨⟨shmPool, stateEq⟩, sound', fresh⟩ :=
              ScreencopyState.preparePool_eq sound prepared
            cases result with
            | error reason =>
                dsimp only at continued
                obtain ⟨ends, same⟩ := callEnds_of_return continued
                  (inCall.settled done) sound' sent
                exact ⟨ends, same⟩
            | ok granted =>
                obtain ⟨pool, pooled, width, height, stride, format⟩ :=
                  fresh rfl
                rcases inCall.stored (inCall.order done) with lost |
                  ⟨code, w, h, s, last, stores⟩
                · exact absurd lost failed
                · have codeEq : code = wlFormat := by
                    have stored := stores.wl_format_eq
                    rw [known] at stored
                    injection stored with same
                    exact same.symm
                  have inCall' : InCall object events
                      { before with state := state } compositor := by
                    subst stateEq
                    refine inCall.reassign rfl rfl rfl ?_
                    intro code width height stride stored
                    cases stored
                    constructor <;> assumption
                  have attached : Attached object events
                      { before with state := state } pool := by
                    refine ⟨pooled, sound' pool pooled, ?_⟩
                    rw [last, codeEq, format, width, height, stride,
                      stores.width_eq, stores.height_eq, stores.stride_eq]
                  have ends := requestCopy_eq_ok inCall' done attached sent
                    continued
                  exact ends

/-- What a call leads to, unless the connection fails before the offers have
ended. -/
theorem nextFrame_eq_ok {provided : Fin 2 → Except String Unit}
    (settled : ∀ other, other ∈ before.live → other ∈ compositor.done)
    (unoffered : before.created ∉ compositor.offered)
    (unfinished : before.created ∉ compositor.done)
    (sound : ∀ pool, before.state.shmPool = some pool → pool.Sound)
    (sent : (scriptEvents script).foldlM (Compositor.send created)
      compositor = some later)
    (done : before.nextFrame profile provided script memory =
      .ok (returned, after, [])) :
    ((∃ outcome, outcome ∈ script ∧ outcome.breaks = true) ∧
        ∃ reason, returned = .error reason) ∨
      (CallEnds before.created (scriptEvents script) returned after later ∧
        before.created ≤ after.created) := by
  rw [nextFrame] at done
  by_cases stopped : before.state.stopped = true
  · rw [if_pos stopped] at done
    obtain ⟨ends, same⟩ := callEnds_of_return done settled sound sent
    exact Or.inr ⟨ends, Nat.le_of_eq same.symm⟩
  · rw [if_neg stopped] at done
    dsimp only at done
    by_cases unmanaged : before.state.screencopyManager = false
    · rw [if_pos unmanaged] at done
      obtain ⟨ends, same⟩ := callEnds_of_return done settled sound sent
      exact Or.inr ⟨ends, Nat.le_of_eq same.symm⟩
    · rw [if_neg unmanaged] at done
      by_cases dark : before.state.output = false
      · rw [if_pos dark] at done
        obtain ⟨ends, same⟩ := callEnds_of_return done settled sound sent
        exact Or.inr ⟨ends, Nat.le_of_eq same.symm⟩
      · rw [if_neg dark, bind_eq_ok_iff] at done
        obtain ⟨⟨waited, ready, rest⟩, waiting, done⟩ := done
        obtain ⟨used, wait⟩ := awaitEvents_eq_ok waiting
        rw [wait.script_eq, scriptEvents, List.flatMap_append,
          ← scriptEvents, ← scriptEvents, List.foldlM_append] at sent
        cases first : (scriptEvents used).foldlM (Compositor.send created)
            compositor with
        | none =>
            rw [first] at sent
            cases sent
        | some between =>
            rw [first] at sent
            change (scriptEvents rest).foldlM _ between = _ at sent
            obtain ⟨inCall, untouched⟩ :=
              (InCall.opening settled unoffered unfinished).handleAll first
                wait.handled
            rw [List.nil_append] at inCall
            have increased : before.created ≤ ready.created := by
              rw [untouched.created]
              exact Nat.le_succ _
            have soundReady : ∀ pool, ready.state.shmPool = some pool →
                pool.Sound := by
              intro pool pooled
              rw [untouched.pool] at pooled
              exact sound pool pooled
            cases waited with
            | failed reason =>
                injection done with same
                injection same with returnedEq _
                obtain ⟨events, cause, member⟩ :=
                  wait.failure.mpr ⟨reason, rfl⟩
                refine Or.inl ⟨⟨.failed events cause, ?_, rfl⟩, reason,
                  returnedEq.symm⟩
                rw [wait.script_eq]
                exact List.mem_append_left rest member
            | timedOut =>
                obtain ⟨ends, same⟩ := callEnds_of_return done
                  inCall.settled_destroy soundReady sent
                exact Or.inr ⟨ends, same ▸ increased⟩
            | satisfied =>
                have ended : ready.state.frameFailed = false →
                    before.created ∈ between.done := by
                  intro unfailed
                  have passed := wait.done rfl
                  have running : ready.state.stopped = false := by
                    rw [untouched.stopped]
                    exact Bool.eq_false_iff.mpr stopped
                  apply inCall.ended
                  simpa [ScreencopyState.waitingForBuffer, unfailed,
                    running] using passed
                dsimp only at done
                have prev : before.state.shmPool = ready.state.shmPool :=
                  untouched.pool.symm
                rw [prev] at done
                obtain ⟨ends, same⟩ := betweenPhases_eq_ok inCall ended
                  soundReady sent done
                rw [wait.script_eq, scriptEvents, List.flatMap_append]
                exact Or.inr ⟨ends, same ▸ increased⟩

end Phases

end ScreencopyBackend

/-! ## Sessions -/

/-- The backend and the compositor, and whether the connection has failed. -/
structure ScreencopySession where
  backend : ScreencopyBackend
  compositor : Compositor
  broken : Bool

/-- What the capture thread calls, with what the call meets. -/
inductive ScreencopyCall where
  | nextFrame (provided : Fin 2 → Except String Unit)
      (script : ScreencopyBackend.Script) (memory : Nat → UInt8)
  | stop

namespace ScreencopySession

/-- The session after `new`. -/
def opened (shm screencopyManager output : Bool) : ScreencopySession where
  backend :=
    { state := ScreencopyState.initial shm screencopyManager output
      created := 0
      live := []
      copied := none }
  compositor := ⟨[], []⟩
  broken := false

/-- A call that returns.  The compositor sends the events that the call
handles, and a connection that has failed fails again. -/
def Step (profile : Profile) (before : ScreencopySession) :
    ScreencopyCall → ScreencopySession → Prop
  | .nextFrame provided script memory, after =>
      (∃ returned, before.backend.nextFrame profile provided script memory =
          .ok (returned, after.backend, [])) ∧
        (scriptEvents script).foldlM
          (Compositor.send after.backend.created) before.compositor =
            some after.compositor ∧
        (before.broken = true →
          ∀ outcome, outcome ∈ script → outcome.breaks = true) ∧
        after.broken =
          (before.broken || script.any DispatchOutcome.breaks)
  | .stop, after => after = { before with backend := before.backend.stop }

/-- A frame that the call returns is the one that the compositor offered. -/
def FramesMatch (profile : Profile) (before : ScreencopySession) :
    ScreencopyCall → Prop
  | .nextFrame provided script memory =>
      ∀ frame after, before.backend.nextFrame profile provided script memory =
          .ok (.ok frame, after, []) →
        Matches (lastOffer before.backend.created (scriptEvents script))
          after.copied frame
  | .stop => True

/-- While the connection works, the frame objects that were left behind are
past their offers. -/
structure Tidy (session : ScreencopySession) : Prop where
  settled : ∀ object, object ∈ session.backend.live →
    object ∈ session.compositor.done
  created : ∀ object, object ∈ session.compositor.offered ∨
    object ∈ session.compositor.done → object < session.backend.created
  pool : ∀ pool, session.backend.state.shmPool = some pool → pool.Sound

def Invariant (session : ScreencopySession) : Prop :=
  session.broken = false → session.Tidy

private theorem lt_of_sent {created : Nat} {events : List FrameObjectEvent} :
    ∀ {before after : Compositor},
      events.foldlM (Compositor.send created) before = some after →
        ∀ object, object ∈ after.offered ∨ object ∈ after.done →
          (object ∈ before.offered ∨ object ∈ before.done) ∨
            object < created := by
  induction events with
  | nil =>
      intro before after sent object member
      injection sent with same
      rw [← same] at member
      exact Or.inl member
  | cons first events inductionHypothesis =>
      intro before after sent object member
      rw [List.foldlM_cons] at sent
      cases firstSent : before.send created first with
      | none =>
          rw [firstSent] at sent
          cases sent
      | some middle =>
          rw [firstSent] at sent
          have sends := Compositor.sends_of_send firstSent
          rcases inductionHypothesis sent object member with
            (offered | done) | bounded
          · rcases (sends.offered object).mp offered with early | ⟨same, _⟩
            · exact Or.inl (Or.inl early)
            · exact Or.inr (same ▸ sends.object_lt)
          · rcases (sends.done object).mp done with early | ⟨same, _⟩
            · exact Or.inl (Or.inr early)
            · exact Or.inr (same ▸ sends.object_lt)
          · exact Or.inr bounded

/-- On a connection that has failed no frame is returned. -/
private theorem failed_of_breaks {profile : Profile}
    {before after : ScreencopyBackend}
    {provided : Fin 2 → Except String Unit}
    {script : ScreencopyBackend.Script} {memory : Nat → UInt8}
    {frame : CapturedFrame}
    (breaks : ∀ outcome, outcome ∈ script → outcome.breaks = true) :
    before.nextFrame profile provided script memory ≠
      .ok (.ok frame, after, []) := by
  intro done
  rw [ScreencopyBackend.nextFrame] at done
  by_cases stopped : before.state.stopped = true
  · rw [if_pos stopped] at done
    cases done
  · rw [if_neg stopped] at done
    dsimp only at done
    by_cases unmanaged : before.state.screencopyManager = false
    · rw [if_pos unmanaged] at done
      cases done
    · rw [if_neg unmanaged] at done
      by_cases dark : before.state.output = false
      · rw [if_pos dark] at done
        cases done
      · rw [if_neg dark, bind_eq_ok_iff] at done
        obtain ⟨⟨waited, ready, rest⟩, waiting, done⟩ := done
        obtain ⟨used, wait⟩ := awaitEvents_eq_ok waiting
        cases waited with
        | failed reason => cases done
        | timedOut => cases done
        | satisfied =>
            -- The wait was over before it began, but it was not.
            have unused : used = [] := by
              rw [List.eq_nil_iff_forall_not_mem]
              intro outcome member
              have broken := breaks outcome
                (wait.script_eq ▸ List.mem_append_left rest member)
              cases outcome with
              | dispatched events => cases broken
              | timedOut => cases broken
              | failed events reason =>
                  obtain ⟨cause, impossible⟩ :=
                    wait.failure.mp ⟨events, reason, member⟩
                  cases impossible
            have handled := wait.handled
            rw [unused] at handled
            injection handled with same
            have passed := wait.done rfl
            rw [← same] at passed
            change (!false && !false && !before.state.stopped) = false at passed
            simp [stopped] at passed

/-- A call keeps the session tidy, and its frame matches. -/
theorem step_spec {profile : Profile} {before after : ScreencopySession}
    {call : ScreencopyCall} (stepped : before.Step profile call after)
    (invariant : before.Invariant) :
    after.Invariant ∧ before.FramesMatch profile call := by
  cases call with
  | stop =>
      have same : after = { before with backend := before.backend.stop } :=
        stepped
      rw [same]
      refine ⟨fun working => ?_, trivial⟩
      obtain ⟨settled, created, pool⟩ := invariant working
      exact ⟨settled, created, pool⟩
  | nextFrame provided script memory =>
      obtain ⟨⟨returned, done⟩, sent, failing, broken⟩ := stepped
      by_cases working : before.broken = false
      · obtain ⟨settled, created, pool⟩ := invariant working
        have fresh : before.backend.created ∉ before.compositor.offered ∧
            before.backend.created ∉ before.compositor.done :=
          ⟨fun member => Nat.lt_irrefl _ (created _ (Or.inl member)),
            fun member => Nat.lt_irrefl _ (created _ (Or.inr member))⟩
        rcases ScreencopyBackend.nextFrame_eq_ok settled fresh.1 fresh.2 pool
            sent done with ⟨⟨outcome, member, breaks⟩, reason, failed⟩ |
              ⟨ends, increased⟩
        · constructor
          · intro works
            rw [broken, working, Bool.false_or, List.any_eq_false] at works
            exact absurd breaks (works outcome member)
          · intro frame later again
            rw [done, failed] at again
            cases again
        · constructor
          · intro _
            refine ⟨ends.settled, ?_, ends.pool⟩
            intro object member
            rcases lt_of_sent sent object member with early | bounded
            · exact Nat.lt_of_lt_of_le (created object early) increased
            · exact bounded
          · intro frame later again
            rw [done] at again
            injection again with same
            injection same with returnedEq same
            injection same with afterEq _
            rw [← afterEq]
            exact ends.frame frame returnedEq
      · have failed : before.broken = true := by simpa using working
        constructor
        · intro works
          rw [broken, failed] at works
          cases works
        · intro frame later again
          exact absurd again (failed_of_breaks (failing failed))

/-- In every session, every frame that is returned has the attributes of the
last offer of its call, out of a buffer with these attributes. -/
theorem framesMatch_of_run {profile : Profile}
    {shm screencopyManager output : Bool} {calls : List ScreencopyCall}
    {last : ScreencopySession}
    (run : Run (Step profile) (opened shm screencopyManager output) calls
      last) :
    Run (fun before call after => before.Step profile call after ∧
        before.FramesMatch profile call)
      (opened shm screencopyManager output) calls last := by
  refine @Run.refine _ _ _ _ Invariant _ _ _ run ?_ ?_
  · intro before call after stepped invariant
    obtain ⟨next, fits⟩ := step_spec stepped invariant
    exact ⟨next, stepped, fits⟩
  · intro _
    refine ⟨?_, ?_, ?_⟩
    · intro object live
      cases live
    · intro object member
      rcases member with offered | done
      · cases offered
      · cases done
    · rintro pool ⟨⟩

private def unprovided : ScreencopyBackend.Script :=
  [.dispatched [⟨0, .buffer (.value 0) 9 9 36⟩,
    ⟨1, .buffer (.value 1) 2 1 8⟩, ⟨1, .bufferDone⟩]]

private def resized : ScreencopyBackend.Script :=
  [.dispatched [⟨2, .buffer (.value 1) 2 1 8⟩, ⟨1, .other⟩,
      ⟨2, .buffer (.value 0) 1 2 12⟩],
    .dispatched [⟨2, .bufferDone⟩], .dispatched [],
    .dispatched [⟨2, .damage 0 1 1 1⟩, ⟨2, .ready 0 1 5⟩]]

private def sessionCalls : List ScreencopyCall :=
  [.nextFrame (fun _ => .ok ()) [.timedOut] fun _ => 7,
    .nextFrame (fun _ => .error "mmap") unprovided fun _ => 7,
    .nextFrame (fun _ => .ok ()) resized fun _ => 7,
    .stop]

theorem framesMatch_of_run_resized :
    ∃ last, Run (fun before call after => before.Step .dev call after ∧
        before.FramesMatch .dev call) (opened true true true) sessionCalls
      last := by
  refine ⟨_, framesMatch_of_run
    (@Run.cons _ _ _ _ ⟨_, _, _⟩ _ _ _ ⟨⟨_, rfl⟩, rfl, ?_, rfl⟩
      (@Run.cons _ _ _ _ ⟨_, _, _⟩ _ _ _ ⟨⟨_, rfl⟩, rfl, ?_, rfl⟩
        (@Run.cons _ _ _ _ ⟨_, _, _⟩ _ _ _ ⟨⟨_, rfl⟩, rfl, ?_, rfl⟩
          (.cons rfl (.nil _)))))⟩
  · rintro ⟨⟩
  · rintro ⟨⟩
  · rintro ⟨⟩

end ScreencopySession

end RemoteWay.Capture
