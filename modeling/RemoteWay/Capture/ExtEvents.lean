import RemoteWay.Base.Blobs
import RemoteWay.Capture.ExtCapture

/-!
# What the handlers of the ext-image-capture backend store

The size, the format and the transform are those sent last, or kept from
before; the damage of a frame is all that was reported for it.  Undoing a
transform keeps the size of the buffer.
-/

namespace RemoteWay.Capture

open RemoteWay.Base RemoteWay.Compress

/-! ## What the compositor sent -/

namespace ExtEvent

def size : ExtEvent → Option (UInt32 × UInt32)
  | .session (.bufferSize width height) => some (width, height)
  | _ => none

def offered : ExtEvent → Option UInt32
  | .session (.shmFormat (.value code)) => some code
  | _ => none

def transform : ExtEvent → Option UInt32
  | .frame (.transform transform) =>
      some (ExtCaptureState.transformCode transform)
  | _ => none

def rect : ExtEvent → Option DamageRect
  | .frame (.damage x y width height) =>
      some (ExtCaptureState.castRect x y width height)
  | _ => none

/-- The event ends a call without a frame. -/
def aborts : ExtEvent → Bool
  | .session .stopped => true
  | .frame .failed => true
  | _ => false

end ExtEvent

namespace ExtCaptureState

/-- The size that was announced last. -/
def sizeAfter (state : ExtCaptureState) (events : List ExtEvent) :
    UInt32 × UInt32 :=
  (events.filterMap ExtEvent.size).getLast?.getD
    (state.bufferWidth, state.bufferHeight)

/-- XRGB8888 if it was offered, else the first format. -/
def formatAfter (state : ExtCaptureState) (events : List ExtEvent) :
    Option UInt32 :=
  if 1 ∈ events.filterMap ExtEvent.offered then some 1
  else state.shmFormat.or (events.filterMap ExtEvent.offered).head?

/-- The transform that was reported last. -/
def transformAfter (state : ExtCaptureState) (events : List ExtEvent) :
    UInt32 :=
  (events.filterMap ExtEvent.transform).getLast?.getD state.frameTransform

/-- What the handlers made of some events. -/
structure Handled (before : ExtCaptureState) (events : List ExtEvent)
    (after : ExtCaptureState) : Prop where
  size : (after.bufferWidth, after.bufferHeight) = before.sizeAfter events
  format : after.shmFormat = before.formatAfter events
  transform : after.frameTransform = before.transformAfter events
  damage : after.damageRects =
    before.damageRects ++ events.filterMap ExtEvent.rect
  aborted : (after.frameFailed || after.stopped) =
    (before.frameFailed || before.stopped || events.any ExtEvent.aborts)
  pool : after.shmPool = before.shmPool
  session : after.session = before.session

/-- What a handler does with one event. -/
structure HandledOne (before : ExtCaptureState) (event : ExtEvent)
    (after : ExtCaptureState) : Prop where
  size : (after.bufferWidth, after.bufferHeight) =
    event.size.getD (before.bufferWidth, before.bufferHeight)
  format : after.shmFormat =
    event.offered.elim before.shmFormat fun code =>
      offerFormat before.shmFormat (.value code)
  transform : after.frameTransform =
    event.transform.getD before.frameTransform
  damage : after.damageRects = before.damageRects ++ event.rect.toList
  aborted : (after.frameFailed || after.stopped) =
    (before.frameFailed || before.stopped || event.aborts)
  pool : after.shmPool = before.shmPool
  session : after.session = before.session

private theorem handledOne_session (before : ExtCaptureState)
    (event : ExtSessionEvent) :
    before.HandledOne (.session event) (before.onSession event) := by
  cases event with
  | bufferSize width height =>
      exact ⟨rfl, rfl, rfl, (List.append_nil _).symm, (Bool.or_false _).symm,
        rfl, rfl⟩
  | shmFormat format =>
      cases format <;>
        exact ⟨rfl, rfl, rfl, (List.append_nil _).symm,
          (Bool.or_false _).symm, rfl, rfl⟩
  | done =>
      exact ⟨rfl, rfl, rfl, (List.append_nil _).symm, (Bool.or_false _).symm,
        rfl, rfl⟩
  | stopped =>
      exact ⟨rfl, rfl, rfl, (List.append_nil _).symm,
        by simp [onSession, ExtEvent.aborts], rfl, rfl⟩

private theorem handledOne_frame {profile : Profile}
    {before after : ExtCaptureState} {event : ExtFrameEvent}
    (dispatched : before.onFrame profile event = .ok after) :
    before.HandledOne (.frame event) after := by
  cases event with
  | damage x y width height =>
      injection dispatched with same
      subst same
      exact ⟨rfl, rfl, rfl, rfl, (Bool.or_false _).symm, rfl, rfl⟩
  | presentationTime tvSecHi tvSecLo tvNsec =>
      rw [onFrame, bind_eq_ok_iff] at dispatched
      obtain ⟨timestampNs, _, dispatched⟩ := dispatched
      injection dispatched with same
      subst same
      exact ⟨rfl, rfl, rfl, (List.append_nil _).symm, (Bool.or_false _).symm,
        rfl, rfl⟩
  | transform transform =>
      injection dispatched with same
      subst same
      exact ⟨rfl, rfl, rfl, (List.append_nil _).symm, (Bool.or_false _).symm,
        rfl, rfl⟩
  | ready =>
      injection dispatched with same
      subst same
      exact ⟨rfl, rfl, rfl, (List.append_nil _).symm, (Bool.or_false _).symm,
        rfl, rfl⟩
  | failed =>
      injection dispatched with same
      subst same
      exact ⟨rfl, rfl, rfl, (List.append_nil _).symm,
        by simp [ExtEvent.aborts], rfl, rfl⟩

private theorem handledOne_of_dispatch {profile : Profile}
    {before after : ExtCaptureState} {event : ExtEvent}
    (dispatched : before.dispatch profile event = .ok after) :
    before.HandledOne event after := by
  cases event with
  | session event =>
      injection dispatched with same
      subst same
      exact handledOne_session before event
  | frame event => exact handledOne_frame dispatched

private theorem getLast?_concat_getD {value : Type} (items : List value)
    (next : Option value) (first : value) :
    (items ++ next.toList).getLast?.getD first =
      next.getD (items.getLast?.getD first) := by
  cases next <;> simp

private theorem offered_concat (current : Option UInt32)
    (codes : List UInt32) (next : Option UInt32) :
    (if 1 ∈ codes ++ next.toList then some 1
      else current.or (codes ++ next.toList).head?) =
      next.elim (if 1 ∈ codes then some 1 else current.or codes.head?)
        fun code => offerFormat
          (if 1 ∈ codes then some 1 else current.or codes.head?)
          (.value code) := by
  cases next with
  | none => simp
  | some code =>
      simp only [Option.toList_some, Option.elim_some, offerFormat]
      by_cases xrgb : code = 1
      · simp [xrgb]
      · have other : ¬(1 : UInt32) = code := fun same => xrgb same.symm
        by_cases seen : 1 ∈ codes
        · simp [seen, xrgb]
        · cases current with
          | some format => simp [seen, xrgb, other]
          | none => cases codes <;> simp_all

private theorem Handled.concat {start before after : ExtCaptureState}
    {events : List ExtEvent} {event : ExtEvent}
    (handled : start.Handled events before)
    (one : before.HandledOne event after) :
    start.Handled (events ++ [event]) after := by
  have extended : ∀ {value : Type} (part : ExtEvent → Option value),
      (events ++ [event]).filterMap part =
        events.filterMap part ++ (part event).toList := by
    intro value part
    cases found : part event <;> simp [found]
  constructor
  · rw [one.size, handled.size, sizeAfter, sizeAfter, extended,
      getLast?_concat_getD]
  · rw [one.format, handled.format, formatAfter, formatAfter, extended,
      offered_concat]
  · rw [one.transform, handled.transform, transformAfter, transformAfter,
      extended, getLast?_concat_getD]
  · rw [one.damage, handled.damage, extended, List.append_assoc]
  · rw [one.aborted, handled.aborted, List.any_append]
    simp [Bool.or_assoc]
  · rw [one.pool, handled.pool]
  · rw [one.session, handled.session]

/-- What the handlers made of the events they were given. -/
theorem handled_of_foldlM {profile : Profile}
    {before after : ExtCaptureState} {events : List ExtEvent}
    (dispatched : events.foldlM (dispatch profile) before = .ok after) :
    before.Handled events after := by
  have initially : before.Handled [] before := by
    refine ⟨rfl, ?_, rfl, (List.append_nil _).symm, by simp, rfl, rfl⟩
    simp [formatAfter]
  exact foldlM_induction before.Handled
    (fun finished event start last handled stepped =>
      handled.concat (handledOne_of_dispatch stepped))
    [] dispatched initially

/-! ## Undoing the transform keeps the size -/

private theorem length_swapRows {data result : List UInt8}
    {stride top bottom : Nat} (ordered : top < bottom)
    (swapped : swapRows data stride top bottom = .ok result) :
    result.length = data.length := by
  rw [swapRows, bind_eq_ok_iff] at swapped
  obtain ⟨upper, upperDone, swapped⟩ := swapped
  rw [bind_eq_ok_iff] at swapped
  obtain ⟨lower, lowerDone, swapped⟩ := swapped
  injection swapped with same
  obtain ⟨⟨_, upperInside⟩, upperEq⟩ := slice_eq_ok_iff.mp upperDone
  obtain ⟨⟨_, lowerInside⟩, lowerEq⟩ := slice_eq_ok_iff.mp lowerDone
  have between : (top + 1) * stride + (bottom - (top + 1)) * stride =
      bottom * stride := by
    rw [← Nat.add_mul]
    congr 1
    omega
  have upperEnd : (top + 1) * stride = top * stride + stride :=
    Nat.succ_mul top stride
  have lowerEnd : (bottom + 1) * stride = bottom * stride + stride :=
    Nat.succ_mul bottom stride
  rw [← same, ← upperEq, ← lowerEq]
  simp only [List.length_append, List.length_take, List.length_drop]
  omega

private theorem length_flipLoop {stride : Nat} :
    ∀ (bottom top : Nat) {data result : List UInt8},
      flipLoop stride top bottom data = .ok result →
        result.length = data.length := by
  intro bottom
  induction bottom with
  | zero =>
      intro top data result done
      injection done with same
      rw [same]
  | succ bottom inductionHypothesis =>
      intro top data result done
      rw [flipLoop] at done
      by_cases more : top < bottom + 1
      · rw [if_pos more, bind_eq_ok_iff] at done
        obtain ⟨swapped, first, later⟩ := done
        rw [inductionHypothesis (top + 1) later, length_swapRows more first]
      · rw [if_neg more] at done
        injection done with same
        rw [same]

private theorem length_flipRows {data result : List UInt8} {stride : Nat}
    (flipped : flipRows data stride = .ok result) :
    result.length = data.length := by
  rw [flipRows] at flipped
  split at flipped
  · cases flipped
  · exact length_flipLoop _ 0 flipped

private theorem length_swapBytes {row result : List UInt8}
    {left right : Nat} (swapped : swapBytes row left right = .ok result) :
    result.length = row.length := by
  rw [swapBytes, bind_eq_ok_iff] at swapped
  obtain ⟨first, _, swapped⟩ := swapped
  rw [bind_eq_ok_iff] at swapped
  obtain ⟨second, _, swapped⟩ := swapped
  rw [bind_eq_ok_iff] at swapped
  obtain ⟨middle, written, swapped⟩ := swapped
  rw [length_of_writeAt swapped, length_of_writeAt written]

private theorem length_mirrorRow {pixels : Nat} {row result : List UInt8}
    (mirrored : mirrorRow pixels row = .ok result) :
    result.length = row.length := by
  refine foldlM_length ?_ _ row result mirrored
  intro row i result pixel
  refine foldlM_length ?_ _ row result pixel
  intro row k result swapped
  exact length_swapBytes swapped

private theorem length_mirrorRows {data result : List UInt8} {stride : Nat}
    (mirrored : mirrorRows data stride = .ok result) :
    result.length = data.length := by
  rw [mirrorRows] at mirrored
  split at mirrored
  · cases mirrored
  · rw [bind_eq_ok_iff] at mirrored
    obtain ⟨rows, each, done⟩ := mirrored
    injection done with same
    have sameLengths : rows.flatten.length =
        ((List.range (data.length / stride)).flatMap fun index =>
          (data.drop (index * stride)).take stride).length := by
      have related := mapM_eq_ok_iff.mp each
      clear each same
      generalize List.range (data.length / stride) = indices at related ⊢
      induction related with
      | nil => rfl
      | cons first _ inductionHypothesis =>
          rw [List.flatten_cons, List.flatMap_cons, List.length_append,
            List.length_append, length_mirrorRow first, inductionHypothesis]
    have bounded := Nat.div_mul_le_self data.length stride
    rw [← same, List.length_append, sameLengths, flatMap_pieces,
      List.length_take, List.length_drop]
    omega

/-- The pixels keep their number, and the damage is what was reported, or
the whole picture. -/
theorem undoTransform_eq_ok {state : ExtCaptureState}
    {data pixels : List UInt8} {stride : UInt32} {damage : List DamageRect}
    (undone : state.undoTransform data stride = .ok (pixels, damage)) :
    pixels.length = data.length ∧
      damage = if state.frameTransform = 0 then state.damageRects
        else state.fullDamage := by
  rw [undoTransform] at undone
  by_cases none : state.frameTransform = 0
  · rw [if_pos none] at undone ⊢
    injection undone with same
    injection same with pixelsEq damageEq
    exact ⟨by rw [pixelsEq], damageEq.symm⟩
  · rw [if_neg none] at undone ⊢
    by_cases turned : state.frameTransform = 2
    · rw [if_pos turned, bind_eq_ok_iff] at undone
      obtain ⟨flipped, first, undone⟩ := undone
      rw [bind_eq_ok_iff] at undone
      obtain ⟨mirrored, second, undone⟩ := undone
      injection undone with same
      injection same with pixelsEq damageEq
      exact ⟨by rw [← pixelsEq, length_mirrorRows second,
        length_flipRows first], damageEq.symm⟩
    · rw [if_neg turned] at undone
      by_cases mirror : state.frameTransform = 4
      · rw [if_pos mirror, bind_eq_ok_iff] at undone
        obtain ⟨mirrored, first, undone⟩ := undone
        injection undone with same
        injection same with pixelsEq damageEq
        exact ⟨by rw [← pixelsEq, length_mirrorRows first], damageEq.symm⟩
      · rw [if_neg mirror] at undone
        by_cases flip : state.frameTransform = 6
        · rw [if_pos flip, bind_eq_ok_iff] at undone
          obtain ⟨flipped, first, undone⟩ := undone
          injection undone with same
          injection same with pixelsEq damageEq
          exact ⟨by rw [← pixelsEq, length_flipRows first],
            damageEq.symm⟩
        · rw [if_neg flip] at undone
          injection undone with same
          injection same with pixelsEq damageEq
          exact ⟨by rw [pixelsEq], damageEq.symm⟩

end ExtCaptureState

end RemoteWay.Capture
