import RemoteWay.Encode.Keyframes
import RemoteWay.Encode.SequenceHeaders
import RemoteWay.Vulkan.Device

/-!
# The Vulkan objects of an encoder

The three backends create the same objects in the same order, use them in
`encode`, and destroy them in `drop`.  An `encode` call creates the view of
an input image once, and keeps it even if it fails later.

An encoder that was created and is dropped leaves nothing behind, whichever
of its calls fail in between.  An encoder whose creation fails leaves its
session behind, unless that was what failed.
-/

namespace RemoteWay.Encode

open RemoteWay.Base RemoteWay.Vulkan

/-! ## What an encoder holds -/

structure DpbSlot where
  image : Nat
  memory : Nat
  view : Nat
  deriving DecidableEq, Repr

/-- The handles of an encoder.  The input views are those of the images that
were encoded, by image. -/
structure EncoderObjects where
  session : Nat
  sessionMemory : List Nat
  sessionParams : Nat
  dpb : List DpbSlot
  outBuffer : Nat
  outBufferMemory : Nat
  queryPool : Nat
  encodeCmdPool : Nat
  encodeCmd : Nat
  encodeFence : Nat
  inputViews : List (Nat × Nat)
  deriving DecidableEq, Repr

/-- What a device reports about video encoding: its capabilities for each
codec and the memory that a session requires.  `debugFlags` is the text of a
set of rate control modes. -/
structure VideoDriver (code : Type) extends Driver code where
  capabilities : VideoCodec → VideoEncodeCapabilities
  sessionMemoryRequirements : SessionParams → List Requirements
  debugFlags : UInt32 → String

namespace VideoEncodeUsage

def imageDpb : UInt32 := 0x8000
def bufferDst : UInt32 := 0x8000

end VideoEncodeUsage

section Calls

variable {code : Type}

/-- The error of a call with the text of its result code. -/
def submitFailed (driver : VideoDriver code) (what : String) (e : code) :
    EncodeError :=
  .submitFailed (what ++ ": " ++ driver.debug e)

/-! ## Creation -/

/-- The memory is at least what is required, and of a type that is. -/
def meets (driver : VideoDriver code) (req : Requirements) : Object → Bool
  | .memory size typeIndex =>
      decide (req.size ≤ size) &&
        driver.suitable req.memoryTypeBits MemoryPropertyFlags.deviceLocal
          typeIndex
  | _ => false

/-- The image is bound to memory. -/
def isBoundImage : Object → Bool
  | .backed (.image _ _ _ _) (some _) => true
  | _ => false

def createImageView (driver : VideoDriver code) (image : Nat) :
    Calls code EncodeError Nat := do
  Program.check image fun object => isBoundImage object = true
  createObject (submitFailed driver "create_image_view") (.imageView image)

namespace EncoderObjects

/-- `Drop::drop`. -/
def drop (objects : EncoderObjects) : Calls code EncodeError Unit := do
  let _ ← Program.ask
  let _ ← Program.forEach
    (fun view : Nat × Nat => release .imageView view.2) objects.inputViews
  release .fence objects.encodeFence
  release .commandPool objects.encodeCmdPool
  release .queryPool objects.queryPool
  release .buffer objects.outBuffer
  release .memory objects.outBufferMemory
  let _ ← Program.forEach
    (fun slot : DpbSlot => do
      release .imageView slot.view
      release .image slot.image
      release .memory slot.memory)
    objects.dpb
  release .sessionParameters objects.sessionParams
  release .videoSession objects.session
  let _ ← Program.forEach (release .memory) objects.sessionMemory
  return ()

end EncoderObjects

/-! ## Encoding -/

/-- What the query pool reports of an encoded picture. -/
structure Feedback where
  bytesWritten : UInt32
  positive : 0 < bytesWritten.toNat

/-- A refused operation of `encode`. -/
def failed (driver : VideoDriver code) (operation : GpuOperation) (e : code) :
    EncodeError :=
  operation.failure (driver.debug e)

namespace EncoderObjects

/-- `encode` up to the input view.  Only the view is new. -/
def beginEncode (driver : VideoDriver code) (objects : EncoderObjects)
    (image : Nat) : Calls code EncodeError EncoderObjects := do
  Program.check objects.encodeCmdPool fun object =>
    object.hasBuffer objects.encodeCmd = true
  Program.request (failed driver .resetCommandPool)
  Program.request (failed driver .beginCommandBuffer)
  Program.check objects.queryPool fun object => object = .queryPool
  Program.check objects.session fun object =>
    object = .videoSession (some objects.sessionMemory)
  Program.check objects.sessionParams fun object =>
    object = .sessionParameters objects.session
  let _ ← Program.forEach
    (fun slot : DpbSlot =>
      Program.check slot.view fun object => object = .imageView slot.image)
    objects.dpb
  Program.check image fun object => isBoundImage object = true
  match objects.inputViews.lookup image with
  | some view => do
      Program.check view fun object => object = .imageView image
      return objects
  | none => do
      let view ← createImageView driver image
      return { objects with inputViews := (image, view) :: objects.inputViews }

/-- `encode` from the end of recording on. -/
def submitEncode (driver : VideoDriver code) (objects : EncoderObjects)
    (feedback : Feedback) : Calls code EncodeError Unit := do
  Program.check objects.outBuffer fun object => object.kind = .buffer
  Program.request (failed driver .endCommandBuffer)
  Program.check objects.encodeFence fun object => object = .fence
  Program.request (failed driver .resetFences)
  Program.check objects.encodeCmdPool fun object =>
    object.hasBuffer objects.encodeCmd = true
  Program.request (failed driver .queueSubmit)
  Program.request (failed driver .waitForFences)
  Program.request (failed driver .getQueryPoolResults)
  Program.check objects.outBufferMemory fun memory =>
    driver.mappable (min feedback.bytesWritten.toNat outputBufferBytes)
      memory = true
  Program.request (failed driver .mapMemory)

/-- `encode`.  The objects after the call are returned with its result. -/
def encode (driver : VideoDriver code) (params : SessionParams)
    (objects : EncoderObjects) (frame : InputFrame) (image : Nat)
    (feedback : Feedback) :
    Calls code EncodeError (EncoderObjects × Except EncodeError Unit) :=
  let encoder := VideoEncoder.start params.toEncodeParams [] ()
  if encoder.Accepts frame then do
    match ← (objects.beginEncode driver image).attempt with
    | .error reason => return (objects, .error reason)
    | .ok objects => do
        let result ← (objects.submitEncode driver feedback).attempt
        return (objects, result)
  else
    return (objects, .error (encoder.sizeMismatch frame))

/-- Any number of calls, whose errors the caller may ignore. -/
def encodeAll (driver : VideoDriver code) (params : SessionParams)
    (objects : EncoderObjects) :
    List (InputFrame × Nat × Feedback) → Calls code EncodeError EncoderObjects
  | [] => return objects
  | (frame, image, feedback) :: calls => do
      let ended ← objects.encode driver params frame image feedback
      ended.1.encodeAll driver params calls

end EncoderObjects

end Calls

/-! ## What an encoder owns -/

section Ownership

variable {code : Type} {driver : VideoDriver code} {params : SessionParams}

/-- The memory that was allocated for a requirement of the session. -/
def SessionPart (driver : VideoDriver code) (req : Requirements)
    (memory : Nat) (part : Multiset (Nat × Object)) : Prop :=
  ∃ memType,
    driver.findMemoryType req.memoryTypeBits
      MemoryPropertyFlags.deviceLocal = some memType ∧
    part = {(memory, .memory req.size memType)}

/-- The shape of a DPB image. -/
def dpbShape (params : SessionParams) : Shape :=
  .image .g8b8r8TwoPlane420Unorm params.width params.height
    VideoEncodeUsage.imageDpb

def outShape : Shape :=
  .buffer outputBufferBytes VideoEncodeUsage.bufferDst

/-- The objects of a DPB slot. -/
def SlotPart (driver : VideoDriver code) (params : SessionParams)
    (_ : Nat) (slot : DpbSlot) (part : Multiset (Nat × Object)) : Prop :=
  ∃ memType,
    part = {(slot.view, .imageView slot.image)} +
      ({(slot.image, .backed (dpbShape params) (some slot.memory))} +
        {(slot.memory,
          .memory (driver.requirements (dpbShape params)).size memType)})

def viewPart (view : Nat × Nat) : Multiset (Nat × Object) :=
  {(view.2, .imageView view.1)}

namespace EncoderObjects

/-- The objects of an encoder, in the order in which they are dropped. -/
def Owns (driver : VideoDriver code) (params : SessionParams)
    (objects : EncoderObjects) (left : Multiset (Nat × Object)) : Prop :=
  ∃ memories slots outType next buffers,
    MadeAll (SessionPart driver) (driver.sessionMemoryRequirements params)
      objects.sessionMemory memories ∧
    MadeAll (SlotPart driver params) (List.range dpbSlots) objects.dpb
      slots ∧
    driver.findMemoryType (driver.requirements outShape).memoryTypeBits
      uncachedFlags = some outType ∧
    objects.encodeCmd ∈ buffers ∧
    left = (objects.inputViews.map viewPart).sum +
      ({(objects.encodeFence, .fence)} +
      ({(objects.encodeCmdPool, .commandPool next buffers)} +
      ({(objects.queryPool, .queryPool)} +
      ({(objects.outBuffer,
        .backed outShape (some objects.outBufferMemory))} +
      ({(objects.outBufferMemory,
        .memory (driver.requirements outShape).size outType)} +
      (slots +
      ({(objects.sessionParams, .sessionParameters objects.session)} +
      ({(objects.session, .videoSession (some objects.sessionMemory))} +
        memories))))))))

variable {objects : EncoderObjects} {left : Multiset (Nat × Object)}

/-- `drop` releases everything, each object once. -/
theorem Owns.releases (owns : objects.Owns driver params left) :
    Releases left (objects.drop : Calls code EncodeError Unit) := by
  obtain ⟨memories, slots, outType, next, buffers, session, dpb, _, _,
    whole⟩ := owns
  rw [whole, drop]
  refine Leaves.bindEq leaves_ask ?_
  intro _
  refine (releases_forEach fun view _ => releases_object rfl).seq ?_
  intro _
  refine (releases_object rfl).seq ?_
  intro _
  refine (releases_object rfl).seq ?_
  intro _
  refine (releases_object rfl).seq ?_
  intro _
  refine (releases_object rfl).seq ?_
  intro _
  refine (releases_object rfl).seq ?_
  intro _
  refine (dpb.releases ?_).seq ?_
  · rintro _ slot part ⟨memType, rfl⟩
    refine (releases_object rfl).seq ?_
    intro _
    refine (releases_object rfl).seq ?_
    intro _
    exact releases_object rfl
  intro _
  refine (releases_object rfl).seq ?_
  intro _
  refine (releases_object rfl).seq ?_
  intro _
  refine (session.releases ?_).map _
  rintro req memory part ⟨memType, _, rfl⟩
  exact releases_object rfl

end EncoderObjects

/-! ### Creation -/

section Owned

variable {owned extra : Multiset (Nat × Object)}
variable {refused : EncodeError → Multiset (Nat × Object) → Prop}

end Owned

namespace EncoderObjects

/-- What `encode` uses is there. -/
structure Alive (driver : VideoDriver code) (objects : EncoderObjects)
    (left : Multiset (Nat × Object)) : Prop where
  session : (objects.session,
    .videoSession (some objects.sessionMemory)) ∈ left
  sessionParams : (objects.sessionParams,
    .sessionParameters objects.session) ∈ left
  dpb : ∀ slot, slot ∈ objects.dpb →
    (slot.view, .imageView slot.image) ∈ left
  outBuffer : (objects.outBuffer,
    .backed outShape (some objects.outBufferMemory)) ∈ left
  outBufferMemory : ∃ memory, (objects.outBufferMemory, memory) ∈ left ∧
    ∀ size, 0 < size → size ≤ outputBufferBytes →
      driver.mappable size memory = true
  queryPool : (objects.queryPool, .queryPool) ∈ left
  encodeCmd : ∃ next buffers,
    (objects.encodeCmdPool, .commandPool next buffers) ∈ left ∧
      objects.encodeCmd ∈ buffers
  encodeFence : (objects.encodeFence, .fence) ∈ left
  inputViews : ∀ view, view ∈ objects.inputViews →
    (view.2, .imageView view.1) ∈ left

variable {objects : EncoderObjects} {left inputs : Multiset (Nat × Object)}

theorem mem_viewParts {views : List (Nat × Nat)} {view : Nat × Nat}
    (member : view ∈ views) :
    (view.2, Object.imageView view.1) ∈ (views.map viewPart).sum := by
  induction views with
  | nil => cases member
  | cons first rest inductionHypothesis =>
      rw [List.map_cons, List.sum_cons, Multiset.mem_add]
      rcases List.mem_cons.mp member with rfl | other
      · exact Or.inl (Multiset.mem_singleton_self _)
      · exact Or.inr (inductionHypothesis other)

theorem Owns.alive (owns : objects.Owns driver params left) :
    objects.Alive driver (left + inputs) := by
  obtain ⟨memories, slots, outType, next, buffers, _, dpb, found, allocated,
    rfl⟩ := owns
  have mappable : ∀ size, 0 < size → size ≤ outputBufferBytes →
      driver.mappable size
        (.memory (driver.requirements outShape).size outType) = true :=
    fun size => Driver.mappable_of_findMemoryType found (by decide)
  refine ⟨?_, ?_, ?_, ?_, ⟨_, ?_, mappable⟩, ?_,
    ⟨next, buffers, ?_, allocated⟩, ?_, ?_⟩
  · simp
  · simp
  · intro slot member
    obtain ⟨_, part, ⟨memType, rfl⟩, within⟩ := dpb.exists_of_value member
    have inside : (slot.view, Object.imageView slot.image) ∈ slots :=
      Multiset.mem_of_le within (Multiset.mem_add.mpr
        (Or.inl (Multiset.mem_singleton_self _)))
    simp [inside]
  · simp
  · simp
  · simp
  · simp
  · simp
  · intro view member
    simp [mem_viewParts member]

/-- The objects of the encoder, among the images of its caller. -/
def Holds (driver : VideoDriver code) (params : SessionParams)
    (inputs : Multiset (Nat × Object)) (objects : EncoderObjects)
    (left : Multiset (Nat × Object)) : Prop :=
  ∃ own, objects.Owns driver params own ∧ left = own + inputs

end EncoderObjects

end Ownership

/-! ## A driver -/

end RemoteWay.Encode
