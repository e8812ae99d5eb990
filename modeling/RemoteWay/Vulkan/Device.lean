import RemoteWay.Base.Resources

/-!
# Vulkan objects

The calls of `VulkanContext` as programs on the objects of the driver.  The
driver may refuse each creation, binding, mapping and submission.  A program
has no meaning where it uses a handle that is not alive, binds memory that
does not suit, or maps what cannot be mapped.

A buffer or an image is created with its memory or not at all.
-/

namespace RemoteWay.Vulkan

open RemoteWay.Base

inductive VulkanError where
  | loaderFailed (message : String)
  | initFailed (message : String)
  | noDevice
  | noSuitableQueue (request : String)
  | missingExtension (name : String)
  | call (what code : String)
  | allocation (message : String)
  deriving DecidableEq, Repr

/-! ## Objects -/

/-- `VkFormat`. -/
inductive Format where
  | r8g8b8a8Unorm
  | r16g16Sfloat
  | r32Sfloat
  | g8b8r8TwoPlane420Unorm
  deriving DecidableEq, Repr

/-- What is backed by memory. -/
inductive Shape where
  | buffer (size : Nat) (usage : UInt32)
  | image (format : Format) (width height usage : UInt32)
  deriving DecidableEq, Repr

inductive Kind where
  | vkInstance
  | device
  | commandPool
  | fence
  | buffer
  | image
  | memory
  | imageView
  | queryPool
  | videoSession
  | sessionParameters
  | fsrContext
  deriving DecidableEq, Repr

def Shape.kind : Shape → Kind
  | .buffer _ _ => .buffer
  | .image _ _ _ _ => .image

/-- An object of the driver or of the FSR library.  A device has the queue
families and extensions that it was created with.  A command pool numbers its
buffers, and has those that were not freed. -/
inductive Object where
  | vkInstance
  | device (families : List Nat) (extensions : List String)
  | commandPool (next : Nat) (buffers : List Nat)
  | fence
  | backed (shape : Shape) (memory : Option Nat)
  | memory (size typeIndex : Nat)
  | imageView (image : Nat)
  | queryPool
  | videoSession (memory : Option (List Nat))
  | sessionParameters (session : Nat)
  | fsrContext (maxRenderSize displaySize : UInt32 × UInt32)
  deriving DecidableEq, Repr

namespace Object

def kind : Object → Kind
  | .vkInstance => .vkInstance
  | .device _ _ => .device
  | .commandPool _ _ => .commandPool
  | .fence => .fence
  | .backed shape _ => shape.kind
  | .memory _ _ => .memory
  | .imageView _ => .imageView
  | .queryPool => .queryPool
  | .videoSession _ => .videoSession
  | .sessionParameters _ => .sessionParameters
  | .fsrContext _ _ => .fsrContext

def boundTo (memory : Nat) : Object → Object
  | .backed shape _ => .backed shape (some memory)
  | other => other

def hasFamily (family : Nat) : Object → Bool
  | .device families _ => families.contains family
  | _ => false

def nextBuffer : Object → Nat
  | .commandPool next _ => next
  | _ => 0

def hasBuffer (buffer : Nat) : Object → Bool
  | .commandPool _ buffers => buffers.contains buffer
  | _ => false

def allocated : Object → Object
  | .commandPool next buffers => .commandPool (next + 1) (next :: buffers)
  | other => other

def freed (buffer : Nat) : Object → Object
  | .commandPool next buffers => .commandPool next (buffers.erase buffer)
  | other => other

end Object

/-! ## The driver -/

structure Requirements where
  size : Nat
  memoryTypeBits : UInt32
  deriving DecidableEq, Repr

/-- What a driver reports: the property flags of its memory types and the
requirements of buffers and images, with the texts of its result codes.  A
buffer requires at least its size. -/
structure Driver (code : Type) where
  display : code → String
  debug : code → String
  memoryTypes : List UInt32
  requirements : Shape → Requirements
  covers : ∀ size usage, size ≤ (requirements (.buffer size usage)).size

/-- `flags.contains(wanted)`. -/
def contains (flags wanted : UInt32) : Bool :=
  flags &&& wanted == wanted

theorem contains_trans {flags middle wanted : UInt32}
    (outer : contains flags middle = true)
    (inner : contains middle wanted = true) :
    contains flags wanted = true := by
  rw [contains, beq_iff_eq] at outer inner ⊢
  rw [← inner, ← UInt32.and_assoc, outer]

namespace MemoryPropertyFlags

def deviceLocal : UInt32 := 0x1
def hostVisible : UInt32 := 0x2
def hostCoherent : UInt32 := 0x4
def hostCached : UInt32 := 0x8

end MemoryPropertyFlags

namespace Driver

variable {code : Type}

/-- The bit of the type is set, and the type has the properties. -/
def suitable (driver : Driver code) (bits flags : UInt32) (index : Nat) :
    Bool :=
  bits &&& (1 <<< index.toUInt32) != 0 &&
    contains (driver.memoryTypes.getD index 0) flags

/-- The first suitable memory type. -/
def findMemoryType (driver : Driver code) (bits flags : UInt32) :
    Option Nat :=
  (List.range driver.memoryTypes.length).find? (driver.suitable bits flags)

/-- The memory may be bound to the object. -/
def backs (driver : Driver code) (found : Object) : Object → Bool
  | .memory size typeIndex =>
      match found with
      | .backed shape none =>
          decide ((driver.requirements shape).size ≤ size) &&
            driver.suitable (driver.requirements shape).memoryTypeBits 0
              typeIndex
      | _ => false
  | _ => false

/-- The memory may be mapped. -/
def mappable (driver : Driver code) (size : Nat) : Object → Bool
  | .memory total typeIndex =>
      decide (0 < size ∧ size ≤ total) &&
        contains (driver.memoryTypes.getD typeIndex 0)
          MemoryPropertyFlags.hostVisible
  | _ => false

theorem suitable_of_findMemoryType {driver : Driver code}
    {bits flags : UInt32} {index : Nat}
    (found : driver.findMemoryType bits flags = some index) :
    driver.suitable bits flags index = true :=
  List.find?_some found

theorem suitable_zero {driver : Driver code} {bits flags : UInt32}
    {index : Nat} (suits : driver.suitable bits flags index = true) :
    driver.suitable bits 0 index = true := by
  rw [suitable, Bool.and_eq_true] at suits ⊢
  refine ⟨suits.1, ?_⟩
  rw [contains, UInt32.and_zero]
  rfl

/-- The memory of a buffer can be mapped up to its size, if its type was
chosen to be visible. -/
theorem mappable_of_findMemoryType {driver : Driver code} {size most : Nat}
    {usage flags : UInt32} {index : Nat}
    (found : driver.findMemoryType
      (driver.requirements (.buffer most usage)).memoryTypeBits flags =
        some index)
    (visible : contains flags MemoryPropertyFlags.hostVisible = true)
    (positive : 0 < size) (small : size ≤ most) :
    driver.mappable size
      (.memory (driver.requirements (.buffer most usage)).size index) =
        true := by
  have suits := suitable_of_findMemoryType found
  rw [suitable, Bool.and_eq_true] at suits
  rw [mappable, Bool.and_eq_true, decide_eq_true_eq]
  exact ⟨⟨positive, Nat.le_trans small (driver.covers most usage)⟩,
    contains_trans suits.2 visible⟩

end Driver

/-! ## Calls -/

abbrev Calls (code error : Type) := Program Object code error

section Calls

variable {code error : Type}

def createObject (refused : code → error) (object : Object) :
    Calls code error Nat := do
  Program.request refused
  Program.create object

/-- Destroy an object of the kind. -/
def release (kind : Kind) (name : Nat) : Calls code error Unit := do
  Program.check name fun object => object.kind = kind
  let _ ← Program.destroy name
  return ()

def Driver.bindMemory (driver : Driver code) (refused : code → error)
    (name memory : Nat) : Calls code error Unit := do
  let found ← Program.fetch name
  Program.check memory fun backing => driver.backs found backing = true
  Program.request refused
  Program.change name (found.boundTo memory)

/-- Allocate one command buffer. -/
def allocateFrom (refused : code → error) (pool : Nat) :
    Calls code error Nat := do
  Program.check pool fun object => object.kind = .commandPool
  Program.request refused
  let found ← Program.fetch pool
  Program.change pool found.allocated
  return found.nextBuffer

/-- Free a command buffer. -/
def freeCommandBuffer (pool cmd : Nat) : Calls code error Unit := do
  Program.check pool fun object => object.hasBuffer cmd = true
  let found ← Program.fetch pool
  Program.change pool (found.freed cmd)

variable {owned extra : Multiset (Nat × Object)}
variable {failed : error → Multiset (Nat × Object) → Prop}

theorem leaves_createObject {refused : code → error} {object : Object}
    (fails : ∀ reason, failed (refused reason) owned) :
    Leaves owned (createObject refused object)
      (fun name left => left = {(name, object)} + owned) failed := by
  rw [createObject]
  refine Leaves.bind (leaves_request refused fails) ?_
  intro _ left same
  rw [same]
  exact leaves_create object

theorem releases_object {kind : Kind} {name : Nat} {object : Object}
    (same : object.kind = kind) :
    Releases {(name, object)}
      (release kind name : Calls code error Unit) := by
  rw [release]
  refine Leaves.bind (leaves_check (Multiset.mem_singleton_self _) same) ?_
  intro _ left here
  rw [here]
  refine Leaves.bind (leaves_destroy (Multiset.add_zero _).symm) ?_
  rintro _ left ⟨_, gone⟩
  exact leaves_pure gone

/-- Bind memory that suits. -/
theorem leaves_bindMemory {driver : Driver code} {refused : code → error}
    {name memory : Nat} {shape : Shape} {backing : Object}
    (backs : driver.backs (.backed shape none) backing = true)
    (fails : ∀ reason, failed (refused reason)
      ({(memory, backing)} + {(name, .backed shape none)})) :
    Leaves ({(memory, backing)} + {(name, .backed shape none)})
      (driver.bindMemory refused name memory)
      (fun _ left =>
        left = {(name, .backed shape (some memory))} + {(memory, backing)})
      failed := by
  rw [Driver.bindMemory]
  refine Leaves.bind (leaves_fetch (Multiset.add_comm _ _)) ?_
  rintro found left ⟨rfl, rfl⟩
  refine Leaves.bindEq (leaves_check
    (Multiset.mem_add.mpr (Or.inl (Multiset.mem_singleton_self _))) backs) ?_
  intro _
  refine Leaves.bindEq (leaves_request refused fails) ?_
  intro _
  exact leaves_change _ (Multiset.add_comm _ _)

section Pools

variable {pool next : Nat} {buffers : List Nat}

theorem leaves_freeCommandBuffer {cmd : Nat}
    (has : owned = {(pool, .commandPool next buffers)} + extra)
    (allocated : cmd ∈ buffers) :
    Leaves owned (freeCommandBuffer pool cmd : Calls code error Unit)
      (fun _ left =>
        left = {(pool, .commandPool next (buffers.erase cmd))} + extra)
      failed := by
  have member : (pool, Object.commandPool next buffers) ∈ owned := by
    rw [has]
    exact Multiset.mem_add.mpr (Or.inl (Multiset.mem_singleton_self _))
  rw [freeCommandBuffer]
  refine Leaves.bindEq
    (leaves_check member (List.contains_iff_mem.mpr allocated)) ?_
  intro _
  refine Leaves.bind (leaves_fetch has) ?_
  rintro found left ⟨rfl, rfl⟩
  exact leaves_change _ has

end Pools

end Calls

/-! ## Buffers and images with their memory -/

section Backed

variable {code error : Type} {driver : Driver code} {shape : Shape}
variable {flags : UInt32}

/-- A buffer or an image with its memory, with the texts of the errors. -/
def createBacked (driver : Driver code) (refused : String → error)
    (shape : Shape) (flags : UInt32)
    (create unsuitable allocate bind : String) :
    Calls code error (Nat × Nat) := do
  let object ← createObject
    (fun e => refused (create ++ ": " ++ driver.display e))
    (.backed shape none)
  let memReq := driver.requirements shape
  match driver.findMemoryType memReq.memoryTypeBits flags with
  | none => do
      release shape.kind object
      Program.fail (refused unsuitable)
  | some memTypeIndex => do
      let memory ← (createObject
        (fun e => refused (allocate ++ ": " ++ driver.display e))
        (.memory memReq.size memTypeIndex)).cleanup
          (release shape.kind object)
      (driver.bindMemory
        (fun e => refused (bind ++ ": " ++ driver.display e))
        object memory).cleanup do
          release .memory memory
          release shape.kind object
      return (object, memory)

def createBuffer (driver : Driver code) (size : Nat)
    (usage memoryFlags : UInt32) : Calls code VulkanError (Nat × Nat) :=
  createBacked driver .allocation (.buffer size usage) memoryFlags
    "create buffer" "no suitable memory type" "allocate memory" "bind memory"

def createImage (driver : Driver code) (width height usage : UInt32) :
    Calls code VulkanError (Nat × Nat) :=
  createBacked driver .allocation (.image .r8g8b8a8Unorm width height usage)
    MemoryPropertyFlags.deviceLocal "create image"
    "no device-local memory for image" "alloc image mem" "bind image mem"

/-- The flags that `create_host_buffer` prefers. -/
def cachedFlags : UInt32 :=
  MemoryPropertyFlags.hostVisible ||| MemoryPropertyFlags.hostCoherent |||
    MemoryPropertyFlags.hostCached

def uncachedFlags : UInt32 :=
  MemoryPropertyFlags.hostVisible ||| MemoryPropertyFlags.hostCoherent

def createHostBuffer (driver : Driver code) (size : Nat) (usage : UInt32) :
    Calls code VulkanError (Nat × Nat) :=
  (createBuffer driver size usage cachedFlags).recover fun _ =>
    createBuffer driver size usage uncachedFlags

/-- A buffer or an image, bound to memory of the first suitable type. -/
def Driver.Made (driver : Driver code) (shape : Shape) (flags : UInt32)
    (made : Nat × Nat) (left : Multiset (Nat × Object)) : Prop :=
  ∃ index,
    driver.findMemoryType (driver.requirements shape).memoryTypeBits flags =
      some index ∧
    left = {(made.1, .backed shape (some made.2))} +
      {(made.2, .memory (driver.requirements shape).size index)}

theorem backs_of_findMemoryType {index : Nat}
    (found : driver.findMemoryType
      (driver.requirements shape).memoryTypeBits flags = some index) :
    driver.backs (.backed shape none)
      (.memory (driver.requirements shape).size index) = true := by
  have suits := Driver.suitable_of_findMemoryType found
  rw [Driver.backs, Bool.and_eq_true, decide_eq_true_eq]
  exact ⟨Nat.le_refl _, Driver.suitable_zero suits⟩

/-- All or nothing, whatever the driver refuses. -/
theorem leaves_createBacked {refused : String → error}
    {create unsuitable allocate bind : String} :
    Leaves 0
      (createBacked driver refused shape flags create unsuitable allocate
        bind)
      (driver.Made shape flags) fun _ left => left = 0 := by
  have released : ∀ object, Releases {(object, Object.backed shape none)}
      (release shape.kind object : Calls code error Unit) :=
    fun object => releases_object rfl
  rw [createBacked]
  refine Leaves.bind (leaves_createObject fun _ => rfl) ?_
  intro object left here
  rw [Multiset.add_zero] at here
  rw [here]
  dsimp only
  cases found : driver.findMemoryType
      (driver.requirements shape).memoryTypeBits flags with
  | none =>
      rw [← Multiset.add_zero {(object, Object.backed shape none)}]
      refine (released object).andThen ?_
      intro _
      exact leaves_fail rfl
  | some index =>
      refine Leaves.bind
        ((leaves_createObject ?_).undo (released object)) ?_
      · intro _
        rfl
      intro memory left here
      rw [here]
      refine Leaves.bind
        ((leaves_bindMemory (backs_of_findMemoryType found) ?_).undo ?_) ?_
      · intro _
        rfl
      · exact (releases_object rfl).seq fun _ => released object
      · intro _ left bound
        exact leaves_pure ⟨index, found, bound⟩

/-- The fallback starts from nothing. -/
theorem leaves_createHostBuffer {size : Nat} {usage : UInt32} :
    Leaves 0 (createHostBuffer driver size usage)
      (fun made left =>
        driver.Made (.buffer size usage) cachedFlags made left ∨
          driver.Made (.buffer size usage) uncachedFlags made left)
      fun _ left => left = 0 := by
  rw [createHostBuffer]
  refine (leaves_createBacked.mono (fun _ _ made => Or.inl made)
    (fun _ _ nothing => nothing)).recover ?_
  intro _ left nothing
  rw [nothing]
  exact leaves_createBacked.mono (fun _ _ made => Or.inr made)
    (fun _ _ nothing => nothing)

/-! ### Mapping -/

/-- Map memory for some of its bytes. -/
def mapMemory (driver : Driver code) (memory size : Nat) :
    Calls code VulkanError Unit := do
  Program.check memory fun object => driver.mappable size object = true
  Program.request fun e => .allocation ("map memory: " ++ driver.display e)

def uploadToBuffer (driver : Driver code) (memory : Nat)
    (data : List UInt8) : Calls code VulkanError Unit :=
  mapMemory driver memory data.length

/-- The bytes are what the memory contains. -/
def readFromBuffer (driver : Driver code) (memory size : Nat)
    (contents : Nat → UInt8) : Calls code VulkanError (List UInt8) := do
  mapMemory driver memory size
  return (List.range size).map contents

end Backed

end RemoteWay.Vulkan
