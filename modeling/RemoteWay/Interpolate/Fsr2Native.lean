import RemoteWay.Interpolate.Manager
import RemoteWay.Vulkan.Context

/-!
# The FSR 2 upscaler

`Fsr2NativeInterpolator` keeps the Vulkan objects of the last pair of sizes.
A call with other sizes destroys them and builds new ones.  A call that fails
once they are built keeps them for the next call.

A build that fails leaves what it had made: at most twenty-one objects and
two command buffers.  Nothing else is left of an upscaler that is dropped.
-/

namespace RemoteWay.Interpolate

open RemoteWay.Base RemoteWay.Vulkan

/-- `From<VulkanError>`. -/
def InterpolateError.ofVulkan : VulkanError → InterpolateError
  | .loaderFailed s => .initFailed s
  | .initFailed s => .initFailed s
  | .noSuitableQueue s => .initFailed s
  | .noDevice => .initFailed "no Vulkan device"
  | .missingExtension e => .initFailed ("missing extension: " ++ e)
  | .allocation s => .interpolateFailed s
  | .call what code => .interpolateFailed (what ++ ": " ++ code)

/-! ## What an upscaler keeps -/

structure FsrImage where
  image : Nat
  memory : Nat
  view : Nat
  deriving DecidableEq, Repr

structure StagingBuffer where
  buffer : Nat
  memory : Nat
  deriving DecidableEq, Repr

/-- The objects for one pair of sizes. -/
structure CachedResources where
  srcW : UInt32
  srcH : UInt32
  dstW : UInt32
  dstH : UInt32
  fsrCtx : Nat
  color : FsrImage
  depth : FsrImage
  mv : FsrImage
  output : FsrImage
  stagingColor : StagingBuffer
  stagingDepth : StagingBuffer
  stagingMv : StagingBuffer
  readback : StagingBuffer
  readbackSize : Nat
  cmd : Nat
  deriving DecidableEq, Repr

/-- A call of `upscale`. -/
structure UpscaleCall where
  src : GpuFrame
  dstW : UInt32
  dstH : UInt32
  deriving DecidableEq, Repr

def CachedResources.fits (cached : CachedResources) (call : UpscaleCall) :
    Bool :=
  !(cached.srcW != call.src.width || cached.srcH != call.src.height ||
    cached.dstW != call.dstW || cached.dstH != call.dstH)

namespace FsrUsage

/-- `SAMPLED | STORAGE | TRANSFER_SRC | TRANSFER_DST`. -/
def image : UInt32 := 0x4 ||| 0x8 ||| 0x1 ||| 0x2

def transferSrc : UInt32 := 0x1
def transferDst : UInt32 := 0x2

end FsrUsage

/-- `width * height * 4` in 32 bits. -/
def frameBytes (width height : UInt32) : Nat :=
  (width * height * 4).toNat

section Calls

variable {code : Type}

/-- A call of the context. -/
def vulkan {alpha : Type} (program : Calls code VulkanError alpha) :
    Calls code InterpolateError alpha :=
  program.mapError .ofVulkan

def interpolateFailed (driver : Driver code) (what : String) (e : code) :
    InterpolateError :=
  .interpolateFailed (what ++ ": " ++ driver.display e)

/-! ## Creation -/

/-- Build a fresh FSR 2 context for the given sizes. -/
def buildFsrContext (driver : Driver code)
    (srcW srcH dstW dstH : UInt32) : Calls code InterpolateError Nat := do
  Program.request (interpolateFailed driver "FSR interface")
  createObject (interpolateFailed driver "FSR context")
    (.fsrContext (srcW, srcH) (dstW, dstH))

/-- An image of any shape that has memory. -/
def isBacked : Object → Bool
  | .backed (.image _ _ _ _) (some _) => true
  | _ => false

def createFsrImageFormat (driver : Driver code) (width height : UInt32)
    (usage : UInt32) (format : Format) :
    Calls code InterpolateError FsrImage := do
  let (image, memory) ← createBacked driver .interpolateFailed
    (.image format width height usage) MemoryPropertyFlags.deviceLocal
    "create fsr image" "no device-local memory for FSR image"
    "alloc FSR image mem" "bind FSR image mem"
  let view ← (do
    Program.check image fun object => isBacked object = true
    createObject (interpolateFailed driver "create FSR image view")
      (.imageView image)).cleanup do
        release .memory memory
        release .image image
  return ⟨image, memory, view⟩

def createFsrImage (driver : Driver code) (width height usage : UInt32) :
    Calls code InterpolateError FsrImage :=
  createFsrImageFormat driver width height usage .r8g8b8a8Unorm

def createStaging (driver : Driver code) (size : Nat) (usage : UInt32) :
    Calls code InterpolateError StagingBuffer := do
  let (buffer, memory) ← vulkan (createHostBuffer driver size usage)
  return ⟨buffer, memory⟩

/-! ## Recording -/

/-- The buffer has that many bytes. -/
def holdsBytes (bytes : Nat) : Object → Bool
  | .backed (.buffer size _) (some _) => decide (bytes ≤ size)
  | _ => false

/-- The image has at least this size. -/
def covers (width height : UInt32) : Object → Bool
  | .backed (.image _ w h _) (some _) => decide (width ≤ w ∧ height ≤ h)
  | _ => false

/-- The image has exactly this format and size. -/
def pictures (format : Format) (width height : UInt32) : Object → Bool
  | .backed (.image found w h _) (some _) =>
      decide (found = format ∧ w = width ∧ h = height)
  | _ => false

/-- Commands go into a buffer of the pool. -/
def record (context : VulkanContext) (cmd : Nat) :
    Calls code InterpolateError Unit :=
  Program.check context.commandPool fun pool => pool.hasBuffer cmd = true

def cmdImageBarrierSimple (image : Nat) :
    Calls code InterpolateError Unit :=
  Program.check image fun object => isBacked object = true

/-- Copy a tightly packed picture with four bytes a pixel. -/
def copyBufToImage (srcBuf dstImage : Nat) (width height : UInt32) :
    Calls code InterpolateError Unit := do
  Program.check srcBuf fun object =>
    holdsBytes (width.toNat * height.toNat * 4) object = true
  Program.check dstImage fun object => covers width height object = true

def copyImageToBuf (srcImage dstBuf : Nat) (width height : UInt32) :
    Calls code InterpolateError Unit := do
  Program.check srcImage fun object => covers width height object = true
  Program.check dstBuf fun object =>
    holdsBytes (width.toNat * height.toNat * 4) object = true

/-- `get_texture_resource` for an image and its view. -/
def getTextureResource (fsrCtx : Nat) (picture : FsrImage) (format : Format)
    (width height : UInt32) : Calls code InterpolateError Unit := do
  Program.check fsrCtx fun object => object.kind = .fsrContext
  Program.check picture.image fun object =>
    pictures format width height object = true
  Program.check picture.view fun object =>
    object = .imageView picture.image

/-- The bytes of `1.0`, once for each pixel. -/
def depthScratch (pixels : Nat) : List UInt8 :=
  (List.replicate pixels [0x00, 0x00, 0x80, 0x3F]).flatten

/-- The one-time initialisation of the depth and motion images. -/
def initializeConstants (driver : Driver code) (platform : Platform code)
    (context : VulkanContext) (srcW srcH : UInt32) (depth mv : FsrImage)
    (stagingDepth stagingMv : StagingBuffer) :
    Calls code InterpolateError Unit := do
  vulkan (uploadToBuffer driver stagingDepth.memory
    (depthScratch (srcW * srcH).toNat))
  vulkan (uploadToBuffer driver stagingMv.memory
    (List.replicate (frameBytes srcW srcH) 0))
  let initCmd ← vulkan (context.allocateCommandBuffer platform)
  record context initCmd
  Program.request (interpolateFailed driver "begin init cmd")
  cmdImageBarrierSimple depth.image
  copyBufToImage stagingDepth.buffer depth.image srcW srcH
  cmdImageBarrierSimple depth.image
  cmdImageBarrierSimple mv.image
  copyBufToImage stagingMv.buffer mv.image srcW srcH
  cmdImageBarrierSimple mv.image
  Program.request (interpolateFailed driver "end init cmd")
  vulkan (context.submitAndWait platform initCmd)
  freeCommandBuffer context.commandPool initCmd

/-- New resources, in the order in which `upscale` creates them. -/
def buildResources (driver : Driver code) (platform : Platform code)
    (context : VulkanContext) (srcW srcH dstW dstH : UInt32) :
    Calls code InterpolateError CachedResources := do
  let fsrCtx ← buildFsrContext driver srcW srcH dstW dstH
  let color ← createFsrImage driver srcW srcH FsrUsage.image
  let depth ← createFsrImageFormat driver srcW srcH FsrUsage.image .r32Sfloat
  let mv ← createFsrImageFormat driver srcW srcH FsrUsage.image .r16g16Sfloat
  let output ← createFsrImage driver dstW dstH FsrUsage.image
  let srcSize := frameBytes srcW srcH
  let mvSize := frameBytes srcW srcH
  let stagingColor ← createStaging driver srcSize FsrUsage.transferSrc
  let stagingDepth ← createStaging driver srcSize FsrUsage.transferSrc
  let stagingMv ← createStaging driver mvSize FsrUsage.transferSrc
  let readbackSize := frameBytes dstW dstH
  let readback ← createStaging driver readbackSize FsrUsage.transferDst
  let cmd ← vulkan (context.allocateCommandBuffer platform)
  initializeConstants driver platform context srcW srcH depth mv stagingDepth
    stagingMv
  return {
    srcW, srcH, dstW, dstH, fsrCtx, color, depth, mv, output, stagingColor,
    stagingDepth, stagingMv, readback, readbackSize, cmd }

/-! ## Destruction -/

def FsrImage.destroy {error : Type} (picture : FsrImage) :
    Calls code error Unit := do
  release .imageView picture.view
  release .image picture.image
  release .memory picture.memory

def StagingBuffer.destroy {error : Type} (staging : StagingBuffer) :
    Calls code error Unit := do
  release .buffer staging.buffer
  release .memory staging.memory

/-- What a new pair of sizes and `Drop::drop` do to the cached resources. -/
def CachedResources.destroy {error : Type} (context : VulkanContext)
    (old : CachedResources) : Calls code error Unit := do
  release .fsrContext old.fsrCtx
  let _ ← Program.forEach FsrImage.destroy
    [old.color, old.depth, old.mv, old.output]
  let _ ← Program.forEach StagingBuffer.destroy
    [old.stagingColor, old.stagingDepth, old.stagingMv, old.readback]
  freeCommandBuffer context.commandPool old.cmd

/-! ## Upscaling -/

/-- What the FSR library computes: the bytes of the output image. -/
abbrev Kernel := UpscaleCall → Nat → UInt8

/-- `upscale` once the resources are there. -/
def CachedResources.dispatch (driver : Driver code)
    (platform : Platform code) (context : VulkanContext) (kernel : Kernel)
    (res : CachedResources) (call : UpscaleCall) :
    Calls code InterpolateError GpuFrame := do
  let srcW := call.src.width
  let srcH := call.src.height
  vulkan (uploadToBuffer driver res.stagingColor.memory call.src.data)
  record context res.cmd
  Program.request (interpolateFailed driver "reset cmd")
  Program.request (interpolateFailed driver "begin cmd")
  cmdImageBarrierSimple res.color.image
  copyBufToImage res.stagingColor.buffer res.color.image srcW srcH
  cmdImageBarrierSimple res.color.image
  cmdImageBarrierSimple res.output.image
  getTextureResource res.fsrCtx res.color .r8g8b8a8Unorm srcW srcH
  getTextureResource res.fsrCtx res.depth .r32Sfloat srcW srcH
  getTextureResource res.fsrCtx res.mv .r16g16Sfloat srcW srcH
  getTextureResource res.fsrCtx res.output .r8g8b8a8Unorm call.dstW call.dstH
  -- the context must have been built for the sizes of the dispatch
  Program.check res.fsrCtx fun object =>
    object = .fsrContext (srcW, srcH) (call.dstW, call.dstH)
  Program.request (interpolateFailed driver "FSR dispatch")
  copyImageToBuf res.output.image res.readback.buffer call.dstW call.dstH
  Program.request (interpolateFailed driver "end dr cmd")
  vulkan (context.submitAndWait platform res.cmd)
  let data ← vulkan
    (readFromBuffer driver res.readback.memory res.readbackSize (kernel call))
  return {
    data := data
    width := call.dstW
    height := call.dstH
    stride := call.dstW * 4
    timestampNs := call.src.timestampNs }

/-- The cached resources, or new ones in their place. -/
def ensureResources (driver : Driver code) (platform : Platform code)
    (context : VulkanContext) (cache : Option CachedResources)
    (call : UpscaleCall) :
    Calls code InterpolateError
      (Except InterpolateError CachedResources) :=
  let rebuild := (buildResources driver platform context call.src.width
    call.src.height call.dstW call.dstH).attempt
  match cache with
  | none => rebuild
  | some old =>
      if old.fits call then
        return .ok old
      else do
        old.destroy context
        rebuild

/-- What is cached after a call, and its result. -/
structure Upscaled where
  cache : Option CachedResources
  result : Except InterpolateError GpuFrame

def upscale (driver : Driver code) (platform : Platform code)
    (context : VulkanContext) (kernel : Kernel)
    (cache : Option CachedResources) (call : UpscaleCall) :
    Calls code InterpolateError Upscaled := do
  match ← ensureResources driver platform context cache call with
  | .error reason => return ⟨none, .error reason⟩
  | .ok res => do
      let result ←
        (res.dispatch driver platform context kernel call).attempt
      return ⟨some res, result⟩

end Calls

/-! ## What an upscaler owns -/

section Ownership

variable {code : Type} {driver : Driver code} {platform : Platform code}
variable {context : VulkanContext} {kernel : Kernel}

/-- The objects of an image of this format and size. -/
def ImagePart (spec : Format × UInt32 × UInt32) (picture : FsrImage)
    (part : Multiset (Nat × Object)) : Prop :=
  ∃ backing : Object, backing.kind = .memory ∧
    part = {(picture.view, .imageView picture.image)} +
      ({(picture.image, .backed
          (.image spec.1 spec.2.1 spec.2.2 FsrUsage.image)
          (some picture.memory))} +
        {(picture.memory, backing)})

/-- The objects of a buffer of this size, which can be mapped. -/
def StagingPart (driver : Driver code) (size : Nat)
    (staging : StagingBuffer) (part : Multiset (Nat × Object)) : Prop :=
  ∃ usage backing, backing.kind = .memory ∧
    (∀ bytes, 0 < bytes → bytes ≤ size →
      driver.mappable bytes backing = true) ∧
    part = {(staging.buffer, .backed (.buffer size usage)
        (some staging.memory))} + {(staging.memory, backing)}

theorem ImagePart.releases {spec : Format × UInt32 × UInt32}
    {picture : FsrImage} {part : Multiset (Nat × Object)} {error : Type}
    (has : ImagePart spec picture part) :
    Releases part (picture.destroy : Calls code error Unit) := by
  obtain ⟨backing, memory, rfl⟩ := has
  rw [FsrImage.destroy]
  refine (releases_object rfl).seq ?_
  intro _
  refine (releases_object rfl).seq ?_
  intro _
  exact releases_object memory

theorem StagingPart.releases {size : Nat} {staging : StagingBuffer}
    {part : Multiset (Nat × Object)} {error : Type}
    (has : StagingPart driver size staging part) :
    Releases part (staging.destroy : Calls code error Unit) := by
  obtain ⟨usage, backing, memory, _, rfl⟩ := has
  rw [StagingBuffer.destroy]
  refine (releases_object rfl).seq ?_
  intro _
  exact releases_object memory

theorem ImagePart.card {spec : Format × UInt32 × UInt32}
    {picture : FsrImage} {part : Multiset (Nat × Object)}
    (has : ImagePart spec picture part) : part.card = 3 := by
  obtain ⟨_, _, rfl⟩ := has
  rfl

theorem StagingPart.card {size : Nat} {staging : StagingBuffer}
    {part : Multiset (Nat × Object)}
    (has : StagingPart driver size staging part) : part.card = 2 := by
  obtain ⟨_, _, _, _, rfl⟩ := has
  rfl

namespace CachedResources

variable {res : CachedResources}

def images (res : CachedResources) : List FsrImage :=
  [res.color, res.depth, res.mv, res.output]

def imageSpecs (res : CachedResources) : List (Format × UInt32 × UInt32) :=
  [(.r8g8b8a8Unorm, res.srcW, res.srcH), (.r32Sfloat, res.srcW, res.srcH),
    (.r16g16Sfloat, res.srcW, res.srcH),
    (.r8g8b8a8Unorm, res.dstW, res.dstH)]

def stagings (res : CachedResources) : List StagingBuffer :=
  [res.stagingColor, res.stagingDepth, res.stagingMv, res.readback]

def stagingSizes (res : CachedResources) : List Nat :=
  [frameBytes res.srcW res.srcH, frameBytes res.srcW res.srcH,
    frameBytes res.srcW res.srcH, frameBytes res.dstW res.dstH]

/-- The object of the FSR context. -/
def fsrObject (res : CachedResources) : Nat × Object :=
  (res.fsrCtx, .fsrContext (res.srcW, res.srcH) (res.dstW, res.dstH))

/-- The objects of the cached resources, for the sizes that they are for. -/
def Owns (driver : Driver code) (res : CachedResources)
    (own : Multiset (Nat × Object)) : Prop :=
  ∃ images stagings,
    res.readbackSize = frameBytes res.dstW res.dstH ∧
    MadeAll ImagePart res.imageSpecs res.images images ∧
    MadeAll (StagingPart driver) res.stagingSizes res.stagings stagings ∧
    own = {res.fsrObject} + (images + stagings)

/-- Their destruction leaves nothing of them, and the rest of the pool. -/
theorem Owns.leaves_destroy {own : Multiset (Nat × Object)}
    {error : Type} {failed : error → Multiset (Nat × Object) → Prop}
    {next : Nat} {buffers : List Nat} (owns : res.Owns driver own)
    (allocated : res.cmd ∈ buffers) :
    Leaves (own + {(context.commandPool, .commandPool next buffers)})
      (res.destroy context : Calls code error Unit)
      (fun _ left => left =
        {(context.commandPool, .commandPool next (buffers.erase res.cmd))})
      failed := by
  obtain ⟨images, stagings, _, imagesMade, stagingsMade, rfl⟩ := owns
  rw [destroy, Multiset.add_assoc, Multiset.add_assoc]
  refine (releases_object rfl).andThen ?_
  intro _
  refine (imagesMade.releases fun _ _ _ has => has.releases).andThen ?_
  intro _
  refine (stagingsMade.releases fun _ _ _ has => has.releases).andThen ?_
  intro _
  refine (leaves_freeCommandBuffer (Multiset.add_zero _).symm
    allocated).mono ?_ fun _ _ never => never
  intro _ left here
  rw [here, Multiset.add_zero]

end CachedResources

/-! ### What a call needs -/

/-- The image and its view are there. -/
structure ImageAlive (spec : Format × UInt32 × UInt32) (picture : FsrImage)
    (left : Multiset (Nat × Object)) : Prop where
  image : (picture.image, .backed
    (.image spec.1 spec.2.1 spec.2.2 FsrUsage.image)
    (some picture.memory)) ∈ left
  view : (picture.view, .imageView picture.image) ∈ left

/-- The buffer is there, with memory that can be mapped. -/
structure StagingAlive (driver : Driver code) (size : Nat)
    (staging : StagingBuffer) (left : Multiset (Nat × Object)) : Prop where
  buffer : ∃ usage, (staging.buffer, .backed (.buffer size usage)
    (some staging.memory)) ∈ left
  memory : ∃ backing, (staging.memory, backing) ∈ left ∧
    ∀ bytes, 0 < bytes → bytes ≤ size →
      driver.mappable bytes backing = true

theorem ImagePart.alive {spec : Format × UInt32 × UInt32}
    {picture : FsrImage} {part left : Multiset (Nat × Object)}
    (has : ImagePart spec picture part) (within : part ≤ left) :
    ImageAlive spec picture left := by
  obtain ⟨backing, _, rfl⟩ := has
  exact ⟨Multiset.mem_of_le within (by simp),
    Multiset.mem_of_le within (by simp)⟩

theorem StagingPart.alive {size : Nat} {staging : StagingBuffer}
    {part left : Multiset (Nat × Object)}
    (has : StagingPart driver size staging part) (within : part ≤ left) :
    StagingAlive driver size staging left := by
  obtain ⟨usage, backing, _, mappable, rfl⟩ := has
  exact ⟨⟨usage, Multiset.mem_of_le within (by simp)⟩,
    ⟨backing, Multiset.mem_of_le within (by simp), mappable⟩⟩

theorem ImageAlive.mono {spec : Format × UInt32 × UInt32}
    {picture : FsrImage} {part left : Multiset (Nat × Object)}
    (alive : ImageAlive spec picture part) (within : part ≤ left) :
    ImageAlive spec picture left :=
  ⟨Multiset.mem_of_le within alive.image, Multiset.mem_of_le within alive.view⟩

theorem StagingAlive.mono {size : Nat} {staging : StagingBuffer}
    {part left : Multiset (Nat × Object)}
    (alive : StagingAlive driver size staging part) (within : part ≤ left) :
    StagingAlive driver size staging left := by
  obtain ⟨usage, member⟩ := alive.buffer
  obtain ⟨backing, inside, mappable⟩ := alive.memory
  exact ⟨⟨usage, Multiset.mem_of_le within member⟩,
    ⟨backing, Multiset.mem_of_le within inside, mappable⟩⟩

/-- What the calls use is there. -/
structure CachedResources.Alive (driver : Driver code)
    (res : CachedResources) (left : Multiset (Nat × Object)) : Prop where
  fsrCtx : res.fsrObject ∈ left
  color : ImageAlive (.r8g8b8a8Unorm, res.srcW, res.srcH) res.color left
  depth : ImageAlive (.r32Sfloat, res.srcW, res.srcH) res.depth left
  mv : ImageAlive (.r16g16Sfloat, res.srcW, res.srcH) res.mv left
  output : ImageAlive (.r8g8b8a8Unorm, res.dstW, res.dstH) res.output left
  stagingColor : StagingAlive driver (frameBytes res.srcW res.srcH)
    res.stagingColor left
  stagingDepth : StagingAlive driver (frameBytes res.srcW res.srcH)
    res.stagingDepth left
  stagingMv : StagingAlive driver (frameBytes res.srcW res.srcH)
    res.stagingMv left
  readback : StagingAlive driver (frameBytes res.dstW res.dstH) res.readback
    left
  readbackSize : res.readbackSize = frameBytes res.dstW res.dstH

theorem CachedResources.Owns.alive {res : CachedResources}
    {own left : Multiset (Nat × Object)} (owns : res.Owns driver own)
    (within : own ≤ left) : res.Alive driver left := by
  obtain ⟨images, stagings, size, imagesMade, stagingsMade, rfl⟩ := owns
  have imagesWithin : images ≤ left :=
    ((Multiset.le_add_right _ _).trans (Multiset.le_add_left _ _)).trans
      within
  have stagingsWithin : stagings ≤ left :=
    ((Multiset.le_add_left _ _).trans (Multiset.le_add_left _ _)).trans
      within
  have image : ∀ spec picture,
      (spec, picture) ∈ res.imageSpecs.zip res.images →
        ImageAlive spec picture left := by
    intro spec picture member
    obtain ⟨part, has, below⟩ := imagesMade.exists_of_mem member
    exact has.alive (below.trans imagesWithin)
  have staging : ∀ size staging,
      (size, staging) ∈ res.stagingSizes.zip res.stagings →
        StagingAlive driver size staging left := by
    intro size staging member
    obtain ⟨part, has, below⟩ := stagingsMade.exists_of_mem member
    exact has.alive (below.trans stagingsWithin)
  rw [imageSpecs, CachedResources.images] at image
  rw [stagingSizes, CachedResources.stagings] at staging
  exact {
    fsrCtx := Multiset.mem_of_le within (by simp)
    color := image _ _ (by simp)
    depth := image _ _ (by simp)
    mv := image _ _ (by simp)
    output := image _ _ (by simp)
    stagingColor := staging _ _ (by simp)
    stagingDepth := staging _ _ (by simp)
    stagingMv := staging _ _ (by simp)
    readback := staging _ _ (by simp)
    readbackSize := size }

/-! ### Calls on what is there -/

section Steps

variable {owned : Multiset (Nat × Object)}
variable {failed : InterpolateError → Multiset (Nat × Object) → Prop}

end Steps

/-! ### Building -/

section Building

variable {next : Nat} {buffers : List Nat} {rest : Multiset (Nat × Object)}

end Building

/-! ### Upscaling -/

/-- The answer to a call: a picture of the target size. -/
def UpscaleCall.answer (call : UpscaleCall) (kernel : Kernel) : GpuFrame where
  data := (List.range (call.dstW.toNat * call.dstH.toNat * 4)).map
    (kernel call)
  width := call.dstW
  height := call.dstH
  stride := call.dstW * 4
  timestampNs := call.src.timestampNs

namespace CachedResources

end CachedResources

/-! ### Runs -/

section Runs

variable {buffers : List Nat} {unbuilt : Nat}
variable {cache : Option CachedResources} {call : UpscaleCall}
variable {left : Multiset (Nat × Object)}

end Runs

end Ownership

/-! ## A driver -/

/-- A frame of two pixels. -/
def twoPixels : GpuFrame where
  data := [0, 0, 0, 255, 255, 255, 255, 255]
  width := 2
  height := 1
  stride := 8
  timestampNs := 16

end RemoteWay.Interpolate
