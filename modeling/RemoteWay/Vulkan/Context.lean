import Mathlib.Data.List.Destutter
import RemoteWay.Encode.Encoder
import RemoteWay.Vulkan.Device

/-!
# Vulkan contexts

A context owns an instance, a device and a command pool, and releases them
when it is dropped.  A context that cannot be set up releases what there is,
with three exceptions: the instance stays if the physical devices cannot be
enumerated or if the chosen one lacks a requested queue, and the device stays
too if the request has no compute queue.
-/

namespace RemoteWay.Vulkan

open RemoteWay.Base RemoteWay.Encode

/-! ## Queue requests -/

namespace QueueCapabilities

def compute : UInt32 := 0b001
def transfer : UInt32 := 0b010
def videoEncode : UInt32 := 0b100

/-- The flags of a capability set in `VkQueueFlags`. -/
def toVkQueueFlags (caps : UInt32) : UInt32 :=
  let flags := if contains caps compute then 0x2 else 0
  let flags := if contains caps transfer then flags ||| 0x4 else flags
  if contains caps videoEncode then flags ||| 0x40 else flags

end QueueCapabilities

structure QueueRequest where
  queues : List UInt32
  videoCodecs : List VideoCodec
  deriving DecidableEq, Repr

namespace QueueRequest

def computeOnly : QueueRequest where
  queues := [QueueCapabilities.compute ||| QueueCapabilities.transfer]
  videoCodecs := []

/-- Some queue of the request computes. -/
def Computes (request : QueueRequest) : Prop :=
  ∃ caps, caps ∈ request.queues ∧
    contains caps QueueCapabilities.compute = true

end QueueRequest

def encodeExtension : VideoCodec → String
  | .h264 => "VK_KHR_video_encode_h264"
  | .h265 => "VK_KHR_video_encode_h265"
  | .av1 => "VK_KHR_video_encode_av1"

/-! ## Physical devices -/

structure PhysicalDevice where
  discrete : Bool
  vendorId : UInt32
  deviceName : String
  apiVersion : UInt32
  queueFamilies : List UInt32
  extensions : List String
  deriving DecidableEq, Repr

/-- The physical devices, with the texts of result codes and of capability
sets. -/
structure Platform (code : Type) where
  display : code → String
  debug : code → String
  debugCapabilities : UInt32 → String
  physicalDevices : List PhysicalDevice

/-- The first discrete device, or else the first one. -/
def choosePhysicalDevice (first : PhysicalDevice)
    (others : List PhysicalDevice) : PhysicalDevice :=
  ((first :: others).find? PhysicalDevice.discrete).getD first

namespace PhysicalDevice

/-- The first family that has the requested flags. -/
def familyFor (physical : PhysicalDevice) (caps : UInt32) : Option Nat :=
  physical.queueFamilies.findIdx? fun flags =>
    contains flags (QueueCapabilities.toVkQueueFlags caps)

/-- A family for each requested set, or the first set without one. -/
def selectFamilies (physical : PhysicalDevice) :
    List UInt32 → Except UInt32 (List (UInt32 × Nat))
  | [] => .ok []
  | caps :: rest =>
      match physical.familyFor caps with
      | none => .error caps
      | some family =>
          (physical.selectFamilies rest).map fun selected =>
            (caps, family) :: selected

/-- The extensions that a request needs, as far as the device has them. -/
def enabledExtensions (available : List String) (request : QueueRequest)
    (extensions : List String) : List String :=
  let needed :=
    if request.queues.any fun caps =>
        contains caps QueueCapabilities.videoEncode then
      extensions ++ ["VK_KHR_video_queue", "VK_KHR_video_encode_queue"] ++
        request.videoCodecs.map encodeExtension
    else
      extensions
  needed.filter fun extension => available.contains extension

end PhysicalDevice

/-- The selected families in order, each once. -/
def uniqueFamilies (selected : List (UInt32 × Nat)) : List Nat :=
  ((selected.map Prod.snd).mergeSort fun first second =>
    decide (first ≤ second)).destutter (· ≠ ·)

/-! ## Contexts -/

structure VulkanContext where
  vkInstance : Nat
  device : Nat
  commandPool : Nat
  queueFamily : Nat
  videoEncodeQueueFamily : Option Nat
  vendorId : UInt32
  deviceName : String
  apiVersion : UInt32
  deriving DecidableEq, Repr

section Contexts

variable {code : Type}

/-- A queue of a family that the device was created with. -/
def getDeviceQueue (device family : Nat) : Calls code VulkanError Unit :=
  Program.check device fun object => object.hasFamily family = true

/-- The extensions of the device, or none if they cannot be enumerated. -/
def availableExtensions (physical : PhysicalDevice) :
    Calls code VulkanError (List String) := do
  let enumerated ← Program.ask
  return if enumerated then physical.extensions else []

/-- `with_request` once the device is created. -/
def openQueues (platform : Platform code) (physical : PhysicalDevice)
    (vkInstance device : Nat) (selected : List (UInt32 × Nat)) :
    Calls code VulkanError VulkanContext :=
  match selected.find? fun choice =>
      contains choice.1 QueueCapabilities.compute with
  | none =>
      Program.fail (.noSuitableQueue "no COMPUTE queue requested")
  | some (_, computeFamily) => do
      getDeviceQueue device computeFamily
      let videoEncode := selected.find? fun choice =>
        contains choice.1 QueueCapabilities.videoEncode
      let _ ← Program.forEach
        (fun choice : UInt32 × Nat => getDeviceQueue device choice.2)
        videoEncode.toList
      let commandPool ← (createObject
        (fun e => .initFailed ("command pool: " ++ platform.display e))
        (.commandPool 0 [])).cleanup do
          release .device device
          release .vkInstance vkInstance
      return {
        vkInstance := vkInstance
        device := device
        commandPool := commandPool
        queueFamily := computeFamily
        videoEncodeQueueFamily := videoEncode.map Prod.snd
        vendorId := physical.vendorId
        deviceName := physical.deviceName
        apiVersion := physical.apiVersion }

/-- `with_request` once the physical device is chosen. -/
def openDevice (platform : Platform code) (request : QueueRequest)
    (extensions : List String) (vkInstance : Nat)
    (physical : PhysicalDevice) : Calls code VulkanError VulkanContext :=
  match physical.selectFamilies request.queues with
  | .error caps =>
      Program.fail (.noSuitableQueue (platform.debugCapabilities caps))
  | .ok selected => do
      let available ← availableExtensions physical
      let device ← (createObject
        (fun e => .initFailed ("Vulkan device: " ++ platform.display e))
        (.device (uniqueFamilies selected)
          (PhysicalDevice.enabledExtensions available request
            extensions))).cleanup
        (release .vkInstance vkInstance)
      openQueues platform physical vkInstance device selected

def withRequest (platform : Platform code) (request : QueueRequest)
    (extensions : List String) : Calls code VulkanError VulkanContext :=
  if request.queues.isEmpty then
    Program.fail
      (.noSuitableQueue "QueueRequest must include at least one queue")
  else do
    Program.request fun e => .loaderFailed (platform.display e)
    let vkInstance ← createObject
      (fun e => .initFailed ("Vulkan instance: " ++ platform.display e))
      .vkInstance
    Program.request fun e =>
      .initFailed ("enumerate devices: " ++ platform.display e)
    match platform.physicalDevices with
    | [] => do
        release .vkInstance vkInstance
        Program.fail .noDevice
    | first :: others =>
        openDevice platform request extensions vkInstance
          (choosePhysicalDevice first others)

def VulkanContext.new (platform : Platform code)
    (extensions : List String) : Calls code VulkanError VulkanContext :=
  withRequest platform .computeOnly extensions

/-- `Drop::drop`. -/
def VulkanContext.drop (context : VulkanContext) :
    Calls code VulkanError Unit := do
  release .commandPool context.commandPool
  release .device context.device
  release .vkInstance context.vkInstance

/-! ### Calls on a context -/

/-- `allocate_command_buffer`. -/
def VulkanContext.allocateCommandBuffer (platform : Platform code)
    (context : VulkanContext) : Calls code VulkanError Nat :=
  allocateFrom
    (fun e => .call "allocate_command_buffers" (platform.debug e))
    context.commandPool

/-- Submit a command buffer and wait for its fence. -/
def VulkanContext.submitAndWait (platform : Platform code)
    (context : VulkanContext) (cmd : Nat) :
    Calls code VulkanError Unit := do
  let fence ← createObject
    (fun e => .call "create_fence" (platform.debug e)) .fence
  Program.ensure (do
    Program.check context.commandPool fun pool => pool.hasBuffer cmd = true
    Program.request fun e => .call "queue_submit" (platform.debug e)
    Program.request fun e => .call "wait_for_fences" (platform.debug e))
    (release .fence fence)

/-- `is_vulkan_available`. -/
def isVulkanAvailable (platform : Platform code) :
    Calls code VulkanError Bool :=
  (do
    let context ← VulkanContext.new platform []
    context.drop
    return true).recover fun _ => return false

end Contexts

/-! ## Queue families -/

theorem uniqueFamilies_eq_dedup (selected : List (UInt32 × Nat)) :
    uniqueFamilies selected =
      ((selected.map Prod.snd).mergeSort fun first second =>
        decide (first ≤ second)).dedup := by
  have sorted : ((selected.map Prod.snd).mergeSort fun first second =>
      decide (first ≤ second)).Pairwise (· ≤ ·) := by
    refine (List.pairwise_mergeSort ?_ ?_ _).imp ?_
    · intro first second third before after
      exact decide_eq_true (Nat.le_trans (of_decide_eq_true before)
        (of_decide_eq_true after))
    · intro first second
      rw [Bool.or_eq_true, decide_eq_true_eq, decide_eq_true_eq]
      exact Nat.le_total first second
    · intro first second before
      exact of_decide_eq_true before
  exact sorted.destutter_eq_dedup

theorem nodup_uniqueFamilies (selected : List (UInt32 × Nat)) :
    (uniqueFamilies selected).Nodup := by
  rw [uniqueFamilies_eq_dedup]
  exact List.nodup_dedup _

theorem mem_uniqueFamilies {selected : List (UInt32 × Nat)}
    {choice : UInt32 × Nat} (member : choice ∈ selected) :
    choice.2 ∈ uniqueFamilies selected := by
  rw [uniqueFamilies_eq_dedup, List.mem_dedup, List.mem_mergeSort]
  exact List.mem_map_of_mem member

namespace PhysicalDevice

variable {physical : PhysicalDevice}

theorem selectFamilies_eq_error {requested : List UInt32} {caps : UInt32}
    (missing : physical.selectFamilies requested = .error caps) :
    caps ∈ requested ∧ physical.familyFor caps = none := by
  induction requested with
  | nil => cases missing
  | cons first rest inductionHypothesis =>
      rw [selectFamilies] at missing
      cases found : physical.familyFor first with
      | none =>
          rw [found] at missing
          cases missing
          exact ⟨List.mem_cons_self, found⟩
      | some family =>
          rw [found] at missing
          cases later : physical.selectFamilies rest with
          | error other =>
              rw [later] at missing
              cases missing
              obtain ⟨member, lacking⟩ := inductionHypothesis later
              exact ⟨List.mem_cons_of_mem _ member, lacking⟩
          | ok selected =>
              rw [later] at missing
              cases missing

/-- There is a choice for each requested set. -/
theorem selectFamilies_eq_ok {requested : List UInt32}
    {selected : List (UInt32 × Nat)}
    (chosen : physical.selectFamilies requested = .ok selected) :
    selected.map Prod.fst = requested := by
  induction requested generalizing selected with
  | nil =>
      cases chosen
      rfl
  | cons first rest inductionHypothesis =>
      rw [selectFamilies] at chosen
      cases found : physical.familyFor first with
      | none =>
          rw [found] at chosen
          cases chosen
      | some family =>
          rw [found] at chosen
          cases later : physical.selectFamilies rest with
          | error other =>
              rw [later] at chosen
              cases chosen
          | ok others =>
              rw [later] at chosen
              cases chosen
              rw [List.map_cons, inductionHypothesis later]

end PhysicalDevice

theorem choosePhysicalDevice_mem (first : PhysicalDevice)
    (others : List PhysicalDevice) :
    choosePhysicalDevice first others ∈ first :: others := by
  rw [choosePhysicalDevice]
  cases found : (first :: others).find? PhysicalDevice.discrete with
  | none => exact List.mem_cons_self
  | some physical => exact List.mem_of_find?_eq_some found

/-! ## What a context owns -/

/-- The objects of a context.  Its queues are of families that the device
was created with, each once. -/
def VulkanContext.Owns (context : VulkanContext)
    (left : Multiset (Nat × Object)) : Prop :=
  ∃ families extensions next buffers,
    families.Nodup ∧ context.queueFamily ∈ families ∧
    (∀ family, context.videoEncodeQueueFamily = some family →
      family ∈ families) ∧
    left =
      {(context.commandPool, .commandPool next buffers)} +
        ({(context.device, .device families extensions)} +
          {(context.vkInstance, .vkInstance)})

/-- What a failure of `with_request` leaves behind. -/
inductive Abandoned {code : Type} (platform : Platform code)
    (request : QueueRequest) :
    VulkanError → Multiset (Nat × Object) → Prop where
  | nothing {reason : VulkanError} : Abandoned platform request reason 0
  | enumeration {e : code} {vkInstance : Nat} :
      Abandoned platform request
        (.initFailed ("enumerate devices: " ++ platform.display e))
        {(vkInstance, .vkInstance)}
  | family {physical : PhysicalDevice} {caps : UInt32} {vkInstance : Nat}
      (present : physical ∈ platform.physicalDevices)
      (requested : caps ∈ request.queues)
      (missing : physical.familyFor caps = none) :
      Abandoned platform request
        (.noSuitableQueue (platform.debugCapabilities caps))
        {(vkInstance, .vkInstance)}
  | compute {device vkInstance : Nat} {families : List Nat}
      {extensions : List String} (without : ¬ request.Computes) :
      Abandoned platform request
        (.noSuitableQueue "no COMPUTE queue requested")
        ({(device, .device families extensions)} +
          {(vkInstance, .vkInstance)})

section Ownership

variable {code : Type} {platform : Platform code} {request : QueueRequest}
variable {extensions : List String}

theorem VulkanContext.Owns.releases {context : VulkanContext}
    {left : Multiset (Nat × Object)} (owns : context.Owns left) :
    Releases left (context.drop : Calls code VulkanError Unit) := by
  obtain ⟨_, _, _, _, _, _, _, whole⟩ := owns
  rw [whole, VulkanContext.drop]
  refine (releases_object rfl).seq ?_
  intro _
  refine (releases_object rfl).seq ?_
  intro _
  exact releases_object rfl

/-- A queue of one of the families of the device. -/
theorem leaves_getDeviceQueue {owned : Multiset (Nat × Object)}
    {failed : VulkanError → Multiset (Nat × Object) → Prop}
    {device family : Nat} {families : List Nat} {enabled : List String}
    (member : (device, Object.device families enabled) ∈ owned)
    (among : family ∈ families) :
    Leaves owned (getDeviceQueue device family : Calls code VulkanError Unit)
      (fun _ left => left = owned) failed :=
  leaves_check member (List.contains_iff_mem.mpr among)

theorem leaves_availableExtensions {physical : PhysicalDevice}
    {owned : Multiset (Nat × Object)}
    {failed : VulkanError → Multiset (Nat × Object) → Prop} :
    Leaves owned
      (availableExtensions physical : Calls code VulkanError (List String))
      (fun _ left => left = owned) failed := by
  rw [availableExtensions]
  refine Leaves.bind leaves_ask ?_
  intro _ left same
  exact leaves_pure same

/-- The device and its instance, whose queues are being opened. -/
theorem leaves_openQueues {physical : PhysicalDevice}
    {vkInstance device : Nat} {enabled : List String}
    {selected : List (UInt32 × Nat)}
    (requested : selected.map Prod.fst = request.queues) :
    Leaves ({(device, .device (uniqueFamilies selected) enabled)} +
        {(vkInstance, .vkInstance)})
      (openQueues platform physical vkInstance device selected)
      VulkanContext.Owns (Abandoned platform request) := by
  have present : (device,
      Object.device (uniqueFamilies selected) enabled) ∈
        ({(device, .device (uniqueFamilies selected) enabled)} +
          {(vkInstance, .vkInstance)} : Multiset (Nat × Object)) :=
    Multiset.mem_add.mpr (Or.inl (Multiset.mem_singleton_self _))
  rw [openQueues]
  cases computes : selected.find? fun choice =>
      contains choice.1 QueueCapabilities.compute with
  | none =>
      refine leaves_fail (Abandoned.compute ?_)
      rintro ⟨caps, member, compute⟩
      rw [← requested] at member
      obtain ⟨choice, chosen, rfl⟩ := List.mem_map.mp member
      exact List.find?_eq_none.mp computes choice chosen compute
  | some choice =>
      have computing := mem_uniqueFamilies (List.mem_of_find?_eq_some computes)
      refine Leaves.bindEq (leaves_getDeviceQueue present computing) ?_
      intro _
      dsimp only
      have encoding : ∀ choice, choice ∈ (selected.find? fun choice =>
          contains choice.1 QueueCapabilities.videoEncode).toList →
            choice.2 ∈ uniqueFamilies selected := by
        intro choice found
        exact mem_uniqueFamilies
          (List.mem_of_find?_eq_some (Option.mem_toList.mp found))
      refine Leaves.bindEq (leaves_forEach_same fun choice found =>
        leaves_getDeviceQueue present (encoding choice found)) ?_
      intro _
      refine Leaves.bindEq (((leaves_createObject ?_).undo ?_).mono
        (fun _ _ here => here) ?_) ?_
      · intro _
        rfl
      · refine (releases_object rfl).seq ?_
        intro _
        exact releases_object rfl
      · intro reason left nothing
        rw [nothing]
        exact Abandoned.nothing
      · intro pool
        refine leaves_pure ⟨_, enabled, 0, [], nodup_uniqueFamilies selected,
          computing, ?_, rfl⟩
        intro family same
        obtain ⟨choice, found, rfl⟩ := Option.map_eq_some_iff.mp same
        exact encoding choice (Option.mem_toList.mpr found)

theorem leaves_openDevice {vkInstance : Nat} {physical : PhysicalDevice}
    (listed : physical ∈ platform.physicalDevices) :
    Leaves {(vkInstance, .vkInstance)}
      (openDevice platform request extensions vkInstance physical)
      VulkanContext.Owns (Abandoned platform request) := by
  rw [openDevice]
  cases chosen : physical.selectFamilies request.queues with
  | error caps =>
      obtain ⟨requested, missing⟩ :=
        PhysicalDevice.selectFamilies_eq_error chosen
      exact leaves_fail (Abandoned.family listed requested missing)
  | ok selected =>
      refine Leaves.bindEq leaves_availableExtensions ?_
      intro available
      refine Leaves.bindEq (((leaves_createObject ?_).undo ?_).mono
        (fun _ _ here => here) ?_) ?_
      · intro _
        rfl
      · exact releases_object rfl
      · intro reason left nothing
        rw [nothing]
        exact Abandoned.nothing
      · intro device
        exact leaves_openQueues (PhysicalDevice.selectFamilies_eq_ok chosen)

theorem leaves_withRequest :
    Leaves 0 (withRequest platform request extensions) VulkanContext.Owns
      (Abandoned platform request) := by
  rw [withRequest]
  split
  · exact leaves_fail Abandoned.nothing
  refine Leaves.bindEq (leaves_request _ fun _ => Abandoned.nothing) ?_
  intro _
  refine Leaves.bind (leaves_createObject fun _ => Abandoned.nothing) ?_
  intro vkInstance left here
  rw [Multiset.add_zero] at here
  rw [here]
  refine Leaves.bindEq (leaves_request _ fun _ => Abandoned.enumeration) ?_
  intro _
  split
  · rw [← Multiset.add_zero {(vkInstance, Object.vkInstance)}]
    refine (releases_object rfl).andThen ?_
    intro _
    exact leaves_fail Abandoned.nothing
  · rename_i first others listed
    refine leaves_openDevice ?_
    rw [listed]
    exact choosePhysicalDevice_mem first others

/-! ## Scopes -/

/-- A probe leaves nothing behind if it finds Vulkan available, and at most
an instance otherwise. -/
theorem leaves_isVulkanAvailable :
    Leaves 0 (isVulkanAvailable platform)
      (fun available left => left = 0 ∨ available = false ∧
        ∃ vkInstance, left = {(vkInstance, .vkInstance)})
      fun _ _ => False := by
  rw [isVulkanAvailable]
  refine Leaves.recover (Leaves.bind leaves_withRequest ?_) ?_
  · intro context left owns
    rw [← Multiset.add_zero left]
    refine owns.releases.andThen ?_
    intro _
    exact leaves_pure (Or.inl rfl)
  · intro reason left abandoned
    cases abandoned with
    | nothing => exact leaves_pure (Or.inl rfl)
    | enumeration => exact leaves_pure (Or.inr ⟨rfl, _, rfl⟩)
    | family present requested missing =>
        exact leaves_pure (Or.inr ⟨rfl, _, rfl⟩)
    | compute without =>
        refine (without ⟨_, List.mem_singleton_self _, ?_⟩).elim
        decide

/-! ## A submission -/

end Ownership

end RemoteWay.Vulkan
