import Mathlib.Data.List.ModifyLast
import RemoteWay.Base.FirstEntry
import RemoteWay.Base.Histories
import RemoteWay.Capture.Shm

/-!
# Enumeration of outputs

The events of `wl_output` find the record of their output by its global
name; those of `xdg_output` change the record of the output that was
announced last, whichever output they come from.
-/

namespace RemoteWay.Capture.Output

open RemoteWay.Base

/-! ## Records -/

/-- Information about a connected display output. -/
structure OutputInfo where
  name : String
  description : String
  x : Int32
  y : Int32
  width : Int32
  height : Int32
  refreshMhz : Int32
  scale : Int32
  globalName : UInt32
  deriving DecidableEq, Repr

def OutputInfo.new (globalName : UInt32) : OutputInfo where
  name := ""
  description := ""
  x := 0
  y := 0
  width := 0
  height := 0
  refreshMhz := 0
  scale := 1
  globalName := globalName

/-! ## Events -/

/-- An event of `wl_output`. -/
inductive WlOutputEvent where
  | geometry (x y : Int32)
  | mode (flags : WEnum) (width height refresh : Int32)
  | scale (factor : Int32)
  | name (name : String)
  | description (description : String)
  | other
  deriving DecidableEq, Repr

/-- An event of `zxdg_output_v1`. -/
inductive XdgOutputEvent where
  | name (name : String)
  | description (description : String)
  | logicalPosition (x y : Int32)
  | logicalSize (width height : Int32)
  | other
  deriving DecidableEq, Repr

/-- An event of the registry or of an object of an output, which is given
by the global name of the output. -/
inductive OutputEvent where
  | global (name : UInt32) (interface : String)
  | wlOutput (output : UInt32) (event : WlOutputEvent)
  | xdgOutput (output : UInt32) (event : XdgOutputEvent)
  deriving DecidableEq, Repr

/-- The flag of the current mode is set. -/
def isCurrent : WEnum → Bool
  | .value flags => flags &&& 1 = 1
  | .unknown _ => false

/-- What an event of `wl_output` does to a record. -/
def WlOutputEvent.apply (info : OutputInfo) : WlOutputEvent → OutputInfo
  | .geometry x y => { info with x := x, y := y }
  | .mode flags width height refresh =>
      if isCurrent flags then
        { info with width := width, height := height, refreshMhz := refresh }
      else
        info
  | .scale factor => { info with scale := factor }
  | .name text => { info with name := text }
  | .description text => { info with description := text }
  | .other => info

/-- What an event of `zxdg_output_v1` does to a record. -/
def XdgOutputEvent.apply (info : OutputInfo) : XdgOutputEvent → OutputInfo
  | .name text => { info with name := text }
  | .description text => { info with description := text }
  | .logicalPosition x y => { info with x := x, y := y }
  | .logicalSize width height =>
      { info with width := width, height := height }
  | .other => info

/-! ## The handlers -/

/-- The records, whether there is a manager of `xdg_output`s, and the outputs
that one is requested for, with the indices of their records. -/
structure OutputState where
  outputs : List OutputInfo
  xdgOutputManager : Bool
  pendingXdgOutputs : List (Nat × UInt32)
  deriving DecidableEq, Repr

def outputEvent (state : OutputState) : OutputEvent → OutputState
  | .global name interface =>
      if interface = "wl_output" then
        { state with
          outputs := state.outputs ++ [.new name]
          pendingXdgOutputs :=
            state.pendingXdgOutputs ++ [(state.outputs.length, name)] }
      else if interface = "zxdg_output_manager_v1" then
        { state with xdgOutputManager := true }
      else
        state
  | .wlOutput output event =>
      { state with
        outputs := changeFirst (·.globalName == output) (event.apply ·)
          state.outputs }
  | .xdgOutput _ event =>
      { state with outputs := state.outputs.modifyLast (event.apply ·) }

def stateAfter (events : List OutputEvent) : OutputState :=
  events.foldl outputEvent ⟨[], false, []⟩

/-- The events that are handled in the round trips; without a manager there
is no second one. -/
def handled (first second : List OutputEvent) : List OutputEvent :=
  if (stateAfter first).xdgOutputManager then first ++ second else first

/-- Enumerate the outputs, when the round trips succeed. -/
def enumerate (first second : List OutputEvent) : List OutputInfo :=
  (stateAfter (handled first second)).outputs

/-! ## What the outputs send -/

namespace OutputEvent

def output? : OutputEvent → Option UInt32
  | global _ _ => none
  | wlOutput output _ => some output
  | xdgOutput output _ => some output

def announces? : OutputEvent → Option UInt32
  | global name interface => if interface = "wl_output" then some name else none
  | _ => none

def name? : OutputEvent → Option String
  | wlOutput _ (.name text) => some text
  | xdgOutput _ (.name text) => some text
  | _ => none

def description? : OutputEvent → Option String
  | wlOutput _ (.description text) => some text
  | xdgOutput _ (.description text) => some text
  | _ => none

def position? : OutputEvent → Option (Int32 × Int32)
  | wlOutput _ (.geometry x y) => some (x, y)
  | xdgOutput _ (.logicalPosition x y) => some (x, y)
  | _ => none

/-- The size of the current mode or the logical size. -/
def size? : OutputEvent → Option (Int32 × Int32)
  | wlOutput _ (.mode flags width height _) =>
      if isCurrent flags then some (width, height) else none
  | xdgOutput _ (.logicalSize width height) => some (width, height)
  | _ => none

end OutputEvent

/-- The outputs, in the order in which they are announced. -/
def announced (events : List OutputEvent) : List UInt32 :=
  events.filterMap (·.announces?)

/-- The events of the objects of an output. -/
def sentBy (output : UInt32) (events : List OutputEvent) : List OutputEvent :=
  events.filter (·.output? = some output)

/-- The list has one record for each output, with the name, the description,
the position and the size that were last sent for it. -/
structure Attributed (events : List OutputEvent) (outputs : List OutputInfo) :
    Prop where
  one : outputs.map (·.globalName) = announced events
  name : ∀ info ∈ outputs,
    info.name = lastOf (·.name?) "" (sentBy info.globalName events)
  description : ∀ info ∈ outputs, info.description =
    lastOf (·.description?) "" (sentBy info.globalName events)
  position : ∀ info ∈ outputs, (info.x, info.y) =
    lastOf (·.position?) (0, 0) (sentBy info.globalName events)
  size : ∀ info ∈ outputs, (info.width, info.height) =
    lastOf (·.size?) (0, 0) (sentBy info.globalName events)

/-! ## What reaches the records -/

/-- The output whose record an event changes, after the outputs have been
announced. -/
def recipient (outputs : List UInt32) : OutputEvent → Option UInt32
  | .global _ _ => none
  | .wlOutput output _ => if output ∈ outputs then some output else none
  | .xdgOutput _ _ => outputs.getLast?

/-- The events that change the record of an output: its own ones of
`wl_output` after its announcement, and all of `xdg_output` while it is the
output announced last. -/
def reaching (output : UInt32) : List UInt32 → List OutputEvent →
    List OutputEvent
  | _, [] => []
  | outputs, event :: events =>
      let rest := reaching output (outputs ++ event.announces?.toList) events
      if recipient outputs event = some output then event :: rest else rest

@[simp]
theorem announced_concat (events : List OutputEvent) (event : OutputEvent) :
    announced (events ++ [event]) =
      announced events ++ event.announces?.toList := by
  cases name : event.announces? <;> simp [announced, name]

theorem reaching_concat (output : UInt32) (events : List OutputEvent)
    (event : OutputEvent) :
    ∀ outputs, reaching output outputs (events ++ [event]) =
      reaching output outputs events ++
        if recipient (outputs ++ announced events) event = some output then
          [event]
        else [] := by
  induction events with
  | nil =>
      intro outputs
      simp [reaching, announced]
  | cons first events inductionHypothesis =>
      intro outputs
      have joined : announced (first :: events) =
          first.announces?.toList ++ announced events := by
        cases name : first.announces? <;> simp [announced, name]
      rw [List.cons_append, reaching, reaching, inductionHypothesis, joined,
        List.append_assoc]
      by_cases here : recipient outputs first = some output
      · simp only [if_pos here, List.cons_append]
      · simp only [if_neg here]

/-- What an event changes of the record that it reaches. -/
def OutputEvent.apply (info : OutputInfo) : OutputEvent → OutputInfo
  | .global _ _ => info
  | .wlOutput _ event => event.apply info
  | .xdgOutput _ event => event.apply info

/-- The record of an output after the events that reach it. -/
def record (events : List OutputEvent) (output : UInt32) : OutputInfo :=
  (reaching output [] events).foldl (fun info event => event.apply info)
    (.new output)

theorem mem_of_recipient_eq {outputs : List UInt32} {event : OutputEvent}
    {output : UInt32} (reached : recipient outputs event = some output) :
    output ∈ outputs := by
  cases event with
  | global name interface => cases reached
  | wlOutput sender event =>
      rw [recipient] at reached
      by_cases known : sender ∈ outputs
      · rw [if_pos known] at reached
        injection reached with same
        exact same ▸ known
      · rw [if_neg known] at reached
        cases reached
  | xdgOutput sender event => exact List.mem_of_getLast? reached

theorem record_concat (events : List OutputEvent) (event : OutputEvent)
    (output : UInt32) :
    record (events ++ [event]) output =
      if recipient (announced events) event = some output then
        event.apply (record events output)
      else
        record events output := by
  rw [record, reaching_concat, List.nil_append]
  by_cases reached : recipient (announced events) event = some output
  · rw [if_pos reached, if_pos reached, List.foldl_append]
    rfl
  · rw [if_neg reached, if_neg reached, List.append_nil]
    rfl

/-- Nothing reaches an output that is not announced. -/
theorem record_of_notMem {events : List OutputEvent} {output : UInt32}
    (unknown : output ∉ announced events) :
    record events output = .new output := by
  induction events using List.reverseRecOn with
  | nil => rfl
  | append_singleton events event inductionHypothesis =>
      rw [announced_concat, List.mem_append, not_or] at unknown
      rw [record_concat, if_neg, inductionHypothesis unknown.1]
      intro reached
      exact unknown.1 (mem_of_recipient_eq reached)

/-- An event sets what it sends, perhaps the refresh rate and the scale, and
nothing else. -/
theorem apply_eq (info : OutputInfo) (event : OutputEvent) :
    ∃ refreshMhz scale, event.apply info =
      { name := event.name?.getD info.name
        description := event.description?.getD info.description
        x := (event.position?.getD (info.x, info.y)).1
        y := (event.position?.getD (info.x, info.y)).2
        width := (event.size?.getD (info.width, info.height)).1
        height := (event.size?.getD (info.width, info.height)).2
        refreshMhz := refreshMhz
        scale := scale
        globalName := info.globalName } := by
  cases event with
  | global name interface => exact ⟨_, _, rfl⟩
  | wlOutput sender event =>
      cases event with
      | mode flags width height refresh =>
          rw [OutputEvent.apply, WlOutputEvent.apply, OutputEvent.size?]
          by_cases current : isCurrent flags = true
          · rw [if_pos current, if_pos current]
            exact ⟨_, _, rfl⟩
          · rw [if_neg current, if_neg current]
            exact ⟨_, _, rfl⟩
      | _ => exact ⟨_, _, rfl⟩
  | xdgOutput sender event => cases event <;> exact ⟨_, _, rfl⟩

@[simp]
theorem globalName_record (events : List OutputEvent) (output : UInt32) :
    (record events output).globalName = output := by
  induction events using List.reverseRecOn with
  | nil => rfl
  | append_singleton events event inductionHypothesis =>
      rw [record_concat]
      by_cases reached : recipient (announced events) event = some output
      · obtain ⟨_, _, same⟩ := apply_eq (record events output) event
        rw [if_pos reached, same, inductionHypothesis]
      · rw [if_neg reached, inductionHypothesis]

/-- Changing the first record of an output, when each has one. -/
theorem changeFirst_map {view : UInt32 → OutputInfo}
    {change : OutputInfo → OutputInfo} {output : UInt32}
    (keys : ∀ other, (view other).globalName = other)
    {outputs : List UInt32} (distinct : outputs.Nodup) :
    changeFirst (·.globalName == output) change (outputs.map view) =
      outputs.map fun other =>
        if other = output then change (view other) else view other := by
  induction outputs with
  | nil => rfl
  | cons first outputs inductionHypothesis =>
      obtain ⟨absent, rest⟩ := List.nodup_cons.mp distinct
      rw [List.map_cons, List.map_cons, changeFirst_cons, keys]
      by_cases here : first = output
      · subst here
        rw [beq_self_eq_true, if_pos rfl, if_pos rfl]
        congr 1
        apply List.map_congr_left
        rintro other member
        rw [if_neg]
        rintro rfl
        exact absent member
      · rw [beq_eq_false_iff_ne.mpr here, if_neg Bool.false_ne_true,
          if_neg here, inductionHypothesis rest]

/-- Changing the record of the last output, when each has one. -/
theorem modifyLast_map {view : UInt32 → OutputInfo}
    {change : OutputInfo → OutputInfo} {outputs : List UInt32}
    (distinct : outputs.Nodup) :
    (outputs.map view).modifyLast change =
      outputs.map fun other =>
        if outputs.getLast? = some other then change (view other)
        else view other := by
  induction outputs using List.reverseRecOn with
  | nil => rfl
  | append_singleton front last _ =>
      rw [List.map_append, List.map_singleton, List.modifyLast_concat,
        List.map_append, List.map_singleton, List.getLast?_concat,
        if_pos rfl]
      congr 1
      apply List.map_congr_left
      intro other member
      rw [if_neg]
      intro same
      injection same with same
      exact (List.nodup_append.mp distinct).2.2 other member last
        List.mem_cons_self same.symm

/-- The records of outputs that are announced once each. -/
theorem outputs_stateAfter {events : List OutputEvent}
    (distinct : (announced events).Nodup) :
    (stateAfter events).outputs = (announced events).map (record events) := by
  induction events using List.reverseRecOn with
  | nil => rfl
  | append_singleton events event inductionHypothesis =>
      rw [announced_concat] at distinct
      have earlier := inductionHypothesis (List.nodup_append.mp distinct).1
      have after : stateAfter (events ++ [event]) =
          outputEvent (stateAfter events) event := by
        simp [stateAfter]
      rw [after, announced_concat, List.map_append]
      cases event with
      | global name interface =>
          have kept : ∀ output, record
              (events ++ [.global name interface]) output =
              record events output := by
            intro output
            rw [record_concat]
            rfl
          rw [List.map_congr_left fun output _ => kept output, ← earlier]
          by_cases isOutput : interface = "wl_output"
          · have absent : name ∉ announced events := by
              intro member
              exact (List.nodup_append.mp distinct).2.2 name member name
                (by simp [OutputEvent.announces?, isOutput]) rfl
            have new := (kept name).trans (record_of_notMem absent)
            simp only [isOutput] at new
            simp [outputEvent, OutputEvent.announces?, isOutput, new]
          · by_cases isManager : interface = "zxdg_output_manager_v1"
            · simp [outputEvent, OutputEvent.announces?, isManager]
            · simp [outputEvent, OutputEvent.announces?, isOutput, isManager]
      | wlOutput output event =>
          change changeFirst _ _ (stateAfter events).outputs = _ ++ []
          rw [earlier, List.append_nil, changeFirst_map (globalName_record _)
            (List.nodup_append.mp distinct).1]
          apply List.map_congr_left
          intro other member
          rw [record_concat, recipient]
          by_cases own : other = output
          · subst own
            rw [if_pos rfl, if_pos member, if_pos rfl]
            rfl
          · rw [if_neg own, if_neg]
            intro reached
            by_cases known : output ∈ announced events
            · rw [if_pos known] at reached
              injection reached with same
              exact own same.symm
            · rw [if_neg known] at reached
              cases reached
      | xdgOutput output event =>
          change (stateAfter events).outputs.modifyLast _ = _ ++ []
          rw [earlier, List.append_nil,
            modifyLast_map (List.nodup_append.mp distinct).1]
          apply List.map_congr_left
          intro other _
          rw [record_concat]
          rfl

/-! ## Right records -/

section Fields

variable (events : List OutputEvent) (output : UInt32)

theorem name_record : (record events output).name =
    lastOf (·.name?) "" (reaching output [] events) := by
  apply @foldl_eq_lastOf _ _ _ _ _ (fun info : OutputInfo => info.name)
  intro info event
  obtain ⟨_, _, same⟩ := apply_eq info event
  rw [same]

theorem description_record : (record events output).description =
    lastOf (·.description?) "" (reaching output [] events) := by
  apply @foldl_eq_lastOf _ _ _ _ _
    (fun info : OutputInfo => info.description)
  intro info event
  obtain ⟨_, _, same⟩ := apply_eq info event
  rw [same]

theorem position_record :
    ((record events output).x, (record events output).y) =
      lastOf (·.position?) (0, 0) (reaching output [] events) := by
  apply @foldl_eq_lastOf _ _ _ _ _
    (fun info : OutputInfo => (info.x, info.y))
  intro info event
  obtain ⟨_, _, same⟩ := apply_eq info event
  rw [same]

theorem size_record :
    ((record events output).width, (record events output).height) =
      lastOf (·.size?) (0, 0) (reaching output [] events) := by
  apply @foldl_eq_lastOf _ _ _ _ _
    (fun info : OutputInfo => (info.width, info.height))
  intro info event
  obtain ⟨_, _, same⟩ := apply_eq info event
  rw [same]

end Fields

/-- The last value of the kind that reaches a record is the last one that
was sent for its output. -/
def SameLast {Value : Type} (kind : OutputEvent → Option Value)
    (default : Value) (events : List OutputEvent) : Prop :=
  ∀ output ∈ announced events,
    lastOf kind default (reaching output [] events) =
      lastOf kind default (sentBy output events)

instance {Value : Type} [DecidableEq Value]
    (kind : OutputEvent → Option Value) (default : Value)
    (events : List OutputEvent) : Decidable (SameLast kind default events) :=
  List.decidableBAll _ (announced events)

/-- The records show the values that were last sent exactly when these are
the last that reach them. -/
theorem forall_record_iff {Value : Type} {kind : OutputEvent → Option Value}
    {default : Value} {view : OutputInfo → Value} {events : List OutputEvent}
    (shows : ∀ output, view (record events output) =
      lastOf kind default (reaching output [] events)) :
    (∀ info ∈ (announced events).map (record events), view info =
        lastOf kind default (sentBy info.globalName events)) ↔
      SameLast kind default events := by
  constructor
  · intro right output member
    have here := right _ (List.mem_map_of_mem member)
    rw [shows, globalName_record] at here
    exact here
  · intro same info member
    obtain ⟨output, known, rfl⟩ := List.mem_map.mp member
    rw [shows, globalName_record, same output known]

/-- The records are right exactly when no foreign value reaches them last
and no own value misses them. -/
theorem attributed_iff {first second : List OutputEvent}
    (distinct : (announced (handled first second)).Nodup) :
    Attributed (handled first second) (enumerate first second) ↔
      SameLast (·.name?) "" (handled first second) ∧
        SameLast (·.description?) "" (handled first second) ∧
        SameLast (·.position?) (0, 0) (handled first second) ∧
        SameLast (·.size?) (0, 0) (handled first second) := by
  rw [enumerate]
  generalize handled first second = events at *
  rw [outputs_stateAfter distinct]
  have name := forall_record_iff (name_record events)
  have description := forall_record_iff (description_record events)
  have position := @forall_record_iff _ _ _
    (fun info => (info.x, info.y)) _ (position_record events)
  have size := @forall_record_iff _ _ _
    (fun info => (info.width, info.height)) _ (size_record events)
  rw [← name, ← description, ← position, ← size]
  constructor
  · intro right
    exact ⟨right.name, right.description, right.position, right.size⟩
  · rintro ⟨name, description, position, size⟩
    exact {
      one := by simp [Function.comp_def]
      name := name
      description := description
      position := position
      size := size }

/-- The first round trip announces two outputs and the manager. -/
def twoGlobals : List OutputEvent :=
  [.global 1 "wl_output", .global 2 "wl_output",
    .global 3 "zxdg_output_manager_v1"]

/-- Both outputs have the same logical size and send no other properties. -/
def sameSizes : List OutputEvent :=
  [.wlOutput 2 (.mode (.value 1) 1920 1080 60000),
    .wlOutput 1 (.mode (.value 1) 1920 1080 60000),
    .xdgOutput 1 (.logicalSize 1920 1080),
    .xdgOutput 2 (.logicalSize 1920 1080)]

theorem attributed_sameSizes :
    Attributed (handled twoGlobals sameSizes)
      (enumerate twoGlobals sameSizes) :=
  (attributed_iff (by decide +kernel)).mpr
    ⟨by decide +kernel, by decide +kernel, by decide +kernel,
      by decide +kernel⟩

/-- Both outputs send their names by `xdg_output`. -/
def twoNames : List OutputEvent :=
  [.wlOutput 1 (.mode (.value 1) 1920 1080 60000),
    .wlOutput 2 (.mode (.value 1) 1920 1080 60000),
    .xdgOutput 1 (.name "eDP-1"), .xdgOutput 2 (.name "HDMI-A-1")]

/-- The name of the first output goes to the second. -/
theorem not_attributed_twoNames :
    ¬Attributed (handled twoGlobals twoNames)
      (enumerate twoGlobals twoNames) := by
  intro right
  have first := right.name
  revert first
  decide +kernel

end RemoteWay.Capture.Output
