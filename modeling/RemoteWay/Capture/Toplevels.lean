import Mathlib.Data.List.Induction
import RemoteWay.Base.FirstEntry
import RemoteWay.Capture.Error

/-!
# Discovery of toplevel windows

The compositor sends the properties of its windows one event at a time, for
all windows together.  Only an application identifier adds a window to the
list; a title or an identifier that comes before it is dropped.
-/

namespace RemoteWay.Capture

open RemoteWay.Base

/-! ## Events -/

structure DiscoveredToplevel (Handle : Type) where
  handle : Handle
  appId : String
  title : String
  identifier : String
  deriving DecidableEq

structure ToplevelInfo where
  appId : String
  title : String
  identifier : String
  deriving DecidableEq, Repr

def DiscoveredToplevel.info {Handle : Type}
    (toplevel : DiscoveredToplevel Handle) : ToplevelInfo where
  appId := toplevel.appId
  title := toplevel.title
  identifier := toplevel.identifier

/-- An event of `ext_foreign_toplevel_handle_v1`. -/
inductive ToplevelEvent where
  | appId (text : String)
  | title (text : String)
  | identifier (text : String)
  | closed
  | other
  deriving DecidableEq, Repr

variable {Handle : Type}

section List

variable [DecidableEq Handle]

/-- Handle an event of the compositor. -/
def toplevelEvent (toplevels : List (DiscoveredToplevel Handle))
    (proxy : Handle) : ToplevelEvent → List (DiscoveredToplevel Handle)
  | .appId text =>
      if toplevels.any (·.handle == proxy) then
        changeFirst (·.handle == proxy) ({ · with appId := text }) toplevels
      else
        toplevels ++ [⟨proxy, text, "", ""⟩]
  | .title text =>
      changeFirst (·.handle == proxy) ({ · with title := text }) toplevels
  | .identifier text =>
      changeFirst (·.handle == proxy) ({ · with identifier := text })
        toplevels
  | .closed => toplevels.filter fun toplevel => toplevel.handle != proxy
  | .other => toplevels

/-- The list after the events of all windows. -/
def toplevelsAfter (events : List (Handle × ToplevelEvent)) :
    List (DiscoveredToplevel Handle) :=
  events.foldl (fun toplevels event =>
    toplevelEvent toplevels event.1 event.2) []

/-- Enumerate all currently visible toplevels, when the events of the two
round trips are handled. -/
def enumerateToplevels (toplevelList : Bool)
    (events : List (Handle × ToplevelEvent)) :
    Except Error.CaptureError (List ToplevelInfo) :=
  if toplevelList then
    .ok ((toplevelsAfter events).map (·.info))
  else
    .error .noBackend

end List

/-! ## One window -/

namespace ToplevelEvent

def appId? : ToplevelEvent → Option String
  | appId text => some text
  | _ => none

def title? : ToplevelEvent → Option String
  | title text => some text
  | _ => none

def identifier? : ToplevelEvent → Option String
  | identifier text => some text
  | _ => none

def isProperty (event : ToplevelEvent) : Bool :=
  event.appId?.isSome || event.title?.isSome || event.identifier?.isSome

end ToplevelEvent

/-- The entries of one window. -/
def entriesOf [DecidableEq Handle] (handle : Handle)
    (toplevels : List (DiscoveredToplevel Handle)) :
    List (DiscoveredToplevel Handle) :=
  toplevels.filter (·.handle == handle)

/-- The events of one window. -/
def ownEvents [DecidableEq Handle] (handle : Handle)
    (events : List (Handle × ToplevelEvent)) : List ToplevelEvent :=
  (events.filter (·.1 == handle)).map Prod.snd

/-- What an event does to the entry of its window. -/
def ownStep (handle : Handle) (entry : Option (DiscoveredToplevel Handle)) :
    ToplevelEvent → Option (DiscoveredToplevel Handle)
  | .appId text =>
      match entry with
      | some entry => some { entry with appId := text }
      | none => some ⟨handle, text, "", ""⟩
  | .title text => entry.map ({ · with title := text })
  | .identifier text => entry.map ({ · with identifier := text })
  | .closed => none
  | .other => entry

section Entries

variable [DecidableEq Handle] {handle proxy : Handle}
variable {toplevels : List (DiscoveredToplevel Handle)}
variable {entry : Option (DiscoveredToplevel Handle)}

private theorem modifyHead_toList {α : Type} (change : α → α)
    (entry : Option α) :
    entry.toList.modifyHead change = (entry.map change).toList := by
  cases entry <;> rfl

/-- The entry of the window of an event. -/
theorem entriesOf_toplevelEvent_self (event : ToplevelEvent)
    (shown : entriesOf handle toplevels = entry.toList) :
    entriesOf handle (toplevelEvent toplevels handle event) =
      (ownStep handle entry event).toList := by
  have changed : ∀ change : DiscoveredToplevel Handle →
      DiscoveredToplevel Handle,
      (∀ toplevel, (change toplevel).handle = toplevel.handle) →
      entriesOf handle (changeFirst (·.handle == handle) change toplevels) =
        (entry.map change).toList := by
    intro change kept
    rw [← modifyHead_toList, ← shown]
    apply filter_changeFirst_self
    intro toplevel found
    rw [kept]
    exact found
  cases event with
  | appId text =>
      rw [toplevelEvent]
      by_cases present : toplevels.any (·.handle == handle) = true
      · rw [if_pos present,
          changed ({ · with appId := text }) fun _ => rfl]
        cases entry with
        | none =>
            obtain ⟨toplevel, member, same⟩ := List.any_eq_true.mp present
            have listed : toplevel ∈ entriesOf handle toplevels :=
              List.mem_filter.mpr ⟨member, same⟩
            simp [shown] at listed
        | some toplevel => rfl
      · rw [if_neg present, entriesOf, List.filter_append,
          ← entriesOf, shown]
        cases entry with
        | none => simp [ownStep]
        | some toplevel =>
            exfalso
            have listed : toplevel ∈ entriesOf handle toplevels := by
              simp [shown]
            obtain ⟨member, same⟩ := List.mem_filter.mp listed
            exact present (List.any_eq_true.mpr ⟨toplevel, member, same⟩)
  | title text => exact changed _ fun _ => rfl
  | identifier text => exact changed _ fun _ => rfl
  | closed =>
      simp [toplevelEvent, entriesOf, ownStep, List.filter_filter]
  | other => exact shown

/-- The entries of the other windows. -/
theorem entriesOf_toplevelEvent_other (event : ToplevelEvent)
    (different : proxy ≠ handle) :
    entriesOf handle (toplevelEvent toplevels proxy event) =
      entriesOf handle toplevels := by
  have changed : ∀ change : DiscoveredToplevel Handle →
      DiscoveredToplevel Handle,
      (∀ toplevel, (change toplevel).handle = toplevel.handle) →
      entriesOf handle (changeFirst (·.handle == proxy) change toplevels) =
        entriesOf handle toplevels := by
    intro change kept
    apply filter_changeFirst_other
    intro toplevel found
    rw [beq_iff_eq] at found
    rw [kept, found, beq_eq_false_iff_ne.mpr different]
    exact ⟨rfl, rfl⟩
  cases event with
  | appId text =>
      rw [toplevelEvent]
      by_cases present : toplevels.any (·.handle == proxy) = true
      · rw [if_pos present,
          changed ({ · with appId := text }) fun _ => rfl]
      · rw [if_neg present, entriesOf, List.filter_append]
        simp [entriesOf, different]
  | title text => exact changed _ fun _ => rfl
  | identifier text => exact changed _ fun _ => rfl
  | closed =>
      rw [toplevelEvent, entriesOf, entriesOf, List.filter_filter]
      apply List.filter_congr
      intro toplevel _
      by_cases same : toplevel.handle = handle
      · simp [same, Ne.symm different]
      · simp [same]
  | other => rfl

/-- The entries of a window depend on its own events only. -/
theorem entriesOf_toplevelsAfter (handle : Handle)
    (events : List (Handle × ToplevelEvent)) :
    entriesOf handle (toplevelsAfter events) =
      ((ownEvents handle events).foldl (ownStep handle) none).toList := by
  induction events using List.reverseRecOn with
  | nil => rfl
  | append_singleton events event ih =>
      rw [toplevelsAfter, List.foldl_append, ← toplevelsAfter]
      by_cases own : event.1 = handle
      · subst own
        rw [List.foldl_cons, List.foldl_nil,
          entriesOf_toplevelEvent_self event.2 ih]
        simp [ownEvents]
      · rw [List.foldl_cons, List.foldl_nil,
          entriesOf_toplevelEvent_other event.2 own, ih]
        simp [ownEvents, own]

end Entries

/-! ## Properties in any order -/

/-- The last text of a kind, which is empty when there is none. -/
def lastText (kind : ToplevelEvent → Option String)
    (own : List ToplevelEvent) : String :=
  (own.filterMap kind).getLast?.getD ""

/-- One entry with the last texts, if the window sent a property and is not
closed. -/
def expectedEntries (handle : Handle) (own : List ToplevelEvent) :
    List (DiscoveredToplevel Handle) :=
  if own.any (·.isProperty) ∧ .closed ∉ own then
    [⟨handle, lastText (·.appId?) own, lastText (·.title?) own,
      lastText (·.identifier?) own⟩]
  else
    []

/-- The list has one entry with the last texts for each window that sent a
property and is not closed, and no other entries. -/
def ListsToplevels [DecidableEq Handle]
    (events : List (Handle × ToplevelEvent)) : Prop :=
  ∀ handle, entriesOf handle (toplevelsAfter events) =
    expectedEntries handle (ownEvents handle events)

/-- The last text before the first application identifier is empty or
followed by a later one. -/
def NotLost (kind : ToplevelEvent → Option String)
    (before after : List ToplevelEvent) : Prop :=
  after.filterMap kind = [] → lastText kind before = ""

/-- An application identifier was sent, and no text was lost before it. -/
def AppIdInTime (own : List ToplevelEvent) : Prop :=
  ∃ before text after, own = before ++ .appId text :: after ∧
    (∀ event, event ∈ before → event.appId? = none) ∧
    NotLost (·.title?) before after ∧ NotLost (·.identifier?) before after

section OneWindow

variable {handle : Handle} {own before after : List ToplevelEvent}

/-- Nothing is listed before the first application identifier. -/
theorem foldl_ownStep_none
    (early : ∀ event, event ∈ own → event.appId? = none) :
    own.foldl (ownStep handle) none = none := by
  induction own with
  | nil => rfl
  | cons event own ih =>
      have first := early event List.mem_cons_self
      have rest := ih fun later member =>
        early later (List.mem_cons_of_mem event member)
      rw [List.foldl_cons]
      cases event with
      | appId text => cases first
      | title text => exact rest
      | identifier text => exact rest
      | closed => exact rest
      | other => exact rest

/-- An entry has the last texts that were sent. -/
theorem foldl_ownStep_some (entry : DiscoveredToplevel Handle)
    (isOpen : .closed ∉ own) :
    own.foldl (ownStep handle) (some entry) =
      some { entry with
        appId := (own.filterMap (·.appId?)).getLast?.getD entry.appId
        title := (own.filterMap (·.title?)).getLast?.getD entry.title
        identifier :=
          (own.filterMap (·.identifier?)).getLast?.getD
            entry.identifier } := by
  induction own generalizing entry with
  | nil => rfl
  | cons event own ih =>
      have notClosed : event ≠ .closed := fun same =>
        isOpen (same ▸ List.mem_cons_self)
      have stillOpen : .closed ∉ own := fun member =>
        isOpen (List.mem_cons_of_mem event member)
      rw [List.foldl_cons]
      cases event with
      | closed => exact absurd rfl notClosed
      | appId text =>
          rw [ownStep, ih _ stillOpen]
          simp [ToplevelEvent.appId?, ToplevelEvent.title?,
            ToplevelEvent.identifier?, List.getLast?_cons]
      | title text =>
          rw [ownStep, Option.map_some, ih _ stillOpen]
          simp [ToplevelEvent.appId?, ToplevelEvent.title?,
            ToplevelEvent.identifier?, List.getLast?_cons]
      | identifier text =>
          rw [ownStep, Option.map_some, ih _ stillOpen]
          simp [ToplevelEvent.appId?, ToplevelEvent.title?,
            ToplevelEvent.identifier?, List.getLast?_cons]
      | other =>
          rw [ownStep, ih _ stillOpen]
          simp [ToplevelEvent.appId?, ToplevelEvent.title?,
            ToplevelEvent.identifier?]

/-- A window that is closed last has no entry. -/
theorem foldl_ownStep_closed (closed : .closed ∈ own)
    (last : .closed ∉ own.dropLast) :
    own.foldl (ownStep handle) none = none := by
  obtain rfl | ⟨before, event, rfl⟩ := own.eq_nil_or_concat'
  · cases closed
  · rw [List.dropLast_concat] at last
    obtain rfl : .closed = event := by simpa [last] using closed
    rw [List.foldl_append, List.foldl_cons, List.foldl_nil, ownStep]

/-- The first application identifier divides the events. -/
theorem exists_first_appId (sent : ∃ event, event ∈ own ∧
      event.appId?.isSome = true) :
    ∃ before text after, own = before ++ .appId text :: after ∧
      ∀ event, event ∈ before → event.appId? = none := by
  induction own with
  | nil =>
      obtain ⟨event, member, _⟩ := sent
      cases member
  | cons event own ih =>
      cases first : event.appId? with
      | some text =>
          refine ⟨[], text, own, ?_, by simp⟩
          cases event <;> simp_all [ToplevelEvent.appId?]
      | none =>
          obtain ⟨later, member, some_⟩ := sent
          obtain ⟨before, text, after, rfl, early⟩ := ih (by
            rcases List.mem_cons.mp member with rfl | rest
            · simp [first] at some_
            · exact ⟨later, rest, some_⟩)
          refine ⟨event :: before, text, after, rfl, ?_⟩
          intro earlier earlierMember
          rcases List.mem_cons.mp earlierMember with rfl | rest
          · exact first
          · exact early earlier rest

/-- A text is kept exactly when it was not lost. -/
theorem lastText_eq_iff {kind : ToplevelEvent → Option String}
    {text : String} (apart : kind (.appId text) = none) :
    (after.filterMap kind).getLast?.getD "" =
        lastText kind (before ++ .appId text :: after) ↔
      NotLost kind before after := by
  rw [NotLost, lastText, lastText, List.filterMap_append,
    List.filterMap_cons_none apart, List.getLast?_append]
  cases texts : after.filterMap kind with
  | nil =>
      rw [List.getLast?_nil, Option.none_or, Option.getD_none]
      exact ⟨fun lost _ => lost.symm, fun kept => (kept rfl).symm⟩
  | cons first rest => simp [List.getLast?_cons]

/-- The entry of a window that sent a property and is not closed. -/
theorem foldl_ownStep_eq_iff (property : own.any (·.isProperty) = true)
    (isOpen : .closed ∉ own) :
    (own.foldl (ownStep handle) none).toList = expectedEntries handle own ↔
      AppIdInTime own := by
  rw [expectedEntries, if_pos ⟨property, isOpen⟩]
  by_cases sent : ∃ event, event ∈ own ∧ event.appId?.isSome = true
  · obtain ⟨before, text, after, rfl, early⟩ := exists_first_appId sent
    have afterOpen : .closed ∉ after := fun member =>
      isOpen (List.mem_append_right _ (List.mem_cons_of_mem _ member))
    have noneBefore : before.filterMap (·.appId?) = [] :=
      List.filterMap_eq_nil_iff.mpr early
    have appIds : lastText (·.appId?) (before ++ .appId text :: after) =
        (after.filterMap (·.appId?)).getLast?.getD text := by
      rw [lastText, List.filterMap_append, noneBefore, List.nil_append]
      simp [ToplevelEvent.appId?, List.getLast?_cons]
    have titles := @lastText_eq_iff before after (·.title?) text rfl
    have identifiers :=
      @lastText_eq_iff before after (·.identifier?) text rfl
    rw [List.foldl_append, foldl_ownStep_none early, List.foldl_cons,
      ownStep, foldl_ownStep_some _ afterOpen, appIds]
    simp only [Option.toList_some, List.cons.injEq, and_true,
      DiscoveredToplevel.mk.injEq, true_and]
    rw [titles, identifiers]
    constructor
    · rintro ⟨title, identifier⟩
      exact ⟨before, text, after, rfl, early, title, identifier⟩
    · rintro ⟨otherBefore, otherText, otherAfter, same, otherEarly, title,
        identifier⟩
      obtain ⟨rfl, _, rfl⟩ := @eq_of_split_at_first _ (·.appId?.isSome)
        _ _ _ _ _ _ (fun event member => by simp [early event member])
        (fun event member => by simp [otherEarly event member]) rfl rfl same
      exact ⟨title, identifier⟩
  · have early : ∀ event, event ∈ own → event.appId? = none := by
      intro event member
      by_contra some_
      exact sent ⟨event, member, Option.isSome_iff_ne_none.mpr some_⟩
    rw [foldl_ownStep_none early]
    refine iff_of_false (by simp) ?_
    rintro ⟨before, text, after, rfl, _⟩
    simpa [ToplevelEvent.appId?] using early (.appId text) (by simp)

end OneWindow

/-! ## All windows -/

/-- A window sends nothing after it is closed. -/
def ClosedLast [DecidableEq Handle]
    (events : List (Handle × ToplevelEvent)) : Prop :=
  ∀ handle, .closed ∉ (ownEvents handle events).dropLast

/-- The list does not depend on the order of the events exactly when each
open window sends an application identifier in time. -/
theorem listsToplevels_iff [DecidableEq Handle]
    (events : List (Handle × ToplevelEvent))
    (closedLast : ClosedLast events) :
    ListsToplevels events ↔
      ∀ handle, (ownEvents handle events).any (·.isProperty) = true →
        .closed ∉ ownEvents handle events →
        AppIdInTime (ownEvents handle events) := by
  constructor
  · intro lists handle property isOpen
    rw [← foldl_ownStep_eq_iff property isOpen,
      ← entriesOf_toplevelsAfter]
    exact lists handle
  · intro inTime handle
    rw [entriesOf_toplevelsAfter]
    by_cases closed : .closed ∈ ownEvents handle events
    · rw [foldl_ownStep_closed closed (closedLast handle), expectedEntries,
        if_neg fun expected => expected.2 closed]
      rfl
    · by_cases property :
          (ownEvents handle events).any (·.isProperty) = true
      · exact (foldl_ownStep_eq_iff property closed).mpr
          (inTime handle property closed)
      · rw [foldl_ownStep_none, expectedEntries,
          if_neg fun expected => property expected.1]
        · rfl
        · intro event member
          by_contra sent
          apply property
          rw [List.any_eq_true]
          refine ⟨event, member, ?_⟩
          simp [ToplevelEvent.isProperty, Option.isSome_iff_ne_none.mpr sent]

/-- Two windows whose events alternate; one of them is closed. -/
def interleavedEvents : List (Bool × ToplevelEvent) :=
  [(false, .appId "org.mozilla.firefox"), (true, .title "Terminal"),
    (false, .identifier "1"), (true, .closed), (false, .title "New Tab")]

theorem listsToplevels_iff_interleaved :
    ClosedLast interleavedEvents ∧ ListsToplevels interleavedEvents := by
  have closedLast : ClosedLast interleavedEvents := by
    intro handle
    cases handle <;> decide
  refine ⟨closedLast, (listsToplevels_iff _ closedLast).mpr ?_⟩
  intro handle _ isOpen
  cases handle with
  | false =>
      exact ⟨[], "org.mozilla.firefox",
        [.identifier "1", .title "New Tab"], rfl, by simp,
        fun _ => rfl, fun _ => rfl⟩
  | true => exact absurd (by decide) isOpen

/-- A title that comes before the application identifier is lost. -/
theorem not_listsToplevels_titleFirst :
    ¬ ListsToplevels
      [((), .title "New Tab"), ((), .appId "org.mozilla.firefox")] := by
  intro lists
  exact absurd (lists ()) (by decide)

end RemoteWay.Capture
