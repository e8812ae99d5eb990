import Mathlib.Data.List.DropRight
import RemoteWay.Base.Histories
import RemoteWay.Base.LittleEndian
import RemoteWay.Base.OneEach
import RemoteWay.Base.Pieces

/-!
# Tracking of toplevel windows

The events of all windows go to one pending entry, which starts at a title
and is listed at the next `Done`, whichever window sends it.  So a window is
listed with its own properties only if its events up to its first `Done` are
not mixed with those of other windows, and nothing takes it off the list
again.
-/

namespace RemoteWay.Capture.Toplevel

open RemoteWay.Base

/-! ## The handlers -/

/-- Information about a toplevel window. -/
structure ToplevelInfo where
  title : String
  appId : String
  activated : Bool
  minimized : Bool
  deriving DecidableEq, Repr

def ToplevelInfo.empty : ToplevelInfo := ⟨"", "", false, false⟩

/-- An event of `zwlr_foreign_toplevel_handle_v1`. -/
inductive ToplevelEvent where
  | title (title : String)
  | appId (appId : String)
  | state (bytes : List UInt8)
  | done
  | closed
  | other
  deriving DecidableEq, Repr

/-- An event of a window or the end of the manager. -/
inductive TrackerEvent (Handle : Type) where
  | toplevel (proxy : Handle) (event : ToplevelEvent)
  | finished
  deriving DecidableEq, Repr

structure ToplevelState where
  toplevels : List ToplevelInfo
  current : Option ToplevelInfo
  deriving DecidableEq, Repr

/-- The values of a state, packed in four bytes each; a rest is ignored. -/
def stateValues (bytes : List UInt8) : List UInt32 :=
  (pieces 4 (bytes.length / 4) bytes).map u32OfBytes

/-- One value of a state. -/
def ToplevelInfo.applyValue (info : ToplevelInfo) (value : UInt32) :
    ToplevelInfo :=
  if value = 0 then { info with activated := true }
  else if value = 1 then { info with minimized := true }
  else info

/-- List the pending entry, if there is one. -/
def ToplevelState.finalize (state : ToplevelState) : ToplevelState :=
  ⟨state.toplevels ++ state.current.toList, none⟩

/-- Handle an event of a window; its handle is not looked at. -/
def handleEvent (state : ToplevelState) : ToplevelEvent → ToplevelState
  | .title title =>
      let current := state.current.getD .empty
      { state with current := some { current with title := title } }
  | .appId appId =>
      { state with
        current := state.current.map ({ · with appId := appId }) }
  | .state bytes =>
      { state with
        current := state.current.map fun info =>
          (stateValues bytes).foldl ToplevelInfo.applyValue info }
  | .done => state.finalize
  | .closed => { state with current := none }
  | .other => state

variable {Handle : Type}

def trackerEvent (state : ToplevelState) : TrackerEvent Handle → ToplevelState
  | .toplevel _ event => handleEvent state event
  | .finished => state.finalize

/-- The state after the events of all windows. -/
def stateAfter (events : List (TrackerEvent Handle)) : ToplevelState :=
  events.foldl trackerEvent ⟨[], none⟩

/-- Enumerate the current toplevels, when the events of both round trips are
handled; without a manager there is no second one. -/
def enumerate (manager : Bool) (events : List (TrackerEvent Handle)) :
    List ToplevelInfo :=
  if manager then (stateAfter events).finalize.toplevels else []

/-! ## One window -/

namespace ToplevelEvent

def title? : ToplevelEvent → Option String
  | title text => some text
  | _ => none

def appId? : ToplevelEvent → Option String
  | appId text => some text
  | _ => none

def values? : ToplevelEvent → Option (List UInt32)
  | state bytes => some (stateValues bytes)
  | _ => none

end ToplevelEvent

/-- The latest title, identifier and state of a window. -/
def latestInfo (own : List ToplevelEvent) : ToplevelInfo where
  title := lastOf (·.title?) "" own
  appId := lastOf (·.appId?) "" own
  activated := (lastOf (·.values?) [] own).contains 0
  minimized := (lastOf (·.values?) [] own).contains 1

/-- The events up to the last `Done`. -/
def untilDone (own : List ToplevelEvent) : List ToplevelEvent :=
  own.rdropWhile (· ≠ .done)

/-- The window has had a `Done` and is not closed. -/
def Listed (own : List ToplevelEvent) : Prop := .done ∈ own ∧ .closed ∉ own

section Windows

variable [DecidableEq Handle]

/-- The event, if it is one of the window. -/
def TrackerEvent.from? (handle : Handle) :
    TrackerEvent Handle → Option ToplevelEvent
  | .toplevel proxy event => if proxy = handle then some event else none
  | .finished => none

/-- The events of a window. -/
def sentBy (handle : Handle) (events : List (TrackerEvent Handle)) :
    List ToplevelEvent :=
  events.filterMap (·.from? handle)

/-- The list has one entry for each window that has had a `Done` and is not
closed, with its latest properties as of its last `Done`. -/
def Lists (events : List (TrackerEvent Handle))
    (toplevels : List ToplevelInfo) : Prop :=
  OneEach (fun handle => Listed (sentBy handle events))
    (fun handle => latestInfo (untilDone (sentBy handle events))) toplevels

/-- The list that is kept after the events is right. -/
def Right (events : List (TrackerEvent Handle)) : Prop :=
  Lists events (stateAfter events).toplevels

end Windows

/-! ## The pending entry -/

/-- The events that the pending entry is made of. -/
def pendingStep (pending : List (Handle × ToplevelEvent)) :
    TrackerEvent Handle → List (Handle × ToplevelEvent)
  | .toplevel proxy event =>
      match event with
      | .done | .closed => []
      | .title _ => pending ++ [(proxy, event)]
      | .appId _ | .state _ | .other =>
          if pending = [] then [] else pending ++ [(proxy, event)]
  | .finished => []

/-- The events since the last `Done`, `Closed` or `Finished`, from the first
title on. -/
def pending (events : List (TrackerEvent Handle)) :
    List (Handle × ToplevelEvent) :=
  events.foldl pendingStep []

/-- The event is a state with the value. -/
def ToplevelEvent.shows (value : UInt32) (event : ToplevelEvent) : Bool :=
  (event.values?.getD []).contains value

/-- What is collected from the events: the last title and identifier, and
the flags of all states. -/
def collected (events : List ToplevelEvent) : ToplevelInfo where
  title := lastOf (·.title?) "" events
  appId := lastOf (·.appId?) "" events
  activated := events.any (·.shows 0)
  minimized := events.any (·.shows 1)

theorem stateAfter_concat (events : List (TrackerEvent Handle))
    (event : TrackerEvent Handle) :
    stateAfter (events ++ [event]) =
      trackerEvent (stateAfter events) event := by
  simp [stateAfter]

theorem pending_concat (events : List (TrackerEvent Handle))
    (event : TrackerEvent Handle) :
    pending (events ++ [event]) = pendingStep (pending events) event := by
  simp [pending]

/-- The values of a state set flags and clear none. -/
theorem foldl_applyValue (values : List UInt32) (info : ToplevelInfo) :
    values.foldl ToplevelInfo.applyValue info =
      { info with
        activated := info.activated || values.contains 0
        minimized := info.minimized || values.contains 1 } := by
  induction values generalizing info with
  | nil => simp
  | cons value values inductionHypothesis =>
      rw [List.foldl_cons, inductionHypothesis, ToplevelInfo.applyValue]
      by_cases activated : value = 0
      · simp [activated]
      · by_cases minimized : value = 1
        · simp [minimized]
        · simp [activated, minimized, eq_comm]

/-- What an event changes of the pending entry. -/
def ToplevelInfo.applyEvent (info : ToplevelInfo) (event : ToplevelEvent) :
    ToplevelInfo where
  title := event.title?.getD info.title
  appId := event.appId?.getD info.appId
  activated := info.activated || event.shows 0
  minimized := info.minimized || event.shows 1

theorem collected_concat (events : List ToplevelEvent)
    (event : ToplevelEvent) :
    collected (events ++ [event]) = (collected events).applyEvent event := by
  simp [collected, ToplevelInfo.applyEvent]

/-- The handler of an event that neither starts nor ends the pending entry
changes it. -/
theorem handleEvent_of_detail (state : ToplevelState) {event : ToplevelEvent}
    (going : event.title? = none) (notDone : event ≠ .done)
    (notClosed : event ≠ .closed) :
    handleEvent state event =
      { state with current := state.current.map (·.applyEvent event) } := by
  cases event with
  | title text => cases going
  | done => exact absurd rfl notDone
  | closed => exact absurd rfl notClosed
  | appId text =>
      have applied : (fun info : ToplevelInfo =>
          { info with appId := text }) = (·.applyEvent (.appId text)) := by
        funext info
        simp [ToplevelInfo.applyEvent, ToplevelEvent.title?,
          ToplevelEvent.appId?, ToplevelEvent.shows, ToplevelEvent.values?]
      rw [handleEvent, applied]
  | state bytes =>
      have applied : (fun info => (stateValues bytes).foldl
          ToplevelInfo.applyValue info) = (·.applyEvent (.state bytes)) :=
        funext (foldl_applyValue (stateValues bytes))
      rw [handleEvent, applied]
  | other =>
      have applied : (fun info : ToplevelInfo => info) =
          (·.applyEvent .other) := by
        funext info
        simp [ToplevelInfo.applyEvent, ToplevelEvent.title?,
          ToplevelEvent.appId?, ToplevelEvent.shows, ToplevelEvent.values?]
      rw [handleEvent, ← applied, Option.map_id']

theorem pendingStep_of_detail (pending : List (Handle × ToplevelEvent))
    (proxy : Handle) {event : ToplevelEvent} (going : event.title? = none)
    (notDone : event ≠ .done) (notClosed : event ≠ .closed) :
    pendingStep pending (.toplevel proxy event) =
      if pending = [] then [] else pending ++ [(proxy, event)] := by
  cases event with
  | title text => cases going
  | done => exact absurd rfl notDone
  | closed => exact absurd rfl notClosed
  | _ => rfl

/-- The pending entry is collected from the pending events. -/
theorem current_stateAfter (events : List (TrackerEvent Handle)) :
    (stateAfter events).current =
      if pending events = [] then none
      else some (collected ((pending events).map Prod.snd)) := by
  induction events using List.reverseRecOn with
  | nil => rfl
  | append_singleton events event inductionHypothesis =>
      rw [stateAfter_concat, pending_concat]
      cases event with
      | finished => rfl
      | toplevel proxy event =>
          have detail (going : event.title? = none) (notDone : event ≠ .done)
              (notClosed : event ≠ .closed) :
              (trackerEvent (stateAfter events)
                (.toplevel proxy event)).current =
              if pendingStep (pending events) (.toplevel proxy event) = []
                then none
              else some (collected ((pendingStep (pending events)
                (.toplevel proxy event)).map Prod.snd)) := by
            rw [trackerEvent, handleEvent_of_detail _ going notDone notClosed,
              pendingStep_of_detail _ _ going notDone notClosed,
              inductionHypothesis]
            by_cases empty : pending events = []
            · simp [empty]
            · simp [empty, collected_concat]
          cases event with
          | done => rfl
          | closed => rfl
          | title text =>
              rw [trackerEvent, handleEvent, inductionHypothesis, pendingStep]
              by_cases empty : pending events = []
              · simp [empty, ToplevelInfo.empty, collected, lastOf,
                  ToplevelEvent.title?, ToplevelEvent.appId?,
                  ToplevelEvent.shows, ToplevelEvent.values?]
              · simp [empty, collected_concat, ToplevelInfo.applyEvent,
                  ToplevelEvent.title?, ToplevelEvent.appId?,
                  ToplevelEvent.shows, ToplevelEvent.values?]
          | _ => exact detail rfl (by simp) (by simp)

theorem current_eq_none_iff (events : List (TrackerEvent Handle)) :
    (stateAfter events).current = none ↔ pending events = [] := by
  rw [current_stateAfter]
  by_cases empty : pending events = []
  · simp [empty]
  · simp [empty]

/-! ## Steps -/

section Steps

variable [DecidableEq Handle] {handle proxy : Handle}

@[simp]
theorem sentBy_concat_self (events : List (TrackerEvent Handle))
    (event : ToplevelEvent) :
    sentBy handle (events ++ [.toplevel handle event]) =
      sentBy handle events ++ [event] := by
  simp [sentBy, TrackerEvent.from?]

@[simp]
theorem sentBy_concat_finished (events : List (TrackerEvent Handle)) :
    sentBy handle (events ++ [.finished]) = sentBy handle events := by
  simp [sentBy, TrackerEvent.from?]

theorem sentBy_concat_other (events : List (TrackerEvent Handle))
    (event : ToplevelEvent) (different : handle ≠ proxy) :
    sentBy handle (events ++ [.toplevel proxy event]) =
      sentBy handle events := by
  simp [sentBy, TrackerEvent.from?, Ne.symm different]

theorem untilDone_concat {event : ToplevelEvent} (own : List ToplevelEvent)
    (going : event ≠ .done) :
    untilDone (own ++ [event]) = untilDone own := by
  simp [untilDone, going]

theorem latestInfo_untilDone_done (own : List ToplevelEvent) :
    latestInfo (untilDone (own ++ [.done])) = latestInfo own := by
  simp [untilDone, latestInfo,
    ToplevelEvent.title?, ToplevelEvent.appId?, ToplevelEvent.values?]

/-- What the window of a `Closed` does not own stays pending. -/
def KeepsOthers (earlier : List (TrackerEvent Handle)) :
    TrackerEvent Handle → Prop
  | .toplevel proxy .closed =>
      (∃ event ∈ pending earlier, event.1 ≠ proxy) →
        (stateAfter (earlier ++ [.toplevel proxy .closed])).current =
          (stateAfter earlier).current
  | _ => True

/-- After the event, the list is right, and no other window has lost its
pending properties. -/
def Safe (earlier : List (TrackerEvent Handle))
    (event : TrackerEvent Handle) : Prop :=
  Right (earlier ++ [event]) ∧ KeepsOthers earlier event

/-- The first `Done` of an open window comes when the pending events have
its own last title, identifier and flags, another one when nothing is
pending and nothing has changed; a window is closed before its first `Done`
and while only its own events are pending. -/
def InOrder (earlier : List (TrackerEvent Handle)) :
    TrackerEvent Handle → Prop
  | .toplevel proxy .done =>
      let own := sentBy proxy earlier
      if .closed ∈ own then
        pending earlier = []
      else if .done ∈ own then
        pending earlier = [] ∧ latestInfo own = latestInfo (untilDone own)
      else
        pending earlier ≠ [] ∧
          collected ((pending earlier).map Prod.snd) = latestInfo own
  | .toplevel proxy .closed =>
      ¬Listed (sentBy proxy earlier) ∧
        ∀ event ∈ pending earlier, event.1 = proxy
  | .toplevel _ _ => True
  | .finished => pending earlier = []

variable {earlier : List (TrackerEvent Handle)}

/-- An event that neither lists nor closes. -/
theorem lists_concat_property {event : ToplevelEvent}
    (right : Right earlier)
    (notDone : event ≠ .done) (notClosed : event ≠ .closed) :
    Right (earlier ++ [.toplevel proxy event]) := by
  have unchanged : (stateAfter (earlier ++
      [.toplevel proxy event])).toplevels =
      (stateAfter earlier).toplevels := by
    rw [stateAfter_concat, trackerEvent]
    cases event with
    | done => exact absurd rfl notDone
    | closed => exact absurd rfl notClosed
    | title text => rfl
    | appId text => rfl
    | state bytes => rfl
    | other => rfl
  rw [Right, unchanged]
  apply right.congr
  · intro handle
    by_cases own : handle = proxy
    · subst own
      simp [Listed, Ne.symm notDone, Ne.symm notClosed]
    · rw [sentBy_concat_other _ _ own]
  · intro handle _
    by_cases own : handle = proxy
    · subst own
      rw [sentBy_concat_self, untilDone_concat _ notDone]
    · rw [sentBy_concat_other _ _ own]

/-- A `Done` lists its window, if that is open. -/
theorem listed_concat_done_iff :
    Listed (sentBy handle (earlier ++ [.toplevel proxy .done])) ↔
      handle = proxy ∧ .closed ∉ sentBy handle earlier ∨
        Listed (sentBy handle earlier) := by
  by_cases own : handle = proxy
  · subst own
    simp +contextual [Listed]
  · rw [sentBy_concat_other _ _ own]
    simp [own]

theorem listed_concat_closed_iff :
    Listed (sentBy handle (earlier ++ [.toplevel proxy .closed])) ↔
      handle ≠ proxy ∧ Listed (sentBy handle earlier) := by
  by_cases own : handle = proxy
  · subst own
    simp [Listed]
  · rw [sentBy_concat_other _ _ own]
    simp [own]

theorem lists_concat_done_iff
    (right : Right earlier) :
    Right (earlier ++ [.toplevel proxy .done]) ↔
      InOrder earlier (.toplevel proxy .done) := by
  have grown : (stateAfter (earlier ++ [.toplevel proxy .done])).toplevels =
      (stateAfter earlier).toplevels ++
        (stateAfter earlier).current.toList := by
    rw [stateAfter_concat]
    rfl
  rw [Right, grown]
  have others : ∀ handle, handle ≠ proxy →
      latestInfo (untilDone (sentBy handle
        (earlier ++ [.toplevel proxy .done]))) =
      latestInfo (untilDone (sentBy handle earlier)) := by
    intro handle different
    rw [sentBy_concat_other _ _ different]
  rw [InOrder]
  by_cases closed : .closed ∈ sentBy proxy earlier
  · rw [if_pos closed, ← current_eq_none_iff]
    apply right.append_iff_of_same
    · intro handle
      rw [listed_concat_done_iff]
      apply or_iff_right
      rintro ⟨rfl, isOpen⟩
      exact isOpen closed
    · intro handle shown
      apply others
      rintro rfl
      exact shown.2 closed
  · rw [if_neg closed]
    by_cases done : .done ∈ sentBy proxy earlier
    · rw [if_pos done, ← current_eq_none_iff,
        ← latestInfo_untilDone_done (sentBy proxy earlier),
        ← sentBy_concat_self]
      apply right.append_iff_of_change ⟨done, closed⟩ _ others
      intro handle
      rw [listed_concat_done_iff]
      apply or_iff_right_of_imp
      rintro ⟨rfl, isOpen⟩
      exact ⟨done, isOpen⟩
    · rw [if_neg done]
      have added : Lists (earlier ++ [.toplevel proxy .done])
            ((stateAfter earlier).toplevels ++
              (stateAfter earlier).current.toList) ↔
          (stateAfter earlier).current = some (latestInfo (untilDone
            (sentBy proxy (earlier ++ [.toplevel proxy .done])))) := by
        apply right.append_iff_of_new (fun shown => done shown.1)
        · intro handle
          rw [listed_concat_done_iff]
          by_cases own : handle = proxy
          · subst own
            simp [closed]
          · simp [own]
        · intro handle shown
          apply others
          rintro rfl
          exact done shown.1
      rw [added, sentBy_concat_self, latestInfo_untilDone_done,
        current_stateAfter]
      by_cases empty : pending earlier = []
      · simp [empty]
      · simp [empty]

theorem safe_closed_iff
    (right : Right earlier) :
    Safe earlier (.toplevel proxy .closed) ↔
      InOrder earlier (.toplevel proxy .closed) := by
  have unchanged : (stateAfter (earlier ++
      [.toplevel proxy .closed])).toplevels =
      (stateAfter earlier).toplevels := by
    rw [stateAfter_concat]
    rfl
  have dropped : (stateAfter (earlier ++
      [.toplevel proxy .closed])).current = none := by
    rw [stateAfter_concat]
    rfl
  rw [Safe, Right, InOrder, unchanged]
  apply and_congr
  · by_cases shown : Listed (sentBy proxy earlier)
    · exact iff_of_false (right.not_of_gone shown
      fun _ => listed_concat_closed_iff) (not_not_intro shown)
    · have different : ∀ handle, Listed (sentBy handle earlier) →
          handle ≠ proxy := by
        rintro handle other rfl
        exact shown other
      refine iff_of_true (right.congr ?_ ?_) shown
      · intro handle
        rw [listed_concat_closed_iff]
        exact and_iff_right_of_imp (different handle)
      · intro handle other
        rw [sentBy_concat_other _ _ (different handle other)]
  · rw [KeepsOthers, dropped, eq_comm, current_eq_none_iff]
    constructor
    · intro kept event member
      by_contra foreign
      rw [kept ⟨event, member, foreign⟩] at member
      cases member
    · rintro own ⟨event, member, foreign⟩
      exact absurd (own event member) foreign

theorem lists_concat_finished_iff
    (right : Right earlier) :
    Right (earlier ++ [.finished]) ↔
      pending earlier = [] := by
  have grown : (stateAfter (earlier ++ [.finished])).toplevels =
      (stateAfter earlier).toplevels ++
        (stateAfter earlier).current.toList := by
    rw [stateAfter_concat]
    rfl
  rw [Right, grown, ← current_eq_none_iff]
  apply right.append_iff_of_same
  · intro handle
    rw [sentBy_concat_finished]
  · intro handle _
    rw [sentBy_concat_finished]

theorem safe_iff (event : TrackerEvent Handle)
    (right : Right earlier) :
    Safe earlier event ↔ InOrder earlier event := by
  cases event with
  | finished =>
      exact (and_iff_left trivial).trans (lists_concat_finished_iff right)
  | toplevel proxy event =>
      cases event with
      | done =>
          exact (and_iff_left trivial).trans (lists_concat_done_iff right)
      | closed => exact safe_closed_iff right
      | _ =>
          exact iff_of_true ⟨lists_concat_property right (by simp) (by simp),
            trivial⟩ trivial

end Steps

/-! ## All events -/

/-- After each event the list is right, no window takes away what is pending
for another, and the list that is enumerated in the end is right. -/
structure Tracks [DecidableEq Handle] (events : List (TrackerEvent Handle)) :
    Prop where
  each : EachStep Safe events
  enumerated : Lists events (enumerate true events)

/-- Windows are tracked exactly when the events come in order and nothing is
pending in the end. -/
theorem tracks_iff [DecidableEq Handle]
    (events : List (TrackerEvent Handle)) :
    Tracks events ↔ EachStep InOrder events ∧ pending events = [] := by
  have initially : Right ([] : List (TrackerEvent Handle)) :=
    ⟨[], List.nodup_nil, by simp [Listed, sentBy], rfl⟩
  have kept : ∀ (earlier : List (TrackerEvent Handle)) event,
      Right earlier → Safe earlier event → Right (earlier ++ [event]) :=
    fun earlier event _ safe => safe.1
  have each : EachStep Safe events ↔ EachStep InOrder events :=
    eachStep_safe_iff initially kept
      fun earlier event right => safe_iff event right
  have enumerated (right : Right events) :
      Lists events (enumerate true events) ↔ pending events = [] := by
    rw [← current_eq_none_iff]
    exact right.append_iff_of_same (fun _ => Iff.rfl) fun _ _ => rfl
  constructor
  · rintro ⟨safe, lists⟩
    have right := safe.finally initially kept
    exact ⟨each.mp safe, (enumerated right).mp lists⟩
  · rintro ⟨inOrder, empty⟩
    have safe := each.mpr inOrder
    have right := safe.finally initially kept
    exact ⟨safe, (enumerated right).mpr empty⟩

/-- Two windows whose properties are sent in turns. -/
def interleavedWindows : List (TrackerEvent Bool) :=
  [.toplevel false (.title "Terminal"), .toplevel true (.title "Firefox"),
    .toplevel false (.appId "org.gnome.Terminal"),
    .toplevel true (.appId "org.mozilla.firefox"),
    .toplevel false .done, .toplevel true .done]

/-- The properties of both go to one entry. -/
theorem not_lists_interleavedWindows :
    ¬Lists interleavedWindows (enumerate true interleavedWindows) := by
  rintro ⟨owners, distinct, members, same⟩
  have both : [false, true] ⊆ owners := by
    intro handle _
    apply (members handle).mpr
    cases handle <;> exact ⟨by decide, by decide⟩
  have two := (List.subperm_of_subset (by decide) both).length_le
  have one : (owners.map fun handle => latestInfo (untilDone
      (sentBy handle interleavedWindows))).length = 1 := by
    rw [← same]
    decide
  rw [List.length_map] at one
  simp only [List.length_cons, List.length_nil] at two
  omega

end RemoteWay.Capture.Toplevel
