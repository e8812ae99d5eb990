import RemoteWay.Capture.Toplevels

/-!
# The window of the launched child

The server remembers the identifiers of all windows, launches the child and
then captures a window that was not there before.  Windows are told apart by
their identifiers; a window without one counts as new only if there was no
window before.
-/

namespace RemoteWay.Server

open RemoteWay.Capture RemoteWay.Capture.Error

section Selection

variable {Handle : Type}

/-- A window with an identifier that is not known, or any window if none is
known. -/
def newToplevel (knownIdentifiers : List String)
    (toplevels : List (DiscoveredToplevel Handle)) :
    Option (DiscoveredToplevel Handle) :=
  (toplevels.find? fun toplevel =>
    !toplevel.identifier.isEmpty &&
      !knownIdentifiers.contains toplevel.identifier).or
    (if knownIdentifiers.isEmpty then toplevels.head? else none)

/-- The window whose contents `ExtImageCaptureBackend::new` captures for
`NewToplevel`.  `manager` says whether the compositor can capture windows. -/
def newToplevelSource (manager : Bool) (knownIdentifiers : List String)
    (toplevels : List (DiscoveredToplevel Handle)) :
    Except Error.CaptureError (DiscoveredToplevel Handle) :=
  if manager then
    match newToplevel knownIdentifiers toplevels with
    | some toplevel => .ok toplevel
    | none => .error (.captureFailed "no new toplevel found")
  else
    .error .noBackend

/-- The identifiers of the windows before the child is launched. -/
def knownIdentifiers (known : List ToplevelInfo) : List String :=
  known.map (·.identifier)

theorem newToplevelSource_eq_ok_iff {manager : Bool} {known : List String}
    {toplevels : List (DiscoveredToplevel Handle)}
    {chosen : DiscoveredToplevel Handle} :
    newToplevelSource manager known toplevels = .ok chosen ↔
      manager = true ∧ newToplevel known toplevels = some chosen := by
  rw [newToplevelSource]
  cases manager with
  | false => simp
  | true => cases newToplevel known toplevels <;> simp

/-- A window with a new identifier is preferred. -/
theorem newToplevel_cases {known : List String}
    {toplevels : List (DiscoveredToplevel Handle)}
    {chosen : DiscoveredToplevel Handle}
    (found : newToplevel known toplevels = some chosen) :
    chosen ∈ toplevels ∧
      (chosen.identifier ≠ "" ∧ chosen.identifier ∉ known ∨ known = []) := by
  rw [newToplevel, Option.or_eq_some_iff] at found
  rcases found with preferred | ⟨_, fallback⟩
  · refine ⟨List.mem_of_find?_eq_some preferred, Or.inl ?_⟩
    have fresh := List.find?_some preferred
    simpa [String.isEmpty_iff] using fresh
  · cases known with
    | nil => exact ⟨List.mem_of_mem_head? fallback, Or.inr rfl⟩
    | cons first rest => cases fallback

theorem exists_newToplevel_iff {known : List String}
    {toplevels : List (DiscoveredToplevel Handle)} :
    (∃ chosen, newToplevel known toplevels = some chosen) ↔
      (∃ toplevel, toplevel ∈ toplevels ∧ toplevel.identifier ≠ "" ∧
        toplevel.identifier ∉ known) ∨ known = [] ∧ toplevels ≠ [] := by
  constructor
  · rintro ⟨chosen, found⟩
    obtain ⟨member, fresh | empty⟩ := newToplevel_cases found
    · exact Or.inl ⟨chosen, member, fresh⟩
    · exact Or.inr ⟨empty, List.ne_nil_of_mem member⟩
  · rintro (⟨toplevel, member, named, fresh⟩ | ⟨rfl, nonempty⟩)
    · have some_ : (toplevels.find? fun toplevel =>
          !toplevel.identifier.isEmpty &&
            !known.contains toplevel.identifier).isSome = true := by
        rw [List.find?_isSome]
        exact ⟨toplevel, member, by simp [named, fresh]⟩
      obtain ⟨chosen, preferred⟩ := Option.isSome_iff_exists.mp some_
      exact ⟨chosen, by rw [newToplevel, preferred, Option.some_or]⟩
    · obtain ⟨first, rest, rfl⟩ := List.exists_cons_of_ne_nil nonempty
      rw [newToplevel]
      cases (first :: rest).find? _ with
      | none => exact ⟨first, rfl⟩
      | some chosen => exact ⟨chosen, rfl⟩

end Selection

/-! ## Windows of one compositor -/

/-- The windows of a compositor.  Identifiers are stable, and windows that
have one are told apart by it. -/
structure Windows (Window : Type) where
  identifier : Window → String
  unique : ∀ first second, identifier first ≠ "" →
    identifier first = identifier second → first = second

/-- The list shows windows of the compositor. -/
def Windows.Shows {Window : Type} (windows : Windows Window)
    (toplevels : List (DiscoveredToplevel Window)) : Prop :=
  ∀ toplevel, toplevel ∈ toplevels →
    toplevel.identifier = windows.identifier toplevel.handle

section Windows

variable {Window : Type} {windows : Windows Window}
variable {snapshot later : List (DiscoveredToplevel Window)}

/-- A window with an identifier was in the snapshot exactly when its
identifier is known. -/
theorem mem_knownIdentifiers_iff (shown : windows.Shows snapshot)
    {toplevel : DiscoveredToplevel Window}
    (same : toplevel.identifier = windows.identifier toplevel.handle)
    (named : toplevel.identifier ≠ "") :
    toplevel.identifier ∈ knownIdentifiers (snapshot.map (·.info)) ↔
      ∃ known, known ∈ snapshot ∧ known.handle = toplevel.handle := by
  rw [knownIdentifiers, List.map_map, List.mem_map]
  constructor
  · rintro ⟨known, member, equal⟩
    refine ⟨known, member, (windows.unique _ _ ?_ ?_).symm⟩
    · rw [← same]
      exact named
    · rw [← same, ← shown known member, ← equal]
      rfl
  · rintro ⟨known, member, handle⟩
    refine ⟨known, member, ?_⟩
    rw [same, ← handle, ← shown known member]
    rfl

/-- A window of the snapshot is never selected.  Some window is selected
exactly when one with an identifier is new, or all are. -/
theorem newToplevelSource_selects (manager : Bool)
    (shown : windows.Shows snapshot) (laterShown : windows.Shows later) :
    (∀ chosen, newToplevelSource manager
        (knownIdentifiers (snapshot.map (·.info))) later = .ok chosen →
      chosen ∈ later ∧
        ¬ ∃ known, known ∈ snapshot ∧ known.handle = chosen.handle) ∧
    ((∃ chosen, newToplevelSource manager
        (knownIdentifiers (snapshot.map (·.info))) later = .ok chosen) ↔
      manager = true ∧
        ((∃ toplevel, toplevel ∈ later ∧ toplevel.identifier ≠ "" ∧
          ¬ ∃ known, known ∈ snapshot ∧
            known.handle = toplevel.handle) ∨
          snapshot = [] ∧ later ≠ [])) := by
  have noneKnown : knownIdentifiers (snapshot.map (·.info)) = [] ↔
      snapshot = [] := by
    rw [knownIdentifiers, List.map_eq_nil_iff, List.map_eq_nil_iff]
  constructor
  · intro chosen selected
    obtain ⟨_, found⟩ := newToplevelSource_eq_ok_iff.mp selected
    obtain ⟨member, ⟨named, fresh⟩ | empty⟩ := newToplevel_cases found
    · rw [mem_knownIdentifiers_iff shown (laterShown chosen member) named]
        at fresh
      exact ⟨member, fresh⟩
    · refine ⟨member, ?_⟩
      rintro ⟨known, knownMember, _⟩
      rw [noneKnown.mp empty] at knownMember
      cases knownMember
  · simp only [newToplevelSource_eq_ok_iff, exists_and_left,
      exists_newToplevel_iff, noneKnown]
    have fresh : ∀ toplevel, toplevel ∈ later →
        (toplevel.identifier ≠ "" ∧ toplevel.identifier ∉
            knownIdentifiers (snapshot.map (·.info)) ↔
          toplevel.identifier ≠ "" ∧
            ¬ ∃ known, known ∈ snapshot ∧
              known.handle = toplevel.handle) := by
      intro toplevel member
      apply and_congr_right
      intro named
      rw [mem_knownIdentifiers_iff shown (laterShown toplevel member) named]
    exact and_congr_right fun _ => or_congr_left (exists_congr fun _ =>
      and_congr_right (fresh _))

end Windows

/-- One window with an identifier and one without. -/
def browserAndDialog : Windows Bool where
  identifier window := if window then "" else "1"
  unique first second named same := by
    cases first <;> cases second <;> simp_all

def browserEntry : DiscoveredToplevel Bool :=
  ⟨false, "org.mozilla.firefox", "New Tab", "1"⟩

def dialogEntry : DiscoveredToplevel Bool := ⟨true, "dialog", "", ""⟩

/-- The window of a child that is the first window. -/
theorem newToplevelSource_selects_first :
    browserAndDialog.Shows [] ∧ browserAndDialog.Shows [dialogEntry] ∧
      ∃ chosen, newToplevelSource true (knownIdentifiers []) [dialogEntry] =
        .ok chosen := by
  have shown : browserAndDialog.Shows [] := by simp [Windows.Shows]
  have laterShown : browserAndDialog.Shows [dialogEntry] := by
    simp [Windows.Shows, dialogEntry, browserAndDialog]
  exact ⟨shown, laterShown,
    (newToplevelSource_selects true shown laterShown).2.mpr
      ⟨rfl, Or.inr ⟨rfl, List.cons_ne_nil _ _⟩⟩⟩

/-- A new window without an identifier is not found beside a known one. -/
theorem not_newToplevelSource_dialog :
    browserAndDialog.Shows [browserEntry] ∧
      browserAndDialog.Shows [browserEntry, dialogEntry] ∧
      (∃ toplevel, toplevel ∈ [browserEntry, dialogEntry] ∧
        ¬ ∃ known, known ∈ [browserEntry] ∧
          known.handle = toplevel.handle) ∧
      newToplevelSource true
          (knownIdentifiers ([browserEntry].map (·.info)))
          [browserEntry, dialogEntry] =
        .error (.captureFailed "no new toplevel found") := by
  refine ⟨?_, ?_, ⟨dialogEntry, by simp, ?_⟩, rfl⟩
  · simp [Windows.Shows, browserEntry, browserAndDialog]
  · simp [Windows.Shows, browserEntry, dialogEntry, browserAndDialog]
  · simp [browserEntry, dialogEntry]

end RemoteWay.Server
