import Mathlib.Data.List.Induction

/-!
# Histories of events

What holds after some events is said in terms of the events themselves: the
last value of a kind that was sent, and what every event finds when it
comes.
-/

namespace RemoteWay.Base

universe u v

variable {Event : Type u} {Value : Type v}

/-! ## The last value of a kind -/

/-- The last value of a kind among the events. -/
def lastOf (kind : Event → Option Value) (default : Value)
    (events : List Event) : Value :=
  (events.filterMap kind).getLast?.getD default

section LastOf

variable {kind : Event → Option Value} {default : Value}

@[simp]
theorem lastOf_nil : lastOf kind default [] = default := rfl

@[simp]
theorem lastOf_concat (events : List Event) (event : Event) :
    lastOf kind default (events ++ [event]) =
      (kind event).getD (lastOf kind default events) := by
  rw [lastOf, List.filterMap_append]
  cases value : kind event with
  | none => simp [value, lastOf]
  | some value' => simp [value]

/-- Where an event stands in a list is its end or before its end. -/
theorem concat_eq_append_cons_iff {events earlier later : List Event}
    {last event : Event} :
    events ++ [last] = earlier ++ event :: later ↔
      (events = earlier ∧ last = event ∧ later = []) ∨
        ∃ between, later = between ++ [last] ∧
          events = earlier ++ event :: between := by
  induction later using List.reverseRecOn with
  | nil => simp [List.append_singleton_inj]
  | append_singleton later ending _ =>
      rw [← List.cons_append, ← List.append_assoc, List.append_singleton_inj]
      constructor
      · rintro ⟨rfl, rfl⟩
        exact Or.inr ⟨later, rfl, rfl⟩
      · rintro (⟨_, _, impossible⟩ | ⟨between, same, rfl⟩)
        · simp at impossible
        · obtain ⟨rfl, rfl⟩ := List.append_singleton_inj.mp same
          exact ⟨rfl, rfl⟩

/-- A value other than the default is that of an event which no event with a
value follows. -/
theorem lastOf_eq_iff {value : Value} (other : default ≠ value)
    {events : List Event} :
    lastOf kind default events = value ↔
      ∃ earlier event later, events = earlier ++ event :: later ∧
        kind event = some value ∧ ∀ next ∈ later, kind next = none := by
  induction events using List.reverseRecOn with
  | nil => simp [other]
  | append_singleton events last inductionHypothesis =>
      rw [lastOf_concat]
      simp only [concat_eq_append_cons_iff]
      cases sent : kind last with
      | none =>
          rw [Option.getD_none, inductionHypothesis]
          constructor
          · rintro ⟨earlier, event, later, same, here, after⟩
            refine ⟨earlier, event, later ++ [last],
              Or.inr ⟨later, rfl, same⟩, here, ?_⟩
            intro next member
            rcases List.mem_append.mp member with before | final
            · exact after next before
            · rw [List.mem_singleton.mp final, sent]
          · rintro ⟨earlier, event, later, ⟨_, rfl, _⟩ |
              ⟨between, rfl, same⟩, here, after⟩
            · rw [sent] at here
              cases here
            · exact ⟨earlier, event, between, same, here, fun next member =>
                after next (List.mem_append_left _ member)⟩
      | some final =>
          rw [Option.getD_some]
          constructor
          · rintro rfl
            exact ⟨events, last, [], Or.inl ⟨rfl, rfl, rfl⟩, sent, by simp⟩
          · rintro ⟨earlier, event, later, ⟨_, rfl, _⟩ |
              ⟨between, rfl, _⟩, here, after⟩
            · rw [sent] at here
              injection here
            · have nothing := after last (by simp)
              rw [sent] at nothing
              cases nothing

/-- A view that each event sets or leaves shows the last value. -/
theorem foldl_eq_lastOf {State : Type*} {step : State → Event → State}
    {view : State → Value}
    (each : ∀ state event,
      view (step state event) = (kind event).getD (view state))
    (initial : State) (events : List Event) :
    view (events.foldl step initial) = lastOf kind (view initial) events := by
  induction events using List.reverseRecOn with
  | nil => rfl
  | append_singleton events event inductionHypothesis =>
      rw [List.foldl_append, List.foldl_cons, List.foldl_nil, each,
        inductionHypothesis, lastOf_concat]

end LastOf

/-! ## Each step of a history -/

/-- What holds after each part of a history holds up to the last event and
after it. -/
theorem forall_prefix_concat_iff {property : List Event → Prop}
    {events : List Event} {last : Event} :
    (∀ earlier, earlier <+: events ++ [last] → property earlier) ↔
      (∀ earlier, earlier <+: events → property earlier) ∧
        property (events ++ [last]) := by
  constructor
  · intro each
    refine ⟨?_, each _ List.prefix_rfl⟩
    intro earlier shorter
    exact each earlier (shorter.trans (List.prefix_append _ _))
  · rintro ⟨each, final⟩ earlier shorter
    rcases List.prefix_concat_iff.mp shorter with rfl | before
    · exact final
    · exact each earlier before

/-- Each event has the property, together with the events before it. -/
def EachStep (property : List Event → Event → Prop) (events : List Event) :
    Prop :=
  ∀ earlier event, earlier ++ [event] <+: events → property earlier event

section EachStep

variable {property : List Event → Event → Prop}

@[simp]
theorem eachStep_nil : EachStep property [] := by
  intro earlier event shorter
  simp at shorter

@[simp]
theorem eachStep_concat_iff {events : List Event} {last : Event} :
    EachStep property (events ++ [last]) ↔
      EachStep property events ∧ property events last := by
  constructor
  · intro each
    refine ⟨?_, each events last List.prefix_rfl⟩
    intro earlier event shorter
    exact each earlier event (shorter.trans (List.prefix_append _ _))
  · rintro ⟨each, final⟩ earlier event shorter
    rcases List.prefix_concat_iff.mp shorter with same | before
    · obtain ⟨rfl, rfl⟩ := List.append_inj' same rfl |>.imp_right
        List.singleton_inj.mp
      exact final
    · exact each earlier event before

instance [∀ earlier event, Decidable (property earlier event)]
    (events : List Event) : Decidable (EachStep property events) :=
  decidable_of_iff (∀ index : Fin events.length,
      property (events.take index) events[index]) (by
    constructor
    · rintro each earlier event ⟨later, rfl⟩
      have inside : earlier.length <
          (earlier ++ [event] ++ later).length := by simp
      simpa using each ⟨earlier.length, inside⟩
    · intro each index
      apply each
      rw [Fin.getElem_fin, List.take_append_getElem]
      exact List.take_prefix _ _)

variable {right : List Event → Prop} {safe guard : List Event → Event → Prop}
variable {events : List Event}

/-- What each step establishes or keeps holds in the end. -/
theorem EachStep.finally (all : EachStep safe events) (initially : right [])
    (kept : ∀ earlier event, right earlier → safe earlier event →
      right (earlier ++ [event])) : right events := by
  induction events using List.reverseRecOn with
  | nil => exact initially
  | append_singleton earlier event inductionHypothesis =>
      obtain ⟨before, here⟩ := eachStep_concat_iff.mp all
      exact kept earlier event (inductionHypothesis before) here

/-- If, where all is right, a step is safe exactly if it meets a condition,
then all steps are safe exactly if all meet the condition. -/
theorem eachStep_safe_iff (initially : right [])
    (kept : ∀ earlier event, right earlier → safe earlier event →
      right (earlier ++ [event]))
    (stepwise : ∀ earlier event, right earlier →
      (safe earlier event ↔ guard earlier event)) :
    EachStep safe events ↔ EachStep guard events := by
  induction events using List.reverseRecOn with
  | nil => simp
  | append_singleton events event inductionHypothesis =>
      rw [eachStep_concat_iff, eachStep_concat_iff, ← inductionHypothesis]
      apply and_congr_right
      intro all
      exact stepwise events event (all.finally initially kept)

end EachStep

end RemoteWay.Base
