import Mathlib.Data.List.Basic

/-!
# Changing the first entry of a kind

Tables are searched for their first entry of a kind, and this entry is
changed in place.
-/

namespace RemoteWay.Base

universe u

variable {Entry : Type u} {chosen other : Entry → Bool}
variable {change : Entry → Entry} {entries : List Entry}

/-- Change the first entry of the kind, if there is one. -/
def changeFirst (chosen : Entry → Bool) (change : Entry → Entry)
    (entries : List Entry) : List Entry :=
  entries.modify (entries.findIdx chosen) change

@[simp]
theorem changeFirst_nil : changeFirst chosen change [] = [] := rfl

theorem changeFirst_cons (first : Entry) (rest : List Entry) :
    changeFirst chosen change (first :: rest) =
      if chosen first then change first :: rest
      else first :: changeFirst chosen change rest := by
  cases found : chosen first with
  | true => simp [changeFirst, List.findIdx_cons, found]
  | false => simp [changeFirst, List.findIdx_cons, found]

theorem changeFirst_of_none
    (missing : ∀ entry, entry ∈ entries → chosen entry = false) :
    changeFirst chosen change entries = entries := by
  induction entries with
  | nil => rfl
  | cons first rest ih =>
      rw [changeFirst_cons, missing first List.mem_cons_self,
        if_neg Bool.false_ne_true, ih]
      intro entry member
      exact missing entry (List.mem_cons_of_mem first member)

theorem changeFirst_append_cons {earlier later : List Entry} {entry : Entry}
    (others : ∀ other, other ∈ earlier → chosen other = false)
    (found : chosen entry = true) :
    changeFirst chosen change (earlier ++ entry :: later) =
      earlier ++ change entry :: later := by
  induction earlier with
  | nil => simp [changeFirst_cons, found]
  | cons first rest ih =>
      rw [List.cons_append, changeFirst_cons,
        others first List.mem_cons_self, if_neg Bool.false_ne_true, ih]
      · rfl
      · intro other member
        exact others other (List.mem_cons_of_mem first member)

/-- An entry of the kind is changed where it stands first. -/
theorem changeFirst_append_of_mem {later : List Entry}
    (found : ∃ entry, entry ∈ entries ∧ chosen entry = true) :
    changeFirst chosen change (entries ++ later) =
      changeFirst chosen change entries ++ later := by
  induction entries with
  | nil =>
      obtain ⟨entry, member, _⟩ := found
      cases member
  | cons first rest ih =>
      rw [List.cons_append, changeFirst_cons, changeFirst_cons]
      by_cases here : chosen first = true
      · rw [if_pos here, if_pos here, List.cons_append]
      · rw [if_neg here, if_neg here, List.cons_append, ih]
        obtain ⟨entry, member, there⟩ := found
        rcases List.mem_cons.mp member with rfl | inRest
        · exact absurd there here
        · exact ⟨entry, inRest, there⟩

/-- What the change keeps is kept of all entries. -/
theorem map_changeFirst_of_kept {View : Type u} (view : Entry → View)
    (kept : ∀ entry, view (change entry) = view entry) :
    (changeFirst chosen change entries).map view = entries.map view := by
  induction entries with
  | nil => rfl
  | cons first rest ih =>
      rw [changeFirst_cons]
      by_cases here : chosen first = true
      · simp [here, kept]
      · simp [here, ih]

/-- The entries of the kind: the first of them is changed. -/
theorem filter_changeFirst_self
    (kept : ∀ entry, chosen entry = true →
      chosen (change entry) = true) :
    (changeFirst chosen change entries).filter chosen =
      (entries.filter chosen).modifyHead change := by
  induction entries with
  | nil => rfl
  | cons first rest ih =>
      rw [changeFirst_cons]
      cases found : chosen first with
      | true => simp [found, kept first found]
      | false => simp [found, ih]

/-- The entries of another kind stay. -/
theorem filter_changeFirst_other
    (apart : ∀ entry, chosen entry = true →
      other entry = false ∧ other (change entry) = false) :
    (changeFirst chosen change entries).filter other =
      entries.filter other := by
  induction entries with
  | nil => rfl
  | cons first rest ih =>
      rw [changeFirst_cons]
      cases found : chosen first with
      | true => simp [apart first found]
      | false => simp [List.filter_cons, ih]

theorem find?_changeFirst_other
    (apart : ∀ entry, chosen entry = true →
      other entry = false ∧ other (change entry) = false) :
    (changeFirst chosen change entries).find? other =
      entries.find? other := by
  rw [← List.head?_filter, ← List.head?_filter,
    filter_changeFirst_other apart]

/-- A list is divided at its first entry of a kind in one way only. -/
theorem eq_of_split_at_first {before after laterBefore laterAfter : List Entry}
    {entry laterEntry : Entry}
    (early : ∀ other, other ∈ before → chosen other = false)
    (laterEarly : ∀ other, other ∈ laterBefore → chosen other = false)
    (found : chosen entry = true) (laterFound : chosen laterEntry = true)
    (same : before ++ entry :: after =
      laterBefore ++ laterEntry :: laterAfter) :
    before = laterBefore ∧ entry = laterEntry ∧ after = laterAfter := by
  induction before generalizing laterBefore with
  | nil =>
      cases laterBefore with
      | nil => simpa using same
      | cons first rest =>
          obtain ⟨rfl, _⟩ := List.cons.inj same
          rw [laterEarly entry List.mem_cons_self] at found
          cases found
  | cons first rest ih =>
      cases laterBefore with
      | nil =>
          obtain ⟨rfl, _⟩ := List.cons.inj same
          rw [early first List.mem_cons_self] at laterFound
          cases laterFound
      | cons laterFirst laterRest =>
          obtain ⟨rfl, tails⟩ := List.cons.inj same
          obtain ⟨rfl, rfl, rfl⟩ := @ih laterRest
            (fun other member =>
              early other (List.mem_cons_of_mem first member))
            (fun other member =>
              laterEarly other (List.mem_cons_of_mem first member)) tails
          exact ⟨rfl, rfl, rfl⟩

end RemoteWay.Base
