import Mathlib.Data.List.Perm.Basic
import Mathlib.Data.List.Nodup
import Mathlib.Data.Multiset.ZeroCons

/-!
# One entry for each owner

A list with one entry for each owner, in an order that does not matter.  When
an owner comes, changes or leaves, the list has to follow; a list that only
grows at its end follows in few cases.
-/

namespace RemoteWay.Base

universe u v

variable {Owner : Type u} {Info : Type v}

/-- The entries are those of the listed owners, one for each. -/
def OneEach (listed : Owner → Prop) (info : Owner → Info)
    (entries : List Info) : Prop :=
  ∃ owners : List Owner, owners.Nodup ∧
    (∀ owner, owner ∈ owners ↔ listed owner) ∧ entries = owners.map info

section OneEach

open List (Perm)
open scoped List

variable {listed later : Owner → Prop} {info change : Owner → Info}
variable {entries : List Info} {more : Option Info} {owner : Owner}

/-- The order of the owners does not matter. -/
theorem oneEach_iff_perm {owners : List Owner} (distinct : owners.Nodup)
    (members : ∀ owner, owner ∈ owners ↔ listed owner) :
    OneEach listed info entries ↔ entries ~ owners.map info := by
  constructor
  · rintro ⟨others, othersDistinct, othersMembers, rfl⟩
    apply Perm.map
    rw [List.perm_ext_iff_of_nodup othersDistinct distinct]
    intro owner
    rw [members, othersMembers]
  · intro same
    obtain ⟨others, rfl, reordered⟩ :
        Relation.Comp (· = List.map info ·) (· ~ ·) entries owners := by
      rw [List.eq_map_comp_perm]
      exact same
    refine ⟨others, reordered.nodup_iff.mpr distinct, ?_, rfl⟩
    intro owner
    rw [reordered.mem_iff, members]

theorem eq_of_cons_perm_cons {first second : Info}
    (same : first :: entries ~ second :: entries) : first = second := by
  rw [← Multiset.coe_eq_coe, ← Multiset.cons_coe, ← Multiset.cons_coe,
    Multiset.cons_inj_left] at same
  exact same

theorem append_toList_perm_self_iff :
    entries ++ more.toList ~ entries ↔ more = none := by
  constructor
  · intro same
    have lengths := same.length_eq
    cases more with
    | none => rfl
    | some entry => simp at lengths
  · rintro rfl
    simp

/-- No owner comes, changes or leaves. -/
theorem OneEach.congr (holds : OneEach listed info entries)
    (members : ∀ other, later other ↔ listed other)
    (kept : ∀ other, listed other → change other = info other) :
    OneEach later change entries := by
  obtain ⟨owners, distinct, inList, rfl⟩ := holds
  refine ⟨owners, distinct, ?_, ?_⟩
  · intro other
    rw [inList, members]
  · exact List.map_congr_left fun other member =>
      (kept other ((inList other).mp member)).symm

theorem OneEach.append_iff_of_same (holds : OneEach listed info entries)
    (members : ∀ other, later other ↔ listed other)
    (kept : ∀ other, listed other → change other = info other) :
    OneEach later change (entries ++ more.toList) ↔ more = none := by
  obtain ⟨owners, distinct, inList, rfl⟩ := holds.congr members kept
  rw [oneEach_iff_perm distinct inList, append_toList_perm_self_iff]

/-- An owner comes. -/
theorem OneEach.append_iff_of_new (holds : OneEach listed info entries)
    (new : ¬listed owner)
    (members : ∀ other, later other ↔ other = owner ∨ listed other)
    (kept : ∀ other, listed other → change other = info other) :
    OneEach later change (entries ++ more.toList) ↔
      more = some (change owner) := by
  obtain ⟨owners, distinct, inList, rfl⟩ := holds
  have absent : owner ∉ owners := fun member => new ((inList owner).mp member)
  have same : owners.map change = owners.map info :=
    List.map_congr_left fun other member =>
      kept other ((inList other).mp member)
  rw [oneEach_iff_perm (List.nodup_cons.mpr ⟨absent, distinct⟩) fun other => by
    rw [List.mem_cons, members, inList], List.map_cons, same]
  constructor
  · intro added
    cases more with
    | none =>
        have lengths := added.length_eq
        simp at lengths
    | some entry =>
        have front := (List.perm_append_singleton entry _).symm.trans added
        rw [eq_of_cons_perm_cons front]
  · rintro rfl
    exact List.perm_append_singleton _ _

/-- An owner changes. -/
theorem OneEach.append_iff_of_change (holds : OneEach listed info entries)
    (old : listed owner) (members : ∀ other, later other ↔ listed other)
    (kept : ∀ other, other ≠ owner → change other = info other) :
    OneEach later change (entries ++ more.toList) ↔
      more = none ∧ change owner = info owner := by
  obtain ⟨owners, distinct, inList, rfl⟩ := holds
  obtain ⟨front, back, rfl⟩ := List.append_of_mem ((inList owner).mpr old)
  have moved : front ++ owner :: back ~ owner :: (front ++ back) :=
    List.perm_middle
  have apart := List.nodup_cons.mp (moved.nodup_iff.mp distinct)
  have same : (front ++ back).map change = (front ++ back).map info :=
    List.map_congr_left fun other member =>
      kept other fun equal => apart.1 (equal ▸ member)
  rw [oneEach_iff_perm distinct fun other =>
    (inList other).trans (members other).symm]
  have before := moved.map info
  have after := moved.map change
  rw [List.map_cons] at before after
  rw [same] at after
  constructor
  · intro grown
    have lengths := grown.length_eq
    cases more with
    | some entry => simp at lengths
    | none =>
        rw [Option.toList_none, List.append_nil] at grown
        have both := after.symm.trans (grown.symm.trans before)
        exact ⟨rfl, eq_of_cons_perm_cons both⟩
  · rintro ⟨rfl, unchanged⟩
    rw [Option.toList_none, List.append_nil]
    rw [unchanged] at after
    exact before.trans after.symm

/-- An owner leaves, and its entry does not. -/
theorem OneEach.not_of_gone (holds : OneEach listed info entries)
    (old : listed owner)
    (members : ∀ other, later other ↔ other ≠ owner ∧ listed other) :
    ¬OneEach later change entries := by
  obtain ⟨owners, distinct, inList, rfl⟩ := holds
  rintro ⟨others, othersDistinct, othersInList, same⟩
  have absent : owner ∉ others := fun member =>
    ((members owner).mp ((othersInList owner).mp member)).1 rfl
  have all : owners ~ owner :: others := by
    rw [List.perm_ext_iff_of_nodup distinct
      (List.nodup_cons.mpr ⟨absent, othersDistinct⟩)]
    intro other
    rw [List.mem_cons, inList, othersInList, members]
    by_cases equal : other = owner
    · simp [equal, old]
    · simp [equal]
  have lengths := congrArg List.length same
  rw [List.length_map, List.length_map, all.length_eq, List.length_cons]
    at lengths
  omega

end OneEach

end RemoteWay.Base
