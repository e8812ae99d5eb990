import Mathlib.Data.List.Infix

/-!
# Argument vectors

A program declares long options that take one value each, and a list of words
after two hyphens.  Reading an argument vector gives the options with their
values and these words.  The reader is a parameter; what it is known for is
stated for options whose values are separate arguments.
-/

namespace RemoteWay.Base

/-- What was read: the options that were given, and the words at the end. -/
structure Matches (Opt : Type) where
  given : List (Opt × List Char)
  command : List (List Char)
  deriving DecidableEq

namespace Arguments

variable {Opt : Type} {name : Opt → List Char}
variable {read : List (List Char) → Option (Matches Opt)}

def escape : List Char := "--".toList

/-- Begins like an option.  A single hyphen is a value. -/
def isFlag (argument : List Char) : Bool :=
  argument.head? = some '-' && argument ≠ ['-']

/-- Every option, followed by its value. -/
def words (name : Opt → List Char) (given : List (Opt × List Char)) :
    List (List Char) :=
  given.flatMap fun (option, value) => [name option, value]

/-- Two hyphens and the words after them. -/
def trailing (command : List (List Char)) : List (List Char) :=
  if command = [] then [] else escape :: command

/-- The value is the argument after the option, or follows an equality sign. -/
def Occurs (name : Opt → List Char) (arguments : List (List Char))
    (option : Opt) (value : List Char) : Prop :=
  [name option, value] <:+: arguments ∨
    name option ++ '=' :: value ∈ arguments

/-- Options with values are read as they are.  An option needs a value, and
what begins like an option is none.  Nothing is read that is not there. -/
structure Reads (name : Opt → List Char)
    (read : List (List Char) → Option (Matches Opt)) : Prop where
  options : ∀ given command, (given.map Prod.fst).Nodup →
    (∀ value, value ∈ given.map Prod.snd → isFlag value = false) →
    read (words name given ++ trailing command) = some ⟨given, command⟩
  flagValue : ∀ given option value rest,
    (∀ value, value ∈ given.map Prod.snd → isFlag value = false) →
    isFlag value = true →
    read (words name given ++ name option :: value :: rest) = none
  missingValue : ∀ given option,
    (∀ value, value ∈ given.map Prod.snd → isFlag value = false) →
    read (words name given ++ [name option]) = none
  provenance : ∀ arguments result, read arguments = some result →
    ∃ before, (arguments = before ∧ result.command = [] ∨
        arguments = before ++ escape :: result.command) ∧
      ∀ option value, (option, value) ∈ result.given →
        Occurs name before option value

/-! ## What is read was given -/

theorem Occurs.suffix {arguments : List (List Char)} {option : Opt}
    {value : List Char} (occurs : Occurs name arguments option value) :
    ∃ argument, argument ∈ arguments ∧ value <:+ argument := by
  rcases occurs with separate | attached
  · exact ⟨value, separate.subset (by simp), List.suffix_rfl⟩
  · exact ⟨_, attached, (List.suffix_cons '=' value).trans
      (List.suffix_append (name option) _)⟩

namespace Reads

variable {arguments : List (List Char)} {result : Matches Opt}

theorem value_suffix (reads : Reads name read)
    (done : read arguments = some result) {option : Opt} {value : List Char}
    (member : (option, value) ∈ result.given) :
    ∃ argument, argument ∈ arguments ∧ value <:+ argument := by
  obtain ⟨before, ends, occurs⟩ := reads.provenance arguments result done
  obtain ⟨argument, here, suffix⟩ := (occurs option value member).suffix
  refine ⟨argument, ?_, suffix⟩
  rcases ends with ⟨rfl, _⟩ | rfl
  · exact here
  · exact List.mem_append_left _ here

theorem command_subset (reads : Reads name read)
    (done : read arguments = some result) : result.command ⊆ arguments := by
  obtain ⟨before, ends, _⟩ := reads.provenance arguments result done
  rcases ends with ⟨_, none_⟩ | rfl
  · simp [none_]
  · intro word member
    exact List.mem_append_right _ (List.mem_cons_of_mem _ member)

/-- Nothing is read twice. -/
theorem value_command_sublist (reads : Reads name read)
    (done : read arguments = some result) {option : Opt} {value : List Char}
    (member : (option, value) ∈ result.given) :
    (value ++ result.command.flatten).Sublist arguments.flatten := by
  obtain ⟨before, ends, occurs⟩ := reads.provenance arguments result done
  obtain ⟨argument, here, suffix⟩ := (occurs option value member).suffix
  have first : value.Sublist before.flatten :=
    suffix.sublist.trans (List.sublist_flatten_of_mem here)
  rcases ends with ⟨rfl, none_⟩ | rfl
  · simpa [none_] using first
  · rw [List.flatten_append, List.flatten_cons]
    exact first.append (List.sublist_append_right _ _)

theorem command_sublist (reads : Reads name read)
    (done : read arguments = some result) :
    result.command.flatten.Sublist arguments.flatten := by
  obtain ⟨before, ends, _⟩ := reads.provenance arguments result done
  rcases ends with ⟨_, none_⟩ | rfl
  · simp [none_]
  · rw [List.flatten_append, List.flatten_cons, ← List.append_assoc]
    exact List.sublist_append_right _ _

end Reads

/-! ## Options that may be absent -/

/-- An option with its value, if it has one. -/
def part (option : Opt) (value : Option (List Char)) :
    List (Opt × List Char) :=
  (value.map (option, ·)).toList

@[simp]
theorem lookup_part [DecidableEq Opt] (wanted option : Opt)
    (value : Option (List Char)) :
    (part option value).lookup wanted =
      if wanted = option then value else none := by
  cases value with
  | none => simp [part]
  | some value =>
      by_cases same : wanted = option
      · simp [part, same]
      · simp [part, same]

theorem options_part (option : Opt) (value : Option (List Char)) :
    ((part option value).map Prod.fst).Sublist [option] := by
  cases value with
  | none => exact List.nil_sublist [option]
  | some value => exact List.Sublist.refl [option]

theorem words_append (first second : List (Opt × List Char)) :
    words name (first ++ second) = words name first ++ words name second :=
  List.flatMap_append

theorem words_part (option : Opt) (value : Option (List Char)) :
    words name (part option value) =
      match value with
      | some value => [name option, value]
      | none => [] := by
  cases value <;> rfl

theorem words_part_ite (option : Opt) (absent : Prop) [Decidable absent]
    (value : List Char) :
    words name (part option (if absent then none else some value)) =
      if ¬ absent then [name option, value] else [] := by
  by_cases present : absent <;> simp [present, words_part]

theorem forall_part {holds : List Char → Prop} {option : Opt}
    {optional : Option (List Char)}
    (present : ∀ value, optional = some value → holds value) :
    ∀ value, value ∈ (part option optional).map Prod.snd → holds value := by
  cases optional with
  | none => simp [part]
  | some value => simpa [part] using present value rfl

theorem forall_words {holds : List Char → Prop}
    {given : List (Opt × List Char)} (names : ∀ option, holds (name option))
    (values : ∀ value, value ∈ given.map Prod.snd → holds value) :
    ∀ word, word ∈ words name given → holds word := by
  intro word member
  obtain ⟨⟨option, value⟩, here, same⟩ := List.mem_flatMap.mp member
  rcases List.mem_cons.mp same with rfl | same
  · exact names option
  · rw [List.mem_singleton.mp same]
    exact values value (List.mem_map_of_mem here)

theorem forall_trailing {holds : List Char → Prop}
    {command : List (List Char)} (ends : holds escape)
    (words : ∀ word, word ∈ command → holds word) :
    ∀ word, word ∈ trailing command → holds word := by
  intro word member
  rw [trailing] at member
  split_ifs at member with empty
  · cases member
  · rcases List.mem_cons.mp member with rfl | later
    · exact ends
    · exact words word later

/-! ## A reader -/

/-- Read options whose values are separate arguments. -/
def readArguments [DecidableEq Opt] (ofName : List Char → Option Opt) :
    List (List Char) → Option (Matches Opt)
  | [] => some ⟨[], []⟩
  | [last] => if last = escape then some ⟨[], []⟩ else none
  | first :: value :: rest =>
      if first = escape then some ⟨[], value :: rest⟩
      else do
        let option ← ofName first
        let later ← readArguments ofName rest
        if isFlag value || (later.given.map Prod.fst).contains option then none
        else some ⟨(option, value) :: later.given, later.command⟩

/-- Every option has a name of its own, which does not end the options. -/
structure Names (name : Opt → List Char)
    (ofName : List Char → Option Opt) : Prop where
  named : ∀ option, ofName (name option) = some option
  sound : ∀ text option, ofName text = some option → name option = text
  proper : ∀ option, name option ≠ escape

section Reader

variable [DecidableEq Opt] {ofName : List Char → Option Opt}

theorem readArguments_trailing (command : List (List Char)) :
    readArguments ofName (trailing command) = some ⟨[], command⟩ := by
  cases command with
  | nil => rfl
  | cons word command => simp [trailing, readArguments]

theorem readArguments_cons (names : Names name ofName) (option : Opt)
    (value : List Char) (rest : List (List Char)) :
    readArguments ofName (name option :: value :: rest) =
      (readArguments ofName rest).bind fun later =>
        if isFlag value || (later.given.map Prod.fst).contains option then none
        else some ⟨(option, value) :: later.given, later.command⟩ := by
  rw [readArguments, if_neg (names.proper option), names.named]
  rfl

theorem readArguments_refused (names : Names name ofName)
    {given : List (Opt × List Char)} {rest : List (List Char)}
    (refused : readArguments ofName rest = none) :
    readArguments ofName (words name given ++ rest) = none := by
  induction given with
  | nil => exact refused
  | cons head given ih =>
      change readArguments ofName
        (name head.1 :: head.2 :: (words name given ++ rest)) = none
      rw [readArguments_cons names, ih]
      rfl

theorem readArguments_options (names : Names name ofName)
    {given : List (Opt × List Char)} (command : List (List Char))
    (distinct : (given.map Prod.fst).Nodup)
    (values : ∀ value, value ∈ given.map Prod.snd → isFlag value = false) :
    readArguments ofName (words name given ++ trailing command) =
      some ⟨given, command⟩ := by
  induction given with
  | nil => exact readArguments_trailing command
  | cons head given ih =>
      obtain ⟨option, value⟩ := head
      rw [List.map_cons, List.nodup_cons] at distinct
      change readArguments ofName
        (name option :: value :: (words name given ++ trailing command)) = _
      have later := ih distinct.2 fun other member =>
        values other (List.mem_cons_of_mem value member)
      rw [readArguments_cons names, later, Option.bind_some,
        values value List.mem_cons_self]
      simpa using distinct.1

theorem readArguments_flagValue (names : Names name ofName) (option : Opt)
    {value : List Char} (flag : isFlag value = true)
    (rest : List (List Char)) :
    readArguments ofName (name option :: value :: rest) = none := by
  rw [readArguments_cons names, flag]
  cases readArguments ofName rest with
  | none => rfl
  | some later => rfl

theorem readArguments_provenance (names : Names name ofName)
    {arguments : List (List Char)} {result : Matches Opt}
    (done : readArguments ofName arguments = some result) :
    ∃ before, (arguments = before ∧ result.command = [] ∨
        arguments = before ++ escape :: result.command) ∧
      ∀ option value, (option, value) ∈ result.given →
        Occurs name before option value := by
  fun_induction readArguments ofName arguments generalizing result with
  | case1 =>
      obtain rfl := Option.some.inj done
      exact ⟨[], Or.inl ⟨rfl, rfl⟩, by simp⟩
  | case2 =>
      obtain rfl := Option.some.inj done
      exact ⟨[], Or.inr rfl, by simp⟩
  | case3 => cases done
  | case4 value rest =>
      obtain rfl := Option.some.inj done
      exact ⟨[], Or.inr rfl, by simp⟩
  | case5 first value rest other ih =>
      rw [Option.bind_eq_bind, Option.bind_eq_some_iff] at done
      obtain ⟨option, named, done⟩ := done
      rw [Option.bind_eq_bind, Option.bind_eq_some_iff] at done
      obtain ⟨later, read, done⟩ := done
      split_ifs at done
      obtain rfl := Option.some.inj done
      obtain rfl := names.sound first option named
      obtain ⟨before, ends, occurs⟩ := ih read
      refine ⟨name option :: value :: before, ?_, ?_⟩
      · rcases ends with ⟨rfl, none_⟩ | rfl
        · exact Or.inl ⟨rfl, none_⟩
        · exact Or.inr rfl
      · intro wanted found member
        rcases List.mem_cons.mp member with same | member
        · cases same
          exact Or.inl (List.prefix_append [name option, value] before).isInfix
        · rcases occurs wanted found member with separate | attached
          · exact Or.inl (separate.trans
              (List.suffix_append [name option, value] before).isInfix)
          · exact Or.inr (List.mem_append_right [name option, value] attached)

theorem reads_readArguments (names : Names name ofName) :
    Reads name (readArguments ofName) where
  options := fun _ command => readArguments_options names command
  flagValue := fun _ option _ rest _ flag => readArguments_refused names
    (readArguments_flagValue names option flag rest)
  missingValue := fun _ option _ => readArguments_refused names
    (if_neg (names.proper option))
  provenance := fun _ _ => readArguments_provenance names

end Reader

end Arguments

end RemoteWay.Base
