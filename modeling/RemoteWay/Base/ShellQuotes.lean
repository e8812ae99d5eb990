import RemoteWay.Base.Shell

/-!
# Quotations are removed

Every backslash, apostrophe and quotation mark that a shell reads outside of
quotations is removed, so a command receives fewer of them than the line
contains.  A line that contains none is only split.
-/

namespace RemoteWay.Base.Shell

/-! ## Counting quotation characters -/

def quotes (word : List Char) : Nat := word.countP isQuote

def quotesOf (words : List (List Char)) : Nat := quotes words.flatten

@[simp]
theorem quotes_nil : quotes [] = 0 := rfl

@[simp]
theorem quotes_append (first second : List Char) :
    quotes (first ++ second) = quotes first + quotes second :=
  List.countP_append

theorem quotes_cons (c : Char) (word : List Char) :
    quotes (c :: word) = quotes [c] + quotes word :=
  quotes_append [c] word

@[simp]
theorem quotesOf_nil : quotesOf [] = 0 := rfl

@[simp]
theorem quotesOf_cons (word : List Char) (words : List (List Char)) :
    quotesOf (word :: words) = quotes word + quotesOf words := by
  simp [quotesOf]

@[simp]
theorem quotesOf_append (first second : List (List Char)) :
    quotesOf (first ++ second) = quotesOf first + quotesOf second := by
  simp [quotesOf]

theorem quotes_joined (words : List (List Char)) :
    quotes (joined words) = quotesOf words := by
  induction words with
  | nil => rfl
  | cons word words ih =>
      cases words with
      | nil => simp [joined]
      | cons next words =>
          have space : quotes [' '] = 0 := by decide
          rw [joined_cons, quotes_append, quotes_cons, space, Nat.zero_add,
            ih]
          exact (quotesOf_cons word (next :: words)).symm

theorem quotes_eq_zero_iff {word : List Char} :
    quotes word = 0 ↔ ∀ c, c ∈ word → isQuote c = false := by
  simp [quotes, List.countP_eq_zero]

theorem quotes_of_ordinary {word : List Char}
    (ordinary : ∀ c, c ∈ word → isOrdinary c = true) : quotes word = 0 :=
  quotes_eq_zero_iff.mpr fun c member =>
    (isOrdinary_iff.mp (ordinary c member)).2.2.2

theorem quotesOf_of_plain {words : List (List Char)}
    (plain : ∀ word, word ∈ words → Plain word) : quotesOf words = 0 := by
  induction words with
  | nil => rfl
  | cons word words ih =>
      rw [quotesOf_cons,
        quotes_of_ordinary (plain word List.mem_cons_self).ordinary,
        ih fun other member => plain other (List.mem_cons_of_mem word member)]

/-! ## What the lexer produces -/

namespace Lexer

def produced (lexer : Lexer) : Nat :=
  quotesOf (lexer.words.map Token.text) +
    quotes (Token.text (lexer.current.getD []))

/-- Fewer quotation characters are produced than were read, if any were, and
those that are read but not yet decided upon are not counted. -/
def Removes (read : Nat) (lexer : Lexer) : Prop :=
  match lexer.mode with
  | .plain => lexer.produced ≤ read - 1
  | .comment => lexer.produced ≤ read - 1
  | .escaped => lexer.produced + 1 ≤ read
  | .single => lexer.produced + 1 ≤ read
  | .double => lexer.produced + 1 ≤ read
  | .doubleEscaped => lexer.produced + 2 ≤ read

variable {lexer next : Lexer} {c : Char} {read : Nat}

theorem produced_enter (lexer : Lexer) (mode : Mode) :
    (lexer.enter mode).produced = lexer.produced := rfl

theorem produced_openWord (lexer : Lexer) :
    lexer.openWord.produced = lexer.produced := rfl

theorem produced_push (lexer : Lexer) (c : Char) (quoted : Bool) :
    (lexer.push c quoted).produced = lexer.produced + quotes [c] := by
  simp [produced, push, Token.text, Nat.add_assoc]

theorem produced_flush (lexer : Lexer) :
    lexer.flush.produced = lexer.produced := by
  cases current : lexer.current with
  | none => simp [produced, flush, current]
  | some token => simp [produced, flush, current, Token.text]

theorem quotes_singleton_of_ne (notApostrophe : c ≠ apostrophe)
    (notQuotation : c ≠ quotationMark) (notBackslash : c ≠ backslash) :
    quotes [c] = 0 :=
  quotes_eq_zero_iff.mpr (by
    simp [isQuote_eq_false_iff, notApostrophe, notQuotation, notBackslash])

theorem Removes.step (removes : lexer.Removes read)
    (stepped : lexer.step c = some next) :
    next.Removes (read + quotes [c]) := by
  obtain ⟨mode, current, words⟩ := lexer
  have apostropheQuote : quotes [apostrophe] = 1 := by decide
  have quotationQuote : quotes [quotationMark] = 1 := by decide
  have backslashQuote : quotes [backslash] = 1 := by decide
  cases mode with
  | plain =>
      change produced _ ≤ read - 1 at removes
      simp only [Lexer.step] at stepped
      split_ifs at stepped with blank special comment single double escape
      · obtain rfl := Option.some.inj stepped
        change (flush _).produced ≤ _
        rw [produced_flush]
        omega
      · obtain rfl := Option.some.inj stepped
        change produced _ ≤ _
        rw [produced_enter]
        omega
      · obtain rfl := Option.some.inj stepped
        change produced _ + 1 ≤ _
        rw [produced_enter, produced_openWord, single, apostropheQuote]
        omega
      · obtain rfl := Option.some.inj stepped
        change produced _ + 1 ≤ _
        rw [produced_enter, produced_openWord, double, quotationQuote]
        omega
      · obtain rfl := Option.some.inj stepped
        change produced _ + 1 ≤ _
        rw [produced_enter, escape, backslashQuote]
        omega
      · obtain rfl := Option.some.inj stepped
        change produced _ ≤ _
        rw [produced_push, quotes_singleton_of_ne single double escape]
        omega
  | escaped =>
      change produced _ + 1 ≤ read at removes
      simp only [Lexer.step] at stepped
      split_ifs at stepped with newline
      · obtain rfl := Option.some.inj stepped
        change produced _ ≤ _
        rw [produced_enter]
        omega
      · obtain rfl := Option.some.inj stepped
        change produced _ ≤ _
        rw [produced_enter, produced_push]
        omega
  | single =>
      change produced _ + 1 ≤ read at removes
      simp only [Lexer.step] at stepped
      split_ifs at stepped with close
      · obtain rfl := Option.some.inj stepped
        change produced _ ≤ _
        rw [produced_enter]
        omega
      · obtain rfl := Option.some.inj stepped
        change produced _ + 1 ≤ _
        rw [produced_push]
        omega
  | double =>
      change produced _ + 1 ≤ read at removes
      simp only [Lexer.step] at stepped
      split_ifs at stepped with close expansion escape
      · obtain rfl := Option.some.inj stepped
        change produced _ ≤ _
        rw [produced_enter]
        omega
      · obtain rfl := Option.some.inj stepped
        change produced _ + 2 ≤ _
        rw [produced_enter, escape, backslashQuote]
        omega
      · obtain rfl := Option.some.inj stepped
        change produced _ + 1 ≤ _
        rw [produced_push]
        omega
  | doubleEscaped =>
      change produced _ + 2 ≤ read at removes
      simp only [Lexer.step] at stepped
      split_ifs at stepped with newline special
      · obtain rfl := Option.some.inj stepped
        change produced _ + 1 ≤ _
        rw [produced_enter]
        omega
      · obtain rfl := Option.some.inj stepped
        change produced _ + 1 ≤ _
        rw [produced_enter, produced_push]
        omega
      · obtain rfl := Option.some.inj stepped
        change produced _ + 1 ≤ _
        rw [produced_enter, produced_push, produced_push, backslashQuote]
        omega
  | comment =>
      change produced _ ≤ read - 1 at removes
      simp only [Lexer.step] at stepped
      split_ifs at stepped with newline
      obtain rfl := Option.some.inj stepped
      change produced _ ≤ _
      omega

theorem Removes.foldlM {line : List Char} (removes : lexer.Removes read)
    (done : line.foldlM Lexer.step lexer = some next) :
    next.Removes (read + quotes line) := by
  induction line generalizing lexer read with
  | nil =>
      rw [List.foldlM_nil] at done
      exact Option.some.inj done ▸ removes
  | cons c line ih =>
      rw [List.foldlM_cons, Option.bind_eq_bind, Option.bind_eq_some_iff]
        at done
      obtain ⟨middle, stepped, done⟩ := done
      rw [quotes_cons, ← Nat.add_assoc]
      exact ih (removes.step stepped) done

end Lexer

/-- The words of a line contain fewer quotation characters than the line, if
it contains any. -/
theorem quotesOf_tokens {line : List Char} {recognized : List Token}
    (done : tokens line = some recognized) :
    quotesOf (recognized.map Token.text) ≤ quotes line - 1 := by
  rw [tokens, Option.bind_eq_some_iff] at done
  obtain ⟨lexer, folded, finished⟩ := done
  have initially : Lexer.start.Removes 0 := Nat.le_refl 0
  have removes := initially.foldlM folded
  rw [Nat.zero_add] at removes
  obtain ⟨mode, current, words⟩ := lexer
  cases mode with
  | plain =>
      obtain rfl := Option.some.inj finished
      change Lexer.produced _ ≤ _ at removes
      rw [← Lexer.produced_flush] at removes
      exact removes
  | comment =>
      obtain rfl := Option.some.inj finished
      exact Nat.le_trans (Nat.le_add_right _ _) removes
  | escaped => cases finished
  | single => cases finished
  | double => cases finished
  | doubleEscaped => cases finished

/-! ## Lines without quotations -/

/-- An ordinary word, none of which is quoted. -/
def IsBare (token : Token) : Prop :=
  ∃ word, token = unquoted word ∧ word ≠ [] ∧
    (∀ c, c ∈ word → isOrdinary c = true) ∧ word.head? ≠ some '#'

namespace Lexer

/-- Nothing was quoted. -/
structure Unquoted (lexer : Lexer) : Prop where
  mode : lexer.mode = .plain ∨ lexer.mode = .comment
  current : ∀ token, lexer.current = some token → IsBare token
  words : ∀ token, token ∈ lexer.words → IsBare token

variable {lexer next : Lexer} {c : Char}

theorem Unquoted.flush (bare : lexer.Unquoted) : lexer.flush.Unquoted where
  mode := bare.mode
  current := fun token impossible => by cases impossible
  words := by
    intro token member
    rcases List.mem_append.mp member with old | new
    · exact bare.words token old
    · exact bare.current token (Option.mem_toList.mp new)

/-- A character that begins or continues a word. -/
theorem Unquoted.push (bare : lexer.Unquoted) (ordinary : isOrdinary c = true)
    (noComment : c = '#' → lexer.current ≠ none) :
    (lexer.push c false).Unquoted where
  mode := bare.mode
  current := by
    intro token pushed
    obtain rfl := Option.some.inj pushed
    cases held : lexer.current with
    | none =>
        refine ⟨[c], rfl, List.cons_ne_nil c [], ?_, ?_⟩
        · intro d member
          rw [List.mem_singleton.mp member]
          exact ordinary
        · intro comment
          exact noComment (Option.some.inj comment) held
    | some token =>
        obtain ⟨word, rfl, nonempty, rest, start⟩ := bare.current token held
        refine ⟨word ++ [c], by simp [unquoted], by simp, ?_, ?_⟩
        · intro d member
          rcases List.mem_append.mp member with old | new
          · exact rest d old
          · rw [List.mem_singleton.mp new]
            exact ordinary
        · rw [List.head?_append_of_ne_nil _ nonempty]
          exact start
  words := bare.words

theorem Unquoted.step (bare : lexer.Unquoted) (noQuote : isQuote c = false)
    (stepped : lexer.step c = some next) : next.Unquoted := by
  obtain ⟨notBackslash, notApostrophe, notQuotation⟩ :=
    isQuote_eq_false_iff.mp noQuote
  rcases bare.mode with plain | comment
  · simp only [Lexer.step, plain] at stepped
    split_ifs at stepped with blank special comment
    · obtain rfl := Option.some.inj stepped
      exact bare.flush
    · obtain rfl := Option.some.inj stepped
      exact ⟨Or.inr rfl, bare.current, bare.words⟩
    · obtain rfl := Option.some.inj stepped
      apply bare.push
      · rw [isOrdinary_iff]
        rw [Bool.not_eq_true] at blank special
        rw [Bool.or_eq_false_iff] at special
        exact ⟨blank, special.1, special.2, noQuote⟩
      · intro same none_
        exact comment (by simp [same, none_])
  · simp only [Lexer.step, comment] at stepped
    split_ifs at stepped
    obtain rfl := Option.some.inj stepped
    exact bare

end Lexer

theorem isBare_of_tokens {line : List Char} {recognized : List Token}
    (noQuotes : quotes line = 0) (done : tokens line = some recognized) :
    ∀ token, token ∈ recognized → IsBare token := by
  rw [tokens, Option.bind_eq_some_iff] at done
  obtain ⟨lexer, folded, finished⟩ := done
  have initially : Lexer.start.Unquoted :=
    ⟨Or.inl rfl, by simp [Lexer.start], by simp [Lexer.start]⟩
  have bare : lexer.Unquoted := foldlM_keeps
    (fun state c next member unquoted stepped =>
      unquoted.step (quotes_eq_zero_iff.mp noQuotes c member) stepped)
    initially folded
  rcases bare.mode with plain | comment
  · simp only [Lexer.finish, plain] at finished
    obtain rfl := Option.some.inj finished
    exact bare.flush.words
  · simp only [Lexer.finish, comment] at finished
    obtain rfl := Option.some.inj finished
    exact bare.words

/-! ### The first word -/

theorem Lexer.head?_step {lexer next : Lexer} {c : Char} {first : Token}
    (head : lexer.words.head? = some first)
    (stepped : lexer.step c = some next) :
    next.words.head? = some first := by
  obtain ⟨mode, current, words⟩ := lexer
  have flushed : (words ++ current.toList).head? = some first := by
    cases words with
    | nil => cases head
    | cons word words => exact head
  cases mode <;> simp only [Lexer.step] at stepped <;>
    split_ifs at stepped <;> obtain rfl := Option.some.inj stepped <;>
    first | exact head | exact flushed

/-- A line begins with its first word, when that is ordinary. -/
theorem head?_tokens {name : List Char} {words : List (List Char)}
    {recognized : List Token} (nonempty : name ≠ [])
    (ordinary : ∀ c, c ∈ name → isOrdinary c = true)
    (noComment : name.head? ≠ some '#')
    (done : tokens (joined (name :: words)) = some recognized) :
    recognized.head? = some (unquoted name) := by
  rw [tokens, Option.bind_eq_some_iff] at done
  obtain ⟨lexer, folded, finished⟩ := done
  cases words with
  | nil =>
      change name.foldlM Lexer.step ⟨.plain, none, []⟩ = _ at folded
      rw [foldlM_step_word nonempty ordinary noComment] at folded
      obtain rfl := Option.some.inj folded
      obtain rfl := Option.some.inj finished
      rfl
  | cons next words =>
      rw [joined_cons, List.foldlM_append, Lexer.start,
        foldlM_step_word nonempty ordinary noComment, Option.bind_eq_bind,
        Option.bind_some, List.foldlM_cons, step_space, Option.bind_eq_bind,
        Option.bind_some] at folded
      have head : lexer.words.head? = some (unquoted name) :=
        @foldlM_keeps _ _ _
          (fun lexer => lexer.words.head? = some (unquoted name)) _ _ _
          (fun _ _ _ _ => Lexer.head?_step) rfl folded
      obtain ⟨mode, current, complete⟩ := lexer
      cases mode with
      | plain =>
          obtain rfl := Option.some.inj finished
          cases complete with
          | nil => cases head
          | cons word complete => exact head
      | comment =>
          obtain rfl := Option.some.inj finished
          exact head
      | escaped => cases finished
      | single => cases finished
      | double => cases finished
      | doubleEscaped => cases finished

/-! ## What reaches a command unchanged -/

section Command

variable {line : List Char} {command : List (List Char)}

theorem simpleCommand_cases (run : simpleCommand line = some command) :
    ∃ recognized, tokens line = some recognized ∧
      recognized.all isLiteral = true ∧
      recognized.head?.any isReserved = false ∧
      (recognized.dropWhile isAssignment).map Token.text = command ∧
      command ≠ [] := by
  rw [simpleCommand, Option.bind_eq_bind, Option.bind_eq_some_iff] at run
  obtain ⟨recognized, lexed, run⟩ := run
  refine ⟨recognized, lexed, ?_⟩
  split_ifs at run with literal reserved
  rw [Bool.not_eq_true, Bool.not_eq_false'] at literal
  rw [Bool.not_eq_true] at reserved
  refine ⟨literal, reserved, ?_⟩
  cases kept : recognized.dropWhile isAssignment with
  | nil =>
      rw [kept] at run
      cases run
  | cons first rest =>
      rw [kept] at run
      obtain rfl := Option.some.inj run
      exact ⟨rfl, by simp⟩

/-- A command does not receive more quotation characters than its line
contains, and as many only if there are none. -/
theorem quotes_eq_zero_of_simpleCommand
    (run : simpleCommand line = some command)
    (kept : quotes line ≤ quotesOf command) : quotes line = 0 := by
  obtain ⟨recognized, lexed, _, _, rfl, _⟩ := simpleCommand_cases run
  have removed := quotesOf_tokens lexed
  have split := congrArg (fun tokens => quotesOf (tokens.map Token.text))
    (List.takeWhile_append_dropWhile (p := isAssignment) (l := recognized))
  simp only [List.map_append, quotesOf_append] at split
  omega

theorem plain_of_simpleCommand (noQuotes : quotes line = 0)
    (run : simpleCommand line = some command) :
    ∀ word, word ∈ command → Plain word := by
  obtain ⟨recognized, lexed, literal, _, rfl, _⟩ := simpleCommand_cases run
  intro word member
  obtain ⟨token, tokenMember, rfl⟩ := List.mem_map.mp member
  have recognizedMember := List.dropWhile_subset _ tokenMember
  obtain ⟨word, rfl, nonempty, ordinary, noComment⟩ :=
    isBare_of_tokens noQuotes lexed token recognizedMember
  rw [text_unquoted]
  exact ⟨nonempty, ordinary, noComment,
    List.all_eq_true.mp literal _ recognizedMember⟩

/-- The first word of a line is the name of its command only if it is neither
reserved nor an assignment. -/
theorem plainCommand_of_simpleCommand {name : List Char}
    {words arguments : List (List Char)}
    (noQuotes : quotes (joined (name :: words)) = 0)
    (run : simpleCommand (joined (name :: words)) =
      some (name :: arguments)) : PlainCommand name := by
  have plain := plain_of_simpleCommand noQuotes run name List.mem_cons_self
  obtain ⟨recognized, lexed, literal, reserved, same, _⟩ :=
    simpleCommand_cases run
  refine ⟨plain, ?_, ?_⟩
  · rw [head?_tokens plain.nonempty plain.ordinary plain.noComment lexed]
      at reserved
    exact reserved
  · cases kept : recognized.dropWhile isAssignment with
    | nil =>
        rw [kept] at same
        cases same
    | cons first rest =>
        rw [kept] at same
        have text := (List.cons.inj same).1
        obtain ⟨word, rfl, _⟩ := isBare_of_tokens noQuotes lexed first
          (List.dropWhile_subset _ (kept ▸ List.mem_cons_self))
        rw [text_unquoted] at text
        subst text
        have stopped := List.head?_dropWhile_not isAssignment recognized
        rw [kept] at stopped
        simpa using stopped

/-- What a command receives when nothing in its line is special. -/
theorem arguments_of_simpleCommand {name : List Char}
    {words arguments : List (List Char)} (command : PlainCommand name)
    (ordinary : ∀ word, word ∈ words → ∀ c, c ∈ word → isOrdinary c = true)
    (run : simpleCommand (joined (name :: words)) =
      some (name :: arguments)) : arguments = visible words := by
  obtain ⟨recognized, lexed, _, _, same, _⟩ := simpleCommand_cases run
  rw [tokens_joined] at lexed
  · obtain rfl := Option.some.inj lexed
    rw [visible_cons words command.nonempty command.noComment, List.map_cons,
      List.dropWhile_cons_of_neg (by simp [command.notAssignment])] at same
    have rest := (List.cons.inj same).2
    simpa [Function.comp_def, text_unquoted] using rest.symm
  · intro word member
    rcases List.mem_cons.mp member with rfl | later
    · exact command.ordinary
    · exact ordinary word later

end Command

end RemoteWay.Base.Shell
