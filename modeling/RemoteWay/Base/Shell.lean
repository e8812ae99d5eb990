import Mathlib.Algebra.Order.Monoid.Unbundled.Basic
import Mathlib.Data.List.Basic

/-!
# Command lines of a POSIX shell

The words of a command line after field splitting and quote removal, when the
line is one simple command.  There is no result when the shell does more than
that: operators, expansions, patterns, tildes and reserved words depend on
variables, files and users, or run other commands.
-/

namespace RemoteWay.Base.Shell

/-! ## Characters and tokens -/

def backslash : Char := Char.ofNat 92
def apostrophe : Char := Char.ofNat 39
def quotationMark : Char := Char.ofNat 34
def backtick : Char := Char.ofNat 96

def isBlank (c : Char) : Bool := c = ' ' || c = Char.ofNat 9

/-- A newline, the characters of control and redirection operators, and the
null character, which ends a command line. -/
def isOperator (c : Char) : Bool :=
  ['\n', '&', ';', '|', '<', '>', '(', ')', Char.ofNat 0].contains c

/-- Parameters, commands and arithmetic are expanded, also inside of double
quotes. -/
def isExpansion (c : Char) : Bool := c = '$' || c = backtick

def isQuote (c : Char) : Bool :=
  c = backslash || c = apostrophe || c = quotationMark

def isOrdinary (c : Char) : Bool :=
  !isBlank c && !isOperator c && !isExpansion c && !isQuote c

/-- The characters of a word, and whether they were quoted. -/
abbrev Token := List (Char × Bool)

def Token.text (token : Token) : List Char := token.map Prod.fst

def unquoted (word : List Char) : Token := word.map (·, false)

/-! ## Token recognition -/

inductive Mode where
  | plain
  | escaped
  | single
  | double
  | doubleEscaped
  | comment
  deriving DecidableEq, Repr

/-- The words that are complete, and the word that is read. -/
structure Lexer where
  mode : Mode
  current : Option Token
  words : List Token
  deriving DecidableEq

namespace Lexer

def start : Lexer := ⟨.plain, none, []⟩

def enter (lexer : Lexer) (mode : Mode) : Lexer :=
  { lexer with mode := mode }

/-- A quotation begins a word, even if nothing is quoted. -/
def openWord (lexer : Lexer) : Lexer :=
  { lexer with current := some (lexer.current.getD []) }

def push (lexer : Lexer) (c : Char) (quoted : Bool) : Lexer :=
  { lexer with current := some (lexer.current.getD [] ++ [(c, quoted)]) }

def flush (lexer : Lexer) : Lexer :=
  { lexer with
    current := none
    words := lexer.words ++ lexer.current.toList }

/-- Read one character. -/
def step (lexer : Lexer) (c : Char) : Option Lexer :=
  match lexer.mode with
  | .plain =>
      if isBlank c then some lexer.flush
      else if isOperator c || isExpansion c then none
      else if c = '#' && lexer.current.isNone then some (lexer.enter .comment)
      else if c = apostrophe then some (lexer.openWord.enter .single)
      else if c = quotationMark then some (lexer.openWord.enter .double)
      else if c = backslash then some (lexer.enter .escaped)
      else some (lexer.push c false)
  | .escaped =>
      -- an escaped newline continues the line
      if c = '\n' then some (lexer.enter .plain)
      else some ((lexer.push c true).enter .plain)
  | .single =>
      if c = apostrophe then some (lexer.enter .plain)
      else some (lexer.push c true)
  | .double =>
      if c = quotationMark then some (lexer.enter .plain)
      else if isExpansion c then none
      else if c = backslash then some (lexer.enter .doubleEscaped)
      else some (lexer.push c true)
  | .doubleEscaped =>
      if c = '\n' then some (lexer.enter .double)
      else if isExpansion c || c = quotationMark || c = backslash then
        some ((lexer.push c true).enter .double)
      else
        some (((lexer.push backslash true).push c true).enter .double)
  | .comment => if c = '\n' then none else some lexer

/-- Quotations must be closed. -/
def finish (lexer : Lexer) : Option (List Token) :=
  match lexer.mode with
  | .plain => some lexer.flush.words
  | .comment => some lexer.words
  | _ => none

end Lexer

def tokens (line : List Char) : Option (List Token) :=
  (line.foldlM Lexer.step .start).bind Lexer.finish

/-! ## Simple commands -/

def isTilde (token : Token) : Bool := token.head? = some ('~', false)

/-- A bracket that follows, before the next slash. -/
def closesBracket : Token → Bool
  | [] => false
  | (c, quoted) :: rest =>
      if c = '/' then false
      else if c = ']' && !quoted then true
      else closesBracket rest

/-- What follows an opening bracket makes it a bracket expression.  Its first
character does not close it. -/
def opensBracket : Token → Bool
  | ('!', false) :: (c, _) :: rest => c ≠ '/' && closesBracket rest
  | (c, _) :: rest => c ≠ '/' && closesBracket rest
  | [] => false

def isPattern : Token → Bool
  | [] => false
  | (c, quoted) :: rest =>
      (!quoted && (c = '*' || c = '?' || c = '[' && opensBracket rest)) ||
        isPattern rest

/-- The shell leaves the word as it is. -/
def isLiteral (token : Token) : Bool := !isTilde token && !isPattern token

/-- The reserved words, and those that some shells reserve. -/
def reservedWords : List String :=
  ["!", "\x7b", "\x7d", "case", "do", "done", "elif", "else", "esac", "fi",
    "for", "if", "in", "then", "until", "while", "[[", "]]", "function",
    "namespace", "select", "time"]

def isReserved (token : Token) : Bool :=
  reservedWords.any fun word => token = unquoted word.toList

/-- The characters of a name that is not quoted. -/
def isNameCharacter (character : Char × Bool) : Bool :=
  !character.2 && (character.1.isAlphanum || character.1 = '_')

/-- A name and an equality sign, neither of them quoted. -/
def isAssignment (token : Token) : Bool :=
  let name := token.takeWhile isNameCharacter
  (name.head?.any fun character => !character.1.isDigit) &&
    (token.drop name.length).head? = some ('=', false)

/-- The name and the arguments of the command that the shell runs. -/
def simpleCommand (line : List Char) : Option (List (List Char)) := do
  let recognized ← tokens line
  if !recognized.all isLiteral then none
  else if recognized.head?.any isReserved then none
  else
    match recognized.dropWhile isAssignment with
    | [] => none
    | command => some (command.map Token.text)

/-- Words with single spaces between them. -/
def joined : List (List Char) → List Char
  | [] => []
  | [word] => word
  | word :: words => word ++ ' ' :: joined words

theorem joined_cons (word next : List Char) (words : List (List Char)) :
    joined (word :: next :: words) = word ++ ' ' :: joined (next :: words) :=
  rfl

/-- A word that the shell neither splits nor changes. -/
structure Plain (word : List Char) : Prop where
  nonempty : word ≠ []
  ordinary : ∀ c, c ∈ word → isOrdinary c = true
  noComment : word.head? ≠ some '#'
  literal : isLiteral (unquoted word) = true

/-- A plain word that names a command. -/
structure PlainCommand (word : List Char) : Prop extends Plain word where
  notReserved : isReserved (unquoted word) = false
  notAssignment : isAssignment (unquoted word) = false

instance (word : List Char) : Decidable (Plain word) :=
  decidable_of_iff (word ≠ [] ∧ word.all isOrdinary = true ∧
      word.head? ≠ some '#' ∧ isLiteral (unquoted word) = true)
    ⟨fun ⟨nonempty, ordinary, noComment, literal⟩ =>
        ⟨nonempty, List.all_eq_true.mp ordinary, noComment, literal⟩,
      fun plain => ⟨plain.nonempty, List.all_eq_true.mpr plain.ordinary,
        plain.noComment, plain.literal⟩⟩

/-! ## Ordinary text -/

theorem foldlM_keeps {State Item : Type} {step : State → Item → Option State}
    {holds : State → Prop} {items : List Item} {before after : State}
    (kept : ∀ state item next, item ∈ items → holds state →
      step state item = some next → holds next)
    (initially : holds before)
    (done : items.foldlM step before = some after) : holds after := by
  induction items generalizing before with
  | nil =>
      rw [List.foldlM_nil] at done
      exact Option.some.inj done ▸ initially
  | cons item items ih =>
      rw [List.foldlM_cons, Option.bind_eq_bind, Option.bind_eq_some_iff]
        at done
      obtain ⟨middle, stepped, done⟩ := done
      exact ih (fun state later next member =>
          kept state later next (List.mem_cons_of_mem item member))
        (kept before item middle List.mem_cons_self initially stepped) done

section Ordinary

variable {c : Char} {word : List Char} {line : List Char}
variable {current : Token} {words : List Token}

theorem isOrdinary_iff :
    isOrdinary c = true ↔ isBlank c = false ∧ isOperator c = false ∧
      isExpansion c = false ∧ isQuote c = false := by
  simp [isOrdinary, and_assoc]

theorem isQuote_eq_false_iff :
    isQuote c = false ↔
      c ≠ backslash ∧ c ≠ apostrophe ∧ c ≠ quotationMark := by
  simp [isQuote, and_assoc]

theorem ne_newline_of_isOrdinary (ordinary : isOrdinary c = true) :
    c ≠ '\n' := by
  rintro rfl
  exact absurd ordinary (by decide)

/-- An ordinary character begins a comment or belongs to a word. -/
theorem step_ordinary (ordinary : isOrdinary c = true)
    (current : Option Token) (words : List Token) :
    Lexer.step ⟨.plain, current, words⟩ c =
      if c = '#' ∧ current = none then some ⟨.comment, current, words⟩
      else some (Lexer.push ⟨.plain, current, words⟩ c false) := by
  obtain ⟨blank, operator, expansion, quote⟩ := isOrdinary_iff.mp ordinary
  obtain ⟨notBackslash, notApostrophe, notQuotation⟩ :=
    isQuote_eq_false_iff.mp quote
  simp [Lexer.step, blank, operator, expansion, notBackslash, notApostrophe,
    notQuotation, Lexer.enter]

theorem foldlM_step_current
    (ordinary : ∀ c, c ∈ word → isOrdinary c = true) :
    word.foldlM Lexer.step ⟨.plain, some current, words⟩ =
      some ⟨.plain, some (current ++ unquoted word), words⟩ := by
  induction word generalizing current with
  | nil => simp [unquoted]
  | cons c word ih =>
      rw [List.foldlM_cons, step_ordinary (ordinary c List.mem_cons_self),
        if_neg (by simp)]
      simp only [Lexer.push, Option.getD_some, Option.bind_eq_bind,
        Option.bind_some]
      rw [ih fun d member => ordinary d (List.mem_cons_of_mem c member)]
      simp [unquoted]

/-- A word without special characters is read as it is. -/
theorem foldlM_step_word (nonempty : word ≠ [])
    (ordinary : ∀ c, c ∈ word → isOrdinary c = true)
    (noComment : word.head? ≠ some '#') :
    word.foldlM Lexer.step ⟨.plain, none, words⟩ =
      some ⟨.plain, some (unquoted word), words⟩ := by
  cases word with
  | nil => exact absurd rfl nonempty
  | cons c word =>
      have notHash : c ≠ '#' := fun same => noComment (congrArg some same)
      rw [List.foldlM_cons, step_ordinary (ordinary c List.mem_cons_self),
        if_neg fun both => notHash both.1]
      simp only [Lexer.push, Option.getD_none, Option.bind_eq_bind,
        Option.bind_some, List.nil_append]
      rw [foldlM_step_current fun d member =>
        ordinary d (List.mem_cons_of_mem c member)]
      rfl

theorem foldlM_step_comment {current : Option Token}
    (oneLine : '\n' ∉ line) :
    line.foldlM Lexer.step ⟨.comment, current, words⟩ =
      some ⟨.comment, current, words⟩ := by
  induction line with
  | nil => rfl
  | cons c line ih =>
      rw [List.mem_cons, not_or] at oneLine
      have stays : Lexer.step ⟨.comment, current, words⟩ c =
          some ⟨.comment, current, words⟩ := if_neg (Ne.symm oneLine.1)
      rw [List.foldlM_cons, stays]
      exact ih oneLine.2

theorem step_space (current : Option Token) (words : List Token) :
    Lexer.step ⟨.plain, current, words⟩ ' ' =
      some ⟨.plain, none, words ++ current.toList⟩ := rfl

theorem newline_notMem_joined {parts : List (List Char)}
    (ordinary : ∀ part, part ∈ parts → ∀ c, c ∈ part →
      isOrdinary c = true) : '\n' ∉ joined parts := by
  induction parts with
  | nil => exact List.not_mem_nil
  | cons part parts ih =>
      have here : '\n' ∉ part := fun member => ne_newline_of_isOrdinary
        (ordinary part List.mem_cons_self _ member) rfl
      have rest := ih fun other member =>
        ordinary other (List.mem_cons_of_mem part member)
      cases parts with
      | nil => exact here
      | cons next parts =>
          simp only [joined, List.mem_append, List.mem_cons, not_or]
            at rest ⊢
          exact ⟨here, by decide, rest⟩

/-- What is left of words: empty ones vanish, and a comment ends the line. -/
def visible (parts : List (List Char)) : List (List Char) :=
  (parts.filter fun part => !part.isEmpty).takeWhile fun part =>
    part.head? ≠ some '#'

theorem visible_cons_nil (parts : List (List Char)) :
    visible ([] :: parts) = visible parts := rfl

theorem visible_cons_comment {part : List Char} (parts : List (List Char))
    (comment : part.head? = some '#') : visible (part :: parts) = [] := by
  cases part with
  | nil => cases comment
  | cons c part => simp_all [visible]

theorem visible_cons {part : List Char} (parts : List (List Char))
    (nonempty : part ≠ []) (noComment : part.head? ≠ some '#') :
    visible (part :: parts) = part :: visible parts := by
  cases part with
  | nil => exact absurd rfl nonempty
  | cons c part => simp_all [visible]

/-- The tokens of joined words without special characters. -/
theorem tokens_joined_from {parts : List (List Char)}
    (ordinary : ∀ part, part ∈ parts → ∀ c, c ∈ part →
      isOrdinary c = true) :
    ((joined parts).foldlM Lexer.step ⟨.plain, none, words⟩).bind
        Lexer.finish =
      some (words ++ (visible parts).map unquoted) := by
  induction parts generalizing words with
  | nil => simp [joined, Lexer.finish, Lexer.flush, visible]
  | cons part parts ih =>
      have here := ordinary part List.mem_cons_self
      have later : ∀ other, other ∈ parts → ∀ c, c ∈ other →
          isOrdinary c = true :=
        fun other member => ordinary other (List.mem_cons_of_mem part member)
      by_cases comment : part.head? = some '#'
      · -- the rest of the line is a comment
        have oneLine := newline_notMem_joined ordinary
        obtain ⟨rest, same⟩ : ∃ rest, joined (part :: parts) =
            '#' :: rest := by
          cases part with
          | nil => cases comment
          | cons c part =>
              obtain rfl : c = '#' := Option.some.inj comment
              cases parts with
              | nil => exact ⟨part, rfl⟩
              | cons next parts => exact ⟨_, rfl⟩
        rw [same] at oneLine ⊢
        have begins : Lexer.step ⟨.plain, none, words⟩ '#' =
            some ⟨.comment, none, words⟩ := rfl
        rw [visible_cons_comment parts comment, List.foldlM_cons, begins,
          Option.bind_eq_bind, Option.bind_some,
          foldlM_step_comment fun member =>
            oneLine (List.mem_cons_of_mem _ member)]
        simp [Lexer.finish]
      · cases parts with
        | nil =>
            by_cases empty : part = []
            · simp [empty, joined, Lexer.finish, Lexer.flush, visible]
            · rw [joined, foldlM_step_word empty here comment,
                visible_cons _ empty comment]
              simp [Lexer.finish, Lexer.flush, visible]
        | cons next parts =>
            rw [joined_cons, List.foldlM_append]
            by_cases empty : part = []
            · subst empty
              rw [List.foldlM_nil, visible_cons_nil, ← ih later,
                Option.pure_def, Option.bind_eq_bind, Option.bind_some,
                List.foldlM_cons, step_space]
              simp
            · rw [foldlM_step_word empty here comment,
                visible_cons _ empty comment, Option.bind_eq_bind,
                Option.bind_some, List.foldlM_cons, step_space,
                Option.bind_eq_bind, Option.bind_some, ih later]
              simp

theorem tokens_joined {parts : List (List Char)}
    (ordinary : ∀ part, part ∈ parts → ∀ c, c ∈ part →
      isOrdinary c = true) :
    tokens (joined parts) = some ((visible parts).map unquoted) :=
  tokens_joined_from ordinary

theorem visible_append {first : List (List Char)}
    (plain : ∀ part, part ∈ first → Plain part)
    (second : List (List Char)) :
    visible (first ++ second) = first ++ visible second := by
  induction first with
  | nil => rfl
  | cons part parts ih =>
      have here := plain part List.mem_cons_self
      rw [List.cons_append, visible_cons _ here.nonempty here.noComment,
        ih fun other member => plain other (List.mem_cons_of_mem _ member),
        List.cons_append]

theorem visible_of_plain {parts : List (List Char)}
    (plain : ∀ part, part ∈ parts → Plain part) :
    visible parts = parts := by
  simpa [visible] using visible_append plain []

theorem text_unquoted (word : List Char) : (unquoted word).text = word := by
  simp [Token.text, unquoted, Function.comp_def]

/-- Plain words reach the command as they are. -/
theorem simpleCommand_joined {name : List Char}
    {arguments : List (List Char)} (command : PlainCommand name)
    (plain : ∀ part, part ∈ arguments → Plain part) :
    simpleCommand (joined (name :: arguments)) =
      some (name :: arguments) := by
  have all : ∀ part, part ∈ name :: arguments → Plain part := by
    intro part member
    rcases List.mem_cons.mp member with rfl | later
    · exact command.toPlain
    · exact plain part later
  have literal : ((name :: arguments).map unquoted).all isLiteral = true := by
    rw [List.all_map, List.all_eq_true]
    exact fun part member => (all part member).literal
  have ordinary : ∀ part, part ∈ name :: arguments → ∀ c, c ∈ part →
      isOrdinary c = true := fun part member => (all part member).ordinary
  rw [simpleCommand, tokens_joined ordinary, visible_of_plain all]
  simp only [Option.bind_eq_bind, Option.bind_some, literal]
  simp [command.notReserved, command.notAssignment, text_unquoted,
    Function.comp_def]

/-! ### Words of letters and digits -/

theorem ne_of_isAlphanum {d : Char} (alphanum : c.isAlphanum = true)
    (special : d.isAlphanum = false) : c ≠ d := by
  rintro rfl
  rw [alphanum] at special
  cases special

theorem isOrdinary_of_isAlphanum (alphanum : c.isAlphanum = true) :
    isOrdinary c = true := by
  have other := fun d => @ne_of_isAlphanum c d alphanum
  rw [isOrdinary_iff, isQuote_eq_false_iff]
  refine ⟨?_, ?_, ?_, other _ (by decide), other _ (by decide),
    other _ (by decide)⟩
  · simp [isBlank, other ' ' (by decide),
      other (Char.ofNat 9) (by decide)]
  · simp [isOperator, other _ (show '\n'.isAlphanum = false by decide),
      other '&' (by decide), other ';' (by decide), other '|' (by decide),
      other '<' (by decide), other '>' (by decide), other '(' (by decide),
      other ')' (by decide), other (Char.ofNat 0) (by decide)]
  · simp [isExpansion, other '$' (by decide), other backtick (by decide)]

theorem isPattern_unquoted (word : List Char)
    (noPattern : ∀ c, c ∈ word → c ≠ '*' ∧ c ≠ '?' ∧ c ≠ '[') :
    isPattern (unquoted word) = false := by
  induction word with
  | nil => rfl
  | cons c word ih =>
      obtain ⟨star, question, bracket⟩ := noPattern c List.mem_cons_self
      have rest := ih fun d member =>
        noPattern d (List.mem_cons_of_mem c member)
      change isPattern ((c, false) :: unquoted word) = false
      simp [isPattern, star, question, bracket, rest]

/-- Letters, digits, points and hyphens mean nothing to the shell. -/
theorem plain_of_characters (nonempty : word ≠ [])
    (characters : ∀ c, c ∈ word →
      c.isAlphanum = true ∨ c = '.' ∨ c = '-') : Plain word := by
  have other : ∀ c, c ∈ word → ∀ d : Char, d.isAlphanum = false →
      d ≠ '.' → d ≠ '-' → c ≠ d := by
    intro c member d special point hyphen
    rcases characters c member with alphanum | rfl | rfl
    · exact ne_of_isAlphanum alphanum special
    · exact Ne.symm point
    · exact Ne.symm hyphen
  have head : ∀ d : Char, d.isAlphanum = false → d ≠ '.' → d ≠ '-' →
      word.head? ≠ some d := fun d special point hyphen same =>
    other d (List.mem_of_head? same) d special point hyphen rfl
  refine ⟨nonempty, ?_, head '#' (by decide) (by decide) (by decide), ?_⟩
  · intro c member
    rcases characters c member with alphanum | rfl | rfl
    · exact isOrdinary_of_isAlphanum alphanum
    · decide
    · decide
  · have noTilde : isTilde (unquoted word) = false := by
      have first := head '~' (by decide) (by decide) (by decide)
      cases word with
      | nil => rfl
      | cons c word => simpa [isTilde, unquoted] using first
    have noPattern := isPattern_unquoted word fun c member =>
      ⟨other c member '*' (by decide) (by decide) (by decide),
        other c member '?' (by decide) (by decide) (by decide),
        other c member '[' (by decide) (by decide) (by decide)⟩
    simp [isLiteral, noTilde, noPattern]

end Ordinary

example : simpleCommand "run 'a b' c\\ d # e".toList =
    some ["run".toList, "a b".toList, "c d".toList] := by decide +kernel

end RemoteWay.Base.Shell
