import Mathlib.Data.List.Basic

/-!
# Scanning a byte stream that arrives in pieces

A `Scanner` classifies the front of a buffer: a whole token, a prefix of one
that needs more input, or a failure.  Its laws say that further input never
changes a verdict that has been reached.  `drain` takes all whole tokens off
a buffer; `feed` appends one piece of input and drains; `feedAll` feeds
pieces until the first failure and hands the tokens to a consumer with a
state of its own.

The results: a run that meets no failure consumes exactly the tokens of the
joined input, whatever the pieces are; the failure of a run is the failure of
the joined input; and the items of the piece that fails are withheld.
-/

namespace RemoteWay.Base

universe u v w

/-- The verdict on the front of a buffer. -/
inductive Scan (token : Type v) (failure : Type w) where
  | more
  | token (value : token)
  | fail (reason : failure)

/-- A scanner with the bytes each token is written with. -/
structure Scanner (beta : Type u) (token : Type v) (failure : Type w) where
  scan : List beta → Scan token failure
  encode : token → List beta
  scan_nil : scan [] = .more
  front : ∀ {buffer value},
    scan buffer = .token value → encode value <+: buffer
  tight : ∀ {buffer value},
    scan buffer = .token value → scan (encode value) = .token value
  token_stable : ∀ {buffer value} (more : List beta),
    scan buffer = .token value → scan (buffer ++ more) = .token value
  fail_stable : ∀ {buffer reason} (more : List beta),
    scan buffer = .fail reason → scan (buffer ++ more) = .fail reason

/-- All whole tokens at the front of a buffer, what is left of it, and the
failure met there, if any. -/
structure Drained (beta : Type u) (token : Type v) (failure : Type w) where
  tokens : List token
  rest : List beta
  stop : Option failure

namespace Scanner

variable {beta : Type u} {token : Type v} {failure : Type w}
variable (scanner : Scanner beta token failure)

/-! ## Draining a buffer -/

/-- Each token takes at least one element off the buffer, so a buffer is
drained after at most `buffer.length + 1` rounds. -/
def drainRounds : Nat → List beta → Drained beta token failure
  | 0, buffer => ⟨[], buffer, none⟩
  | rounds + 1, buffer =>
      match scanner.scan buffer with
      | .more => ⟨[], buffer, none⟩
      | .fail reason => ⟨[], buffer, some reason⟩
      | .token value =>
          let later := drainRounds rounds
            (buffer.drop (scanner.encode value).length)
          ⟨value :: later.tokens, later.rest, later.stop⟩

def drain (buffer : List beta) : Drained beta token failure :=
  scanner.drainRounds (buffer.length + 1) buffer

theorem encode_ne_nil {buffer : List beta} {value : token}
    (scanned : scanner.scan buffer = .token value) :
    scanner.encode value ≠ [] := by
  intro empty
  have whole := scanner.tight scanned
  rw [empty, scanner.scan_nil] at whole
  cases whole

theorem length_drop_lt {buffer : List beta} {value : token}
    (scanned : scanner.scan buffer = .token value) :
    (buffer.drop (scanner.encode value).length).length <
      buffer.length := by
  have inside := (scanner.front scanned).length_le
  have positive :=
    List.length_pos_iff.mpr (scanner.encode_ne_nil scanned)
  rw [List.length_drop]
  omega

private theorem drainRounds_congr :
    ∀ (rounds others : Nat) (buffer : List beta),
      buffer.length < rounds → buffer.length < others →
        scanner.drainRounds rounds buffer =
          scanner.drainRounds others buffer
  | 0, _, _, short, _ => absurd short (Nat.not_lt_zero _)
  | _ + 1, 0, _, _, short => absurd short (Nat.not_lt_zero _)
  | rounds + 1, others + 1, buffer, shortRounds, shortOthers => by
      rw [drainRounds, drainRounds]
      cases scanned : scanner.scan buffer with
      | more => rfl
      | fail reason => rfl
      | token value =>
          have shorter := scanner.length_drop_lt scanned
          dsimp only
          rw [drainRounds_congr rounds others _ (by omega) (by omega)]

theorem drain_of_more {buffer : List beta}
    (scanned : scanner.scan buffer = .more) :
    scanner.drain buffer = ⟨[], buffer, none⟩ := by
  rw [drain, drainRounds, scanned]

theorem drain_of_fail {buffer : List beta} {reason : failure}
    (scanned : scanner.scan buffer = .fail reason) :
    scanner.drain buffer = ⟨[], buffer, some reason⟩ := by
  rw [drain, drainRounds, scanned]

theorem drain_of_token {buffer : List beta} {value : token}
    (scanned : scanner.scan buffer = .token value) :
    scanner.drain buffer =
      let later :=
        scanner.drain (buffer.drop (scanner.encode value).length)
      ⟨value :: later.tokens, later.rest, later.stop⟩ := by
  have shorter := scanner.length_drop_lt scanned
  rw [drain, drainRounds, scanned]
  dsimp only
  rw [drain, scanner.drainRounds_congr buffer.length
    ((buffer.drop (scanner.encode value).length).length + 1) _
    shorter (Nat.lt_succ_self _)]

/-- Induction on the tokens that are taken off a buffer. -/
theorem drain_induction {motive : List beta → Prop}
    (more : ∀ buffer, scanner.scan buffer = .more → motive buffer)
    (fail : ∀ buffer reason,
      scanner.scan buffer = .fail reason → motive buffer)
    (token : ∀ buffer value, scanner.scan buffer = .token value →
      motive (buffer.drop (scanner.encode value).length) →
        motive buffer) :
    ∀ buffer, motive buffer := by
  intro buffer
  induction bufferLength : buffer.length using Nat.strongRecOn
    generalizing buffer with
  | ind length inductionHypothesis =>
      cases scanned : scanner.scan buffer with
      | more => exact more buffer scanned
      | fail reason => exact fail buffer reason scanned
      | token value =>
          have shorter := scanner.length_drop_lt scanned
          exact token buffer value scanned <|
            inductionHypothesis _ (bufferLength ▸ shorter) _ rfl

/-- The drained tokens and the rest are the buffer. -/
theorem flatMap_encode_append_rest (buffer : List beta) :
    (scanner.drain buffer).tokens.flatMap scanner.encode ++
        (scanner.drain buffer).rest = buffer := by
  induction buffer using scanner.drain_induction with
  | more buffer scanned =>
      rw [scanner.drain_of_more scanned]
      rfl
  | fail buffer reason scanned =>
      rw [scanner.drain_of_fail scanned]
      rfl
  | token buffer value scanned inductionHypothesis =>
      rw [scanner.drain_of_token scanned]
      dsimp only
      rw [List.flatMap_cons, List.append_assoc, inductionHypothesis]
      obtain ⟨later, rfl⟩ := scanner.front scanned
      rw [List.drop_left]

/-- Without a failure, the rest is a prefix that waits for more input. -/
theorem scan_rest_of_stop_none (buffer : List beta)
    (finished : (scanner.drain buffer).stop = none) :
    scanner.scan (scanner.drain buffer).rest = .more := by
  induction buffer using scanner.drain_induction with
  | more buffer scanned =>
      rw [scanner.drain_of_more scanned]
      exact scanned
  | fail buffer reason scanned =>
      rw [scanner.drain_of_fail scanned] at finished
      cases finished
  | token buffer value scanned inductionHypothesis =>
      rw [scanner.drain_of_token scanned] at finished ⊢
      exact inductionHypothesis finished

/-- Input after a failure changes neither the tokens nor the failure. -/
theorem drain_append_of_stop_some (buffer more : List beta)
    {reason : failure}
    (stopped : (scanner.drain buffer).stop = some reason) :
    (scanner.drain (buffer ++ more)).tokens =
        (scanner.drain buffer).tokens ∧
      (scanner.drain (buffer ++ more)).stop = some reason := by
  induction buffer using scanner.drain_induction with
  | more buffer scanned =>
      rw [scanner.drain_of_more scanned] at stopped
      cases stopped
  | fail buffer other scanned =>
      rw [scanner.drain_of_fail scanned] at stopped
      rw [scanner.drain_of_fail scanned,
        scanner.drain_of_fail (scanner.fail_stable more scanned)]
      exact ⟨rfl, stopped⟩
  | token buffer value scanned inductionHypothesis =>
      have inside := (scanner.front scanned).length_le
      rw [scanner.drain_of_token scanned] at stopped
      rw [scanner.drain_of_token scanned,
        scanner.drain_of_token (scanner.token_stable more scanned),
        List.drop_append_of_le_length inside]
      obtain ⟨sameTokens, sameStop⟩ := inductionHypothesis stopped
      exact ⟨congrArg (value :: ·) sameTokens, sameStop⟩

/-- Without a failure, draining resumes from the rest. -/
theorem drain_append_of_stop_none (buffer more : List beta)
    (finished : (scanner.drain buffer).stop = none) :
    scanner.drain (buffer ++ more) =
      let later := scanner.drain ((scanner.drain buffer).rest ++ more)
      ⟨(scanner.drain buffer).tokens ++ later.tokens, later.rest,
        later.stop⟩ := by
  induction buffer using scanner.drain_induction with
  | more buffer scanned =>
      rw [scanner.drain_of_more scanned]
      rfl
  | fail buffer reason scanned =>
      rw [scanner.drain_of_fail scanned] at finished
      cases finished
  | token buffer value scanned inductionHypothesis =>
      have inside := (scanner.front scanned).length_le
      rw [scanner.drain_of_token scanned] at finished
      rw [scanner.drain_of_token scanned,
        scanner.drain_of_token (scanner.token_stable more scanned),
        List.drop_append_of_le_length inside,
        inductionHypothesis finished]
      rfl

/-- Scannable tokens at the front of a buffer are taken off it. -/
theorem drain_flatMap_encode_append :
    ∀ (tokens : List token) (rest : List beta),
      (∀ value, value ∈ tokens →
        scanner.scan (scanner.encode value) = .token value) →
        scanner.drain (tokens.flatMap scanner.encode ++ rest) =
          let later := scanner.drain rest
          ⟨tokens ++ later.tokens, later.rest, later.stop⟩
  | [], _, _ => rfl
  | value :: tokens, rest, scannable => by
      have scanned := scanner.token_stable
        (tokens.flatMap scanner.encode ++ rest)
        (scannable value List.mem_cons_self)
      have tail := drain_flatMap_encode_append tokens rest
        (fun later member =>
          scannable later (List.mem_cons_of_mem value member))
      rw [List.flatMap_cons, List.append_assoc,
        scanner.drain_of_token scanned, List.drop_left, tail]
      rfl

/-- The encodings of scannable tokens drain to exactly these tokens. -/
theorem drain_flatMap_encode (tokens : List token) (rest : List beta)
    (scannable : ∀ value, value ∈ tokens →
      scanner.scan (scanner.encode value) = .token value)
    (waiting : scanner.scan rest = .more) :
    scanner.drain (tokens.flatMap scanner.encode ++ rest) =
      ⟨tokens, rest, none⟩ := by
  rw [scanner.drain_flatMap_encode_append tokens rest scannable,
    scanner.drain_of_more waiting]
  simp

/-- A front part of the encodings of scannable tokens drains to the first of
them, and what is left encodes the others. -/
theorem drain_of_append_eq_flatMap_encode {buffer more : List beta}
    {tokens : List token}
    (scannable : ∀ value, value ∈ tokens →
      scanner.scan (scanner.encode value) = .token value)
    (whole : buffer ++ more = tokens.flatMap scanner.encode) :
    ∃ later, (scanner.drain buffer).stop = none ∧
      tokens = (scanner.drain buffer).tokens ++ later ∧
      (scanner.drain buffer).rest ++ more =
        later.flatMap scanner.encode := by
  have all : scanner.drain (buffer ++ more) = ⟨tokens, [], none⟩ := by
    rw [whole, ← List.append_nil (tokens.flatMap scanner.encode)]
    exact scanner.drain_flatMap_encode tokens [] scannable scanner.scan_nil
  cases stop : (scanner.drain buffer).stop with
  | some reason =>
      obtain ⟨_, stopped⟩ := scanner.drain_append_of_stop_some buffer more
        stop
      rw [all] at stopped
      cases stopped
  | none =>
      have resumed := scanner.drain_append_of_stop_none buffer more stop
      rw [all] at resumed
      injection resumed with tokensEq restEq _
      refine ⟨_, rfl, tokensEq, ?_⟩
      have joined := scanner.flatMap_encode_append_rest
        ((scanner.drain buffer).rest ++ more)
      rw [← restEq, List.append_nil] at joined
      exact joined.symm

/-- Drained tokens are scannable. -/
theorem scan_encode_of_mem_tokens (buffer : List beta) :
    ∀ value, value ∈ (scanner.drain buffer).tokens →
      scanner.scan (scanner.encode value) = .token value := by
  induction buffer using scanner.drain_induction with
  | more buffer scanned =>
      rw [scanner.drain_of_more scanned]
      simp
  | fail buffer reason scanned =>
      rw [scanner.drain_of_fail scanned]
      simp
  | token buffer value scanned inductionHypothesis =>
      rw [scanner.drain_of_token scanned]
      intro tested member
      rcases List.mem_cons.mp member with rfl | later
      · exact scanner.tight scanned
      · exact inductionHypothesis tested later

/-- A drained buffer stops where its rest does. -/
theorem scan_rest_of_stop_some (buffer : List beta) {reason : failure}
    (stopped : (scanner.drain buffer).stop = some reason) :
    scanner.scan (scanner.drain buffer).rest = .fail reason := by
  induction buffer using scanner.drain_induction with
  | more buffer scanned =>
      rw [scanner.drain_of_more scanned] at stopped
      cases stopped
  | fail buffer other scanned =>
      rw [scanner.drain_of_fail scanned] at stopped ⊢
      injection stopped with same
      rw [← same]
      exact scanned
  | token buffer value scanned inductionHypothesis =>
      rw [scanner.drain_of_token scanned] at stopped ⊢
      exact inductionHypothesis stopped

/-! ## Feeding pieces to a consumer -/

section Feeding

universe x y

variable {state : Type x} {item : Type y}
variable (react : state → token → state × List item)

/-- Hand tokens to the consumer one after the other. -/
def reactAll : state → List token → state × List item
  | current, [] => (current, [])
  | current, value :: tokens =>
      let first := react current value
      let later := reactAll first.1 tokens
      (later.1, first.2 ++ later.2)

theorem reactAll_append :
    ∀ (current : state) (first second : List token),
      reactAll react current (first ++ second) =
        let left := reactAll react current first
        let right := reactAll react left.1 second
        (right.1, left.2 ++ right.2)
  | _, [], _ => rfl
  | current, value :: first, second => by
      rw [List.cons_append, reactAll, reactAll,
        reactAll_append (react current value).1 first second]
      simp only [List.append_assoc]

/-- Append one piece to the buffer, drain it and hand on the tokens.  The
items of a piece that fails are withheld. -/
def feed (buffer : List beta) (current : state) (piece : List beta) :
    (List beta × state) × Except failure (List item) :=
  let drained := scanner.drain (buffer ++ piece)
  let reacted := reactAll react current drained.tokens
  ((drained.rest, reacted.1),
    match drained.stop with
    | none => .ok reacted.2
    | some reason => .error reason)

/-- Feed pieces until the first failure. -/
def feedAll : List beta → state → List (List beta) →
    (List beta × state) × List item × Option failure
  | buffer, current, [] => ((buffer, current), [], none)
  | buffer, current, piece :: pieces =>
      match scanner.feed react buffer current piece with
      | (after, .error reason) => (after, [], some reason)
      | (after, .ok items) =>
          let later := feedAll after.1 after.2 pieces
          (later.1, items ++ later.2.1, later.2.2)

theorem feedAll_cons_of_stop_none {buffer : List beta} {current : state}
    {piece : List beta} (pieces : List (List beta))
    (finished : (scanner.drain (buffer ++ piece)).stop = none) :
    scanner.feedAll react buffer current (piece :: pieces) =
      let drained := scanner.drain (buffer ++ piece)
      let reacted := reactAll react current drained.tokens
      let later :=
        scanner.feedAll react drained.rest reacted.1 pieces
      (later.1, reacted.2 ++ later.2.1, later.2.2) := by
  rw [feedAll, feed]
  simp only [finished]

theorem feedAll_cons_of_stop_some {buffer : List beta} {current : state}
    {piece : List beta} (pieces : List (List beta)) {reason : failure}
    (stopped : (scanner.drain (buffer ++ piece)).stop = some reason) :
    (scanner.feedAll react buffer current (piece :: pieces)).2 =
      ([], some reason) := by
  rw [feedAll, feed]
  simp only [stopped]

/-- The failure of a run is that of the joined input. -/
theorem feedAll_failure :
    ∀ (pieces : List (List beta)) (buffer : List beta) (current : state),
      scanner.scan buffer = .more →
        (scanner.feedAll react buffer current pieces).2.2 =
          (scanner.drain (buffer ++ pieces.flatten)).stop
  | [], buffer, _, waiting => by
      rw [List.flatten_nil, List.append_nil,
        scanner.drain_of_more waiting]
      rfl
  | piece :: pieces, buffer, current, _ => by
      rw [List.flatten_cons, ← List.append_assoc]
      cases stop : (scanner.drain (buffer ++ piece)).stop with
      | some reason =>
          rw [scanner.feedAll_cons_of_stop_some react pieces stop,
            (scanner.drain_append_of_stop_some _ _ stop).2]
      | none =>
          rw [scanner.feedAll_cons_of_stop_none react pieces stop,
            scanner.drain_append_of_stop_none _ _ stop]
          exact feedAll_failure pieces _ _
            (scanner.scan_rest_of_stop_none _ stop)

/-- A run without failure has handed on exactly the tokens of the joined
input, and is left with its rest. -/
theorem feedAll_of_stop_none :
    ∀ (pieces : List (List beta)) (buffer : List beta) (current : state),
      scanner.scan buffer = .more →
      (scanner.drain (buffer ++ pieces.flatten)).stop = none →
        scanner.feedAll react buffer current pieces =
          let drained := scanner.drain (buffer ++ pieces.flatten)
          let reacted := reactAll react current drained.tokens
          ((drained.rest, reacted.1), reacted.2, none)
  | [], buffer, current, waiting, _ => by
      rw [List.flatten_nil, List.append_nil,
        scanner.drain_of_more waiting]
      rfl
  | piece :: pieces, buffer, current, _, finished => by
      rw [List.flatten_cons, ← List.append_assoc] at finished ⊢
      cases stop : (scanner.drain (buffer ++ piece)).stop with
      | some reason =>
          have later :=
            (scanner.drain_append_of_stop_some _ pieces.flatten stop).2
          rw [later] at finished
          cases finished
      | none =>
          rw [scanner.drain_append_of_stop_none _ _ stop] at finished ⊢
          rw [scanner.feedAll_cons_of_stop_none react pieces stop]
          dsimp only
          rw [feedAll_of_stop_none pieces _ _
              (scanner.scan_rest_of_stop_none _ stop) finished]
          simp only [reactAll_append]

/-- Whatever a run hands on comes from the front of the joined input. -/
theorem feedAll_items_prefix :
    ∀ (pieces : List (List beta)) (buffer : List beta) (current : state),
      scanner.scan buffer = .more →
        (scanner.feedAll react buffer current pieces).2.1 <+:
          (reactAll react current
            (scanner.drain (buffer ++ pieces.flatten)).tokens).2
  | [], _, _, _ => List.nil_prefix
  | piece :: pieces, buffer, current, _ => by
      rw [List.flatten_cons, ← List.append_assoc]
      cases stop : (scanner.drain (buffer ++ piece)).stop with
      | some reason =>
          rw [scanner.feedAll_cons_of_stop_some react pieces stop]
          exact List.nil_prefix
      | none =>
          rw [scanner.feedAll_cons_of_stop_none react pieces stop,
            scanner.drain_append_of_stop_none _ _ stop]
          simp only [reactAll_append]
          exact (List.prefix_append_right_inj _).mpr <|
            feedAll_items_prefix pieces _ _
              (scanner.scan_rest_of_stop_none _ stop)

/-- The tokens of a buffer, alone, drain to themselves. -/
theorem drain_tokens (buffer : List beta) :
    scanner.drain
        ((scanner.drain buffer).tokens.flatMap scanner.encode) =
      ⟨(scanner.drain buffer).tokens, [], none⟩ := by
  simpa using
    scanner.drain_flatMap_encode _ []
      (scanner.scan_encode_of_mem_tokens buffer) scanner.scan_nil

/-- Cutting the input right after its last token before a failure hands on
the items of all these tokens. -/
theorem feedAll_tokens_then_rest (input : List beta) (current : state)
    {reason : failure}
    (stopped : (scanner.drain input).stop = some reason) :
    (scanner.feedAll react [] current
        [(scanner.drain input).tokens.flatMap scanner.encode,
          (scanner.drain input).rest]).2 =
      ((reactAll react current (scanner.drain input).tokens).2,
        some reason) := by
  have alone := scanner.drain_tokens input
  have joined := scanner.flatMap_encode_append_rest input
  have finished :
      (scanner.drain
        ([] ++ (scanner.drain input).tokens.flatMap
          scanner.encode)).stop = none := by
    rw [List.nil_append, alone]
  have restStops :
      (scanner.drain ([] ++ (scanner.drain input).rest)).stop =
        some reason := by
    have resumed :=
      scanner.drain_append_of_stop_none _ (scanner.drain input).rest
        finished
    rw [List.nil_append, alone, joined] at resumed
    exact (congrArg Drained.stop resumed).symm.trans stopped
  rw [scanner.feedAll_cons_of_stop_none react _ finished]
  simp only [List.nil_append, alone]
  rw [scanner.feedAll_cons_of_stop_some react [] restStops]
  simp

/-- The items handed on depend on the pieces exactly when a failure follows
a token whose items are not empty. -/
theorem feedAll_independent_of_pieces_iff (input : List beta)
    (current : state) :
    (∀ pieces others : List (List beta),
      pieces.flatten = input → others.flatten = input →
        (scanner.feedAll react [] current pieces).2.1 =
          (scanner.feedAll react [] current others).2.1) ↔
      (scanner.drain input).stop = none ∨
        (reactAll react current (scanner.drain input).tokens).2 = [] := by
  constructor
  · intro independent
    cases stop : (scanner.drain input).stop with
    | none => exact Or.inl rfl
    | some reason =>
        have atOnce :
            (scanner.feedAll react [] current [input]).2 =
              ([], some reason) :=
          scanner.feedAll_cons_of_stop_some react [] stop
        have apart :=
          scanner.feedAll_tokens_then_rest react input current stop
        have same := independent [input]
          [(scanner.drain input).tokens.flatMap scanner.encode,
            (scanner.drain input).rest]
          (by simp)
          (by simpa using scanner.flatMap_encode_append_rest input)
        rw [atOnce, apart] at same
        exact Or.inr same.symm
  · intro either pieces others joined otherJoined
    rcases either with finished | silent
    · have run := scanner.feedAll_of_stop_none react pieces [] current
        scanner.scan_nil (by rw [joined]; exact finished)
      have otherRun :=
        scanner.feedAll_of_stop_none react others [] current
          scanner.scan_nil (by rw [otherJoined]; exact finished)
      rw [run, otherRun, joined, otherJoined]
    · have fromFront := scanner.feedAll_items_prefix react pieces []
        current scanner.scan_nil
      have otherFromFront := scanner.feedAll_items_prefix react others []
        current scanner.scan_nil
      rw [joined, List.nil_append, silent] at fromFront
      rw [otherJoined, List.nil_append, silent] at otherFromFront
      rw [List.prefix_nil.mp fromFront, List.prefix_nil.mp otherFromFront]

end Feeding

end Scanner

end RemoteWay.Base
