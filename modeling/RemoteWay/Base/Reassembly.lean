import Mathlib.Data.List.DropRight
import Mathlib.Data.List.Perm.Basic
import Mathlib.Logic.Function.Basic
import RemoteWay.Base.Scanner

/-!
# Reassembly of interleaved pieces

Pieces carry a key, a payload and a mark on the last piece of each whole.
`assemble` appends payloads per key and hands on a whole at its last piece.
What it holds back for a key are the payloads of the `unfinished` pieces of
that key.

Sources that are cut into pieces, and whose pieces are interleaved without
reordering those of one key, come out whole, one for each source, in the
order of their last pieces.
-/

namespace RemoteWay.Base

universe u v w x

/-- How a piece is read. -/
structure Labels (piece : Type u) (key : Type v) (alpha : Type w) where
  keyOf : piece → key
  isLast : piece → Bool
  payload : piece → List alpha

namespace Labels

variable {piece : Type u} {key : Type v} {alpha : Type w}
variable [DecidableEq key] (labels : Labels piece key alpha)

/-- Append the payload to those held back for its key, and hand them on at
the last piece. -/
def assemble (pending : key → List alpha) (current : piece) :
    (key → List alpha) × List (piece × List alpha) :=
  let whole := pending (labels.keyOf current) ++ labels.payload current
  if labels.isLast current then
    (Function.update pending (labels.keyOf current) [], [(current, whole)])
  else
    (Function.update pending (labels.keyOf current) whole, [])

def assembleAll (pieces : List piece) :
    (key → List alpha) × List (piece × List alpha) :=
  Scanner.reactAll labels.assemble (fun _ => []) pieces

/-- The pieces of a key after its latest last piece. -/
def unfinished (target : key) (pieces : List piece) : List piece :=
  (pieces.filter fun current => labels.keyOf current = target).rtakeWhile
    fun current => !labels.isLast current

def heldBack (pieces : List piece) (target : key) : List alpha :=
  (labels.unfinished target pieces).flatMap labels.payload

/-! ## One more piece -/

theorem unfinished_concat (target : key) (pieces : List piece)
    (current : piece) :
    labels.unfinished target (pieces ++ [current]) =
      if labels.keyOf current = target then
        if labels.isLast current then []
        else labels.unfinished target pieces ++ [current]
      else
        labels.unfinished target pieces := by
  rw [unfinished, List.filter_append]
  by_cases here : labels.keyOf current = target
  · have kept :
        [current].filter (fun other => labels.keyOf other = target) =
          [current] := by
      simp [here]
    rw [kept, List.rtakeWhile_concat, if_pos here]
    cases labels.isLast current <;> simp [unfinished]
  · have dropped :
        [current].filter (fun other => labels.keyOf other = target) =
          [] := by
      simp [here]
    rw [dropped, List.append_nil, if_neg here, unfinished]

theorem heldBack_concat (pieces : List piece) (current : piece) :
    labels.heldBack (pieces ++ [current]) =
      (labels.assemble (labels.heldBack pieces) current).1 := by
  funext target
  rw [heldBack, labels.unfinished_concat, assemble]
  by_cases here : labels.keyOf current = target
  · subst here
    cases labels.isLast current <;>
      simp [heldBack]
  · have other : target ≠ labels.keyOf current := Ne.symm here
    cases labels.isLast current <;>
      simp [heldBack, here, other]

/-- What is held back after any number of pieces. -/
theorem assembleAll_pending (pieces : List piece) :
    (labels.assembleAll pieces).1 = labels.heldBack pieces := by
  induction pieces using List.reverseRecOn with
  | nil => rfl
  | append_singleton pieces current inductionHypothesis =>
      rw [assembleAll, Scanner.reactAll_append]
      rw [assembleAll] at inductionHypothesis
      dsimp only
      rw [inductionHypothesis, labels.heldBack_concat]
      rfl

theorem assembleAll_concat (pieces : List piece) (current : piece) :
    (labels.assembleAll (pieces ++ [current])).2 =
      (labels.assembleAll pieces).2 ++
        if labels.isLast current then
          [(current, labels.heldBack pieces (labels.keyOf current) ++
            labels.payload current)]
        else [] := by
  have pending := labels.assembleAll_pending pieces
  rw [assembleAll] at pending ⊢
  rw [Scanner.reactAll_append]
  dsimp only
  rw [pending, Scanner.reactAll, Scanner.reactAll, assemble]
  cases labels.isLast current <;> simp [assembleAll]

/-! ## Interleaved sources -/

section Interleaving

variable {source : Type x}

/-- How sources are cut: the pieces carry the key of their source, their
payloads are those of the source, and exactly the final one is a last
piece. -/
structure Cutting (sourceKey : source → key) (whole : source → List alpha)
    (cut : source → List piece) : Prop where
  keyed : ∀ origin current, current ∈ cut origin →
    labels.keyOf current = sourceKey origin
  joined : ∀ origin, (cut origin).flatMap labels.payload = whole origin
  closed : ∀ origin, ∃ middle final, cut origin = middle ++ [final] ∧
    labels.isLast final = true ∧
    ∀ current, current ∈ middle → labels.isLast current = false

/-- Pieces with their source, in an order that keeps the pieces of each key
in the order of the sources and, within a source, in the order of the
cut. -/
def Interleaving (sourceKey : source → key) (cut : source → List piece)
    (sources : List source) (tagged : List (source × piece)) : Prop :=
  ∀ target,
    (tagged.filter fun tag => sourceKey tag.1 = target) =
      (sources.filter fun origin => sourceKey origin = target).flatMap
        fun origin => (cut origin).map (Prod.mk origin)

/-- The sources in the order of their last pieces. -/
def finished (tagged : List (source × piece)) : List (source × piece) :=
  tagged.filter fun tag => labels.isLast tag.2

variable {sourceKey : source → key} {whole : source → List alpha}
variable {cut : source → List piece}
variable {labels}

omit [DecidableEq key] in
private theorem rtakeWhile_append_of_last (middle before : List piece)
    {final : piece} (last : labels.isLast final = true) :
    ((middle ++ [final]) ++ before).rtakeWhile
        (fun current => !labels.isLast current) =
      before.rtakeWhile fun current => !labels.isLast current := by
  induction before using List.reverseRecOn with
  | nil => simp [last]
  | append_singleton before current inductionHypothesis =>
      rw [← List.append_assoc, List.rtakeWhile_concat,
        List.rtakeWhile_concat, inductionHypothesis]

omit [DecidableEq key] in
/-- The only last piece of a cut is its final one. -/
private theorem split_at_last {middle before after : List piece}
    {final current : piece}
    (middleOpen : ∀ other, other ∈ middle → labels.isLast other = false)
    (last : labels.isLast current = true)
    (split : middle ++ [final] = before ++ current :: after) :
    before = middle ∧ current = final ∧ after = [] := by
  rcases List.eq_nil_or_concat after with rfl | ⟨init, other, rfl⟩
  · obtain ⟨middleEq, finalEq⟩ := List.append_inj' split rfl
    injection finalEq with finalEq
    exact ⟨middleEq.symm, finalEq.symm, rfl⟩
  · rw [List.concat_eq_append, ← List.cons_append, ← List.append_assoc]
      at split
    have middleEq := (List.append_inj' split rfl).1
    have opened := middleOpen current (by rw [middleEq]; simp)
    rw [last] at opened
    cases opened

private theorem map_snd_mk (origin : source) (pieces : List piece) :
    (pieces.map (Prod.mk origin)).map Prod.snd = pieces := by
  rw [List.map_map]
  exact List.map_id _

omit [DecidableEq key] in
/-- Among the pieces of one key, a last piece completes the payload of its
source. -/
private theorem payload_of_last
    (cutting : labels.Cutting sourceKey whole cut) :
    ∀ (sources : List source) (before : List (source × piece))
      (tag : source × piece) (after : List (source × piece)),
      (sources.flatMap fun origin =>
          (cut origin).map (Prod.mk origin)) = before ++ tag :: after →
      labels.isLast tag.2 = true →
        ((before.map Prod.snd).rtakeWhile fun current =>
            !labels.isLast current).flatMap labels.payload ++
          labels.payload tag.2 = whole tag.1
  | [], before, tag, after, split, _ => by
      cases before <;> cases split
  | origin :: sources, before, tag, after, split, last => by
      obtain ⟨middle, final, cutEq, finalLast, middleOpen⟩ :=
        cutting.closed origin
      rw [List.flatMap_cons] at split
      rcases List.append_eq_append_iff.mp split with
        ⟨later, beforeEq, restEq⟩ | ⟨inner, cutSplit, innerEq⟩
      · -- The piece belongs to a later source.
        have tail := payload_of_last cutting sources later tag after
          restEq last
        rw [beforeEq, List.map_append, map_snd_mk, cutEq,
          rtakeWhile_append_of_last _ _ finalLast]
        exact tail
      · cases inner with
        | nil =>
            rw [List.nil_append] at innerEq
            rw [List.append_nil] at cutSplit
            have tail := payload_of_last cutting sources [] tag after
              innerEq.symm last
            have closed := rtakeWhile_append_of_last middle [] finalLast
            rw [List.append_nil] at closed
            rw [← cutSplit, map_snd_mk, cutEq, closed]
            exact tail
        | cons head inner =>
            -- The piece is the final one of this source.
            rw [List.cons_append] at innerEq
            injection innerEq with tagEq afterEq
            subst tagEq
            have originEq : tag.1 = origin := by
              have member : tag ∈ (cut origin).map (Prod.mk origin) := by
                rw [cutSplit]
                simp
              obtain ⟨_, _, rfl⟩ := List.mem_map.mp member
              rfl
            have pieces := congrArg (List.map Prod.snd) cutSplit
            rw [map_snd_mk, cutEq, List.map_append, List.map_cons]
              at pieces
            obtain ⟨beforeEq, finalEq, _⟩ :=
              split_at_last middleOpen last pieces
            have allOpen :
                middle.rtakeWhile (fun current => !labels.isLast current) =
                  middle := by
              rw [List.rtakeWhile_eq_self_iff]
              intro current member
              rw [middleOpen current member]
              rfl
            rw [beforeEq, allOpen, finalEq, originEq,
              ← cutting.joined origin, cutEq, List.flatMap_append]
            simp

omit [DecidableEq key] in
/-- Sources that are cut completely leave nothing unfinished. -/
private theorem rtakeWhile_sources
    (cutting : labels.Cutting sourceKey whole cut) :
    ∀ sources : List source,
      (sources.flatMap cut).rtakeWhile
        (fun current => !labels.isLast current) = []
  | [] => rfl
  | origin :: sources => by
      obtain ⟨middle, final, cutEq, finalLast, _⟩ := cutting.closed origin
      rw [List.flatMap_cons, cutEq, rtakeWhile_append_of_last _ _ finalLast]
      exact rtakeWhile_sources cutting sources

omit [DecidableEq key] in
private theorem finished_cut
    (cutting : labels.Cutting sourceKey whole cut) (origin : source) :
    (labels.finished ((cut origin).map (Prod.mk origin))).map Prod.fst =
      [origin] := by
  obtain ⟨middle, final, cutEq, finalLast, middleOpen⟩ :=
    cutting.closed origin
  have middleNone :
      (middle.map (Prod.mk origin)).filter
        (fun tag => labels.isLast tag.2) = [] := by
    rw [List.filter_eq_nil_iff]
    intro tag member
    obtain ⟨current, middleMember, rfl⟩ := List.mem_map.mp member
    simp [middleOpen current middleMember]
  rw [finished, cutEq, List.map_append, List.filter_append, middleNone]
  simp [finalLast]

/-- Sources one after the other. -/
def inTurn (cut : source → List piece) (sources : List source) :
    List (source × piece) :=
  sources.flatMap fun origin => (cut origin).map (Prod.mk origin)

omit [DecidableEq key] in
theorem map_snd_inTurn (sources : List source) :
    (inTurn cut sources).map Prod.snd = sources.flatMap cut := by
  rw [inTurn, List.map_flatMap]
  congr 1
  funext origin
  exact map_snd_mk origin (cut origin)

theorem interleaving_inTurn (sources : List source) :
    Interleaving sourceKey cut sources (inTurn cut sources) := by
  intro target
  rw [inTurn]
  induction sources with
  | nil => rfl
  | cons origin sources inductionHypothesis =>
      rw [List.flatMap_cons, List.filter_append, inductionHypothesis,
        List.filter_map]
      by_cases here : sourceKey origin = target
      · rw [List.filter_cons_of_pos (by simp [here]), List.flatMap_cons]
        simp [Function.comp_def, here]
      · rw [List.filter_cons_of_neg (by simp [here])]
        simp [Function.comp_def, here]

omit [DecidableEq key] in
theorem finished_inTurn (cutting : labels.Cutting sourceKey whole cut)
    (sources : List source) :
    (labels.finished (inTurn cut sources)).map Prod.fst = sources := by
  induction sources with
  | nil => rfl
  | cons origin sources inductionHypothesis =>
      have first := finished_cut cutting origin
      rw [finished] at first inductionHypothesis ⊢
      rw [inTurn] at inductionHypothesis ⊢
      rw [List.flatMap_cons, List.filter_append, List.map_append, first,
        inductionHypothesis, List.singleton_append]

section Delivered

variable {sources : List source} {tagged : List (source × piece)}

/-- A tag pairs a source with one of its pieces. -/
theorem mem_cut_of_mem_tagged
    (interleaved : Interleaving sourceKey cut sources tagged)
    {tag : source × piece} (member : tag ∈ tagged) :
    tag.2 ∈ cut tag.1 := by
  have own : tag ∈ tagged.filter fun other =>
      sourceKey other.1 = sourceKey tag.1 :=
    List.mem_filter.mpr ⟨member, by simp⟩
  rw [interleaved (sourceKey tag.1), List.mem_flatMap] at own
  obtain ⟨origin, _, mapped⟩ := own
  obtain ⟨current, cutMember, rfl⟩ := List.mem_map.mp mapped
  exact cutMember

variable (cutting : labels.Cutting sourceKey whole cut)
variable (interleaved : Interleaving sourceKey cut sources tagged)

include cutting interleaved

/-- Keys may be read off the pieces or off their sources. -/
theorem filter_map_snd (target : key) {part : List (source × piece)}
    (sub : ∀ tag, tag ∈ part → tag ∈ tagged) :
    (part.map Prod.snd).filter
        (fun current => labels.keyOf current = target) =
      (part.filter fun tag => sourceKey tag.1 = target).map Prod.snd := by
  rw [List.filter_map]
  congr 1
  apply List.filter_congr
  intro tag member
  have keyed := cutting.keyed tag.1 tag.2
    (mem_cut_of_mem_tagged interleaved (sub tag member))
  simp [keyed]

/-- Each last piece hands on the payload of its source. -/
theorem heldBack_append_payload {before after : List (source × piece)}
    {tag : source × piece} (split : tagged = before ++ tag :: after)
    (last : labels.isLast tag.2 = true) :
    labels.heldBack (before.map Prod.snd) (labels.keyOf tag.2) ++
      labels.payload tag.2 = whole tag.1 := by
  have member : tag ∈ tagged := by
    rw [split]
    simp
  have keyed := cutting.keyed tag.1 tag.2
    (mem_cut_of_mem_tagged interleaved member)
  have ownSplit := interleaved (sourceKey tag.1)
  rw [split, List.filter_append, List.filter_cons_of_pos (by simp)]
    at ownSplit
  have completed := payload_of_last cutting _ _ tag _ ownSplit.symm last
  rw [heldBack, unfinished, keyed,
    filter_map_snd cutting interleaved (sourceKey tag.1) (by
      intro other early
      rw [split]
      exact List.mem_append_left _ early)]
  exact completed

/-- Interleaved sources come out whole, in the order of their last
pieces. -/
theorem assembleAll_interleaving :
    (labels.assembleAll (tagged.map Prod.snd)).2 =
      (labels.finished tagged).map fun tag => (tag.2, whole tag.1) := by
  have prefixes : ∀ before after, tagged = before ++ after →
      (labels.assembleAll (before.map Prod.snd)).2 =
        (labels.finished before).map fun tag => (tag.2, whole tag.1) := by
    intro before
    induction before using List.reverseRecOn with
    | nil =>
        intro _ _
        rfl
    | append_singleton before tag inductionHypothesis =>
        intro after split
        rw [List.append_assoc, List.singleton_append] at split
        rw [List.map_append, List.map_singleton,
          labels.assembleAll_concat, inductionHypothesis _ split,
          finished, finished, List.filter_append, List.map_append]
        cases last : labels.isLast tag.2 with
        | false => simp [last]
        | true =>
            rw [heldBack_append_payload cutting interleaved split last]
            simp [last]
  exact prefixes tagged [] (List.append_nil tagged).symm

/-- Nothing is held back at the end. -/
theorem unfinished_interleaving (target : key) :
    labels.unfinished target (tagged.map Prod.snd) = [] := by
  have pieces :
      ((sources.filter fun origin => sourceKey origin = target).flatMap
          fun origin => (cut origin).map (Prod.mk origin)).map Prod.snd =
        (sources.filter fun origin => sourceKey origin = target).flatMap
          cut := by
    rw [List.map_flatMap]
    congr 1
    funext origin
    exact map_snd_mk origin (cut origin)
  rw [unfinished, filter_map_snd cutting interleaved target (by simp),
    interleaved target, pieces]
  exact rtakeWhile_sources cutting _

/-- Each source is finished exactly once. -/
theorem finished_perm [DecidableEq source] :
    ((labels.finished tagged).map Prod.fst).Perm sources := by
  have perKey : ∀ target,
      ((labels.finished tagged).map Prod.fst).filter
          (fun origin => sourceKey origin = target) =
        sources.filter fun origin => sourceKey origin = target := by
    intro target
    have swapped :
        (labels.finished tagged).filter
            (fun tag => sourceKey tag.1 = target) =
          labels.finished
            (tagged.filter fun tag => sourceKey tag.1 = target) := by
      rw [finished, finished, List.filter_filter, List.filter_filter]
      simp only [Bool.and_comm]
    rw [List.filter_map]
    change ((labels.finished tagged).filter
      (fun tag => sourceKey tag.1 = target)).map Prod.fst = _
    rw [swapped, interleaved target]
    induction sources.filter fun origin => sourceKey origin = target with
    | nil => rfl
    | cons origin rest inductionHypothesis =>
        have first := finished_cut cutting origin
        rw [finished] at first inductionHypothesis ⊢
        rw [List.flatMap_cons, List.filter_append, List.map_append,
          first, inductionHypothesis]
        rfl
  rw [List.perm_iff_count]
  intro origin
  have ofKey : ∀ origins : List source,
      (origins.filter fun other =>
          sourceKey other = sourceKey origin).count origin =
        origins.count origin :=
    fun _ => List.count_filter (by simp)
  rw [← ofKey, perKey (sourceKey origin), ofKey]

end Delivered

end Interleaving

end Labels

end RemoteWay.Base
