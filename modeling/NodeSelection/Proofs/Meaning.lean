import NodeSelection.Proofs.Admission
import NodeSelection.Proofs.GroupReading

/-!
The meaning of a selector text, from its characters to the nodes that are found.

A word of the text admits a node when it has a part and each of its parts finds the
node. The text finds what some word admits, each node once, in the order in which
the words mention the nodes first.

* `union_ofSelectors`: a lone selector's answer is intersected with nothing, and
  words without a part add nothing.
* `on_hitsOf_text`: the groups of a text find the union of its words' sequences.
* `earlier_mention_iff`: the words mention nodes in the order of `textMention`.
* `applyTo_means`: what a text finds, on either side, is what it means there.
-/

namespace NodeSelection

variable {N : Type}

/-- The answer to a part of a word; a part that is no selector finds nothing. -/
def partAnswer (answer : Selector → List N) (part : String) : List N :=
  match Selector.parse part with
  | .ok s => answer s
  | .error _ => []

/-- The word lets the node in: it has a part, and all of its parts find the node. -/
def WordAdmits (answer : Selector → List N) (word : List Char) (n : N) : Prop :=
  wordParts word ≠ [] ∧ ∀ part ∈ wordParts word, n ∈ partAnswer answer part

/-- The answer to the first part of a word. -/
def firstAnswer (answer : Selector → List N) (word : List Char) : List N :=
  ((wordParts word).head?.map (partAnswer answer)).getD []

variable [DecidableEq N]

instance (answer : Selector → List N) (word : List Char) (n : N) :
    Decidable (WordAdmits answer word n) := by
  unfold WordAdmits
  infer_instance

/-- Where the text mentions a node first: the number of the first word that admits
it, and its place in the answer to the first part of that word. -/
def textMention (answer : Selector → List N) (text : String) (n : N) : Nat × Nat :=
  ((textWords text).findIdx (WordAdmits answer · n),
    ((((textWords text).find? (WordAdmits answer · n)).map (firstAnswer answer)).getD []).idxOf n)

/-- A sequence of nodes is what a text means when its parts have these answers. -/
structure Means (text : String) (answer : Selector → List N) (found : List N) : Prop where
  /-- A node is found when a word admits it. -/
  mem_iff : ∀ n, n ∈ found ↔ ∃ word ∈ textWords text, WordAdmits answer word n
  /-- Each node is found once. -/
  nodup : found.Nodup
  /-- Nodes stand in the order in which the text mentions them first. -/
  before_iff : ∀ x ∈ found, ∀ y ∈ found, found.idxOf x < found.idxOf y ↔
    Ordered.Earlier (textMention answer text x) (textMention answer text y)

/-! ### Words as sequences -/

/-- What the answers to the parts of a word have in common. -/
def wordSequence (answer : Selector → List N) (word : List Char) : List N :=
  Ordered.intersect ((wordParts word).map (partAnswer answer))

theorem mem_wordSequence_iff {answer : Selector → List N} {word : List Char} {n : N} :
    n ∈ wordSequence answer word ↔ WordAdmits answer word n := by
  unfold wordSequence WordAdmits
  cases wordParts word <;> simp

omit [DecidableEq N] in
theorem map_answer_of_reads {answer : Selector → List N} {word : List Char}
    {selectors : List Selector} (reads : Group.Reads word selectors) :
    selectors.map answer = (wordParts word).map (partAnswer answer) := by
  refine (map_eq_map_of_related reads fun part s parsed => ?_).symm
  rw [partAnswer, parsed]

theorem map_intersect_of_reads {answer : Selector → List N} {words : List (List Char)}
    {read : List (List Selector)} (reads : List.Forall₂ Group.Reads words read) :
    read.map (fun selectors => Ordered.intersect (selectors.map answer)) =
      words.map (wordSequence answer) := by
  refine (map_eq_map_of_related reads fun word selectors parts => ?_).symm
  rw [wordSequence, map_answer_of_reads parts]

/-- The method of a group that was read from a word does not show: a lone selector's
answer may as well be intersected, and no selector at all finds nothing. -/
theorem union_ofSelectors (answer : Selector → List N) (read : List (List Selector)) :
    Ordered.union ((read.filterMap Group.ofSelectors).map (Group.sequence answer)) =
      Ordered.union (read.map fun selectors => Ordered.intersect (selectors.map answer)) := by
  induction read with
  | nil => rfl
  | cons selectors rest ih =>
    match selectors with
    | [] => exact ih
    | [s] =>
      have lone : (Ordered.union [answer s]).eraseDups = (answer s).eraseDups := by
        rw [Ordered.union_singleton, Ordered.eraseDups_eraseDups]
      have alone : Ordered.intersect [answer s] = answer s := by
        simp [Ordered.intersect]
      exact (Ordered.union_cons_congr lone ih).trans (by simp [alone])
    | s :: t :: others => exact Ordered.union_cons_congr rfl ih

/-- The groups of a text find, on each side, the union of its words' sequences. -/
theorem on_hitsOf_text {text : String} {groups : List Group}
    (parsed : Group.parseAll text = .ok groups) (find : Selector → Hits N) (side : Side) :
    (hitsOf find groups).on side =
      Ordered.union ((textWords text).map (wordSequence fun s => (find s).on side)) := by
  obtain ⟨read, reads, rfl⟩ := Group.parseAll_eq_ok_iff.mp parsed
  rw [on_hitsOf, union_ofSelectors, map_intersect_of_reads reads]

/-! ### Order -/

/-- Two nodes that a word admits stand in its sequence as in its first answer. -/
theorem idxOf_wordSequence_lt_iff {answer : Selector → List N} {word : List Char} {x y : N}
    (hx : WordAdmits answer word x) (hy : WordAdmits answer word y) :
    (wordSequence answer word).idxOf x < (wordSequence answer word).idxOf y ↔
      (firstAnswer answer word).idxOf x < (firstAnswer answer word).idxOf y := by
  obtain ⟨some, allX⟩ := hx
  obtain ⟨-, allY⟩ := hy
  unfold wordSequence firstAnswer
  cases parts : wordParts word with
  | nil => exact absurd parts some
  | cons part rest =>
    rw [parts] at allX allY
    refine Ordered.idxOf_filter_lt_iff ?_ ?_ _
    · simpa using fun other mem => allX other (List.mem_cons_of_mem _ mem)
    · simpa using fun other mem => allY other (List.mem_cons_of_mem _ mem)

theorem mention_map_wordSequence (answer : Selector → List N) (words : List (List Char)) (n : N) :
    Ordered.mention (words.map (wordSequence answer)) n =
      (words.findIdx (WordAdmits answer · n),
        (((words.find? (WordAdmits answer · n)).map (wordSequence answer)).getD []).idxOf n) := by
  simp only [Ordered.mention, List.findIdx_map, List.find?_map, Function.comp_def,
    mem_wordSequence_iff]

theorem earlier_mention_iff {answer : Selector → List N} {text : String} {x y : N}
    (hx : ∃ word ∈ textWords text, WordAdmits answer word x) :
    Ordered.Earlier (Ordered.mention ((textWords text).map (wordSequence answer)) x)
        (Ordered.mention ((textWords text).map (wordSequence answer)) y) ↔
      Ordered.Earlier (textMention answer text x) (textMention answer text y) := by
  rw [mention_map_wordSequence, mention_map_wordSequence, Ordered.Earlier, Ordered.Earlier,
    Prod.lex_def, Prod.lex_def]
  refine or_congr_right (and_congr_right fun same => ?_)
  dsimp only at same
  -- Both nodes are mentioned first in the same word, so only its own order counts.
  obtain ⟨word, firstX⟩ : ∃ word, (textWords text).find? (WordAdmits answer · x) = some word :=
    Option.isSome_iff_exists.mp (by simpa [List.find?_isSome] using hx)
  have firstY : (textWords text).find? (WordAdmits answer · y) = some word := by
    rw [List.find?_eq_getElem?_findIdx] at firstX ⊢
    rw [← same, firstX]
  have admitsX : WordAdmits answer word x := by simpa using List.find?_some firstX
  have admitsY : WordAdmits answer word y := by simpa using List.find?_some firstY
  simp only [textMention, firstX, firstY]
  exact idxOf_wordSequence_lt_iff admitsX admitsY

/-! ### What a text finds -/

theorem means_union (text : String) (answer : Selector → List N) :
    Means text answer (Ordered.union ((textWords text).map (wordSequence answer))) := by
  have mem : ∀ n, n ∈ Ordered.union ((textWords text).map (wordSequence answer)) ↔
      ∃ word ∈ textWords text, WordAdmits answer word n := fun n => by
    simp [mem_wordSequence_iff]
  constructor
  · exact mem
  · exact Ordered.nodup_union _
  · intro x hx y hy
    rw [Ordered.idxOf_union_lt_iff hx hy]
    exact earlier_mention_iff ((mem x).mp hx)

/-- A text whose selectors can be read finds, on either side, what it means there:
the nodes that some word admits, each once, in the order of their first mention. -/
theorem applyTo_means {text : String} {groups : List Group}
    (parsed : Group.parseAll text = .ok groups) (find : Selector → Hits N) :
    ∃ found, applyTo find text = .ok found ∧
      ∀ side, Means text (fun s => (find s).on side) (found.on side) := by
  refine ⟨hitsOf find groups, applyTo_of_ok parsed find, fun side => ?_⟩
  rw [on_hitsOf_text parsed]
  exact means_union text _

/-- Nodes that are found twice and in different orders, and a word without a part. -/
theorem applyTo_means_repeats :
    let find : Selector → Hits Nat := fun s =>
      if s.value = "a" then ⟨[1, 2, 2, 3], [3]⟩ else ⟨[3, 2, 3], [4, 3]⟩
    ∃ groups, Group.parseAll "b,+tag:a ,, a," = .ok groups ∧
      ∃ found, applyTo find "b,+tag:a ,, a," = .ok found ∧
        ∀ side, Means "b,+tag:a ,, a," (fun s => (find s).on side) (found.on side) := by
  intro find
  have parsed : Group.parseAll "b,+tag:a ,, a," = .ok
      [⟨.intersect, [⟨.fqn, "b", false, false, false, "b"⟩,
        ⟨.tag, "a", false, true, false, "+tag:a"⟩]⟩,
       ⟨.unite, [⟨.fqn, "a", false, false, false, "a"⟩]⟩] := by decide
  exact ⟨_, parsed, applyTo_means parsed find⟩

end NodeSelection
