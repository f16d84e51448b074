import NodeSelection.Proofs.Layout
import NodeSelection.Group

/-!
Words with gaps around them: how a text and its words make up each other.

Gaps and words are interleaved, a gap in front, and a word and a gap in turn. The first and the
last gap may be empty. Between two words there is a blank, so neither of them goes on in the
other, and a text that is made so is split into the words that it was made of. Every text is made
so, of the words that it is split into: nothing of it is lost.

* `FitAround`: which gaps keep words apart.
* `splitWords_interleave`: a text is split into the words of which it is made.
* `exists_gaps`: every text is made of the words into which it is split.
* `splitWords_inverts`: the two, and words that are joined by single spaces.
-/

namespace NodeSelection

/-- The text holds nothing but blanks. It may be empty. -/
def IsGap (text : String) : Prop := ∀ c ∈ text.toList, Text.isBlank c = true

instance (text : String) : Decidable (IsGap text) :=
  decidable_of_iff (text.toList.all Text.isBlank = true) List.all_eq_true

/-- The text holds no blank, and is not empty. -/
def IsWord (text : String) : Prop := text ≠ "" ∧ ∀ c ∈ text.toList, Text.isBlank c = false

instance (text : String) : Decidable (IsWord text) :=
  decidable_of_iff (text ≠ "" ∧ text.toList.all (fun c => !Text.isBlank c) = true) <| by
    simp [IsWord]

/-- The gaps fit around the words: there is one in front of each word and one at the end, and only
the first and the last of them may be empty. -/
structure FitAround (gaps words : List String) : Prop where
  length_eq : gaps.length = words.length + 1
  isGap : ∀ gap ∈ gaps, IsGap gap
  between : ∀ gap ∈ gaps.tail.dropLast, gap ≠ ""

/-- A gap, and then a word and a gap in turn. -/
def interleave : List String → List String → String
  | gap :: gaps, word :: words => gap ++ (word ++ interleave gaps words)
  | gaps, words => String.join (gaps ++ words)

/-! ### From words to a text -/

@[simp] theorem interleave_singleton_nil (gap : String) : interleave [gap] [] = gap := by
  simp [interleave]

@[simp] theorem interleave_cons_cons (gap word : String) (gaps words : List String) :
    interleave (gap :: gaps) (word :: words) = gap ++ (word ++ interleave gaps words) := rfl

/-- The gap behind the first word is not empty, unless it is the last; else the gaps behind it fit
around the other words. -/
theorem FitAround.cons_iff {gap next : String} {gaps words : List String} {word : String} :
    FitAround (gap :: next :: gaps) (word :: words) ↔
      IsGap gap ∧ (gaps ≠ [] → next ≠ "") ∧ FitAround (next :: gaps) words := by
  have ends : (∀ g ∈ (next :: gaps).dropLast, g ≠ "") ↔
      (gaps ≠ [] → next ≠ "") ∧ ∀ g ∈ gaps.dropLast, g ≠ "" := by
    cases gaps <;> simp
  constructor
  · rintro ⟨length_eq, isGap, between⟩
    obtain ⟨first, others⟩ := List.forall_mem_cons.mp isGap
    obtain ⟨apart, between⟩ := ends.mp between
    exact ⟨first, apart, Nat.succ.inj length_eq, others, between⟩
  · rintro ⟨first, apart, length_eq, others, between⟩
    exact ⟨congrArg (· + 1) length_eq, List.forall_mem_cons.mpr ⟨first, others⟩,
      ends.mpr ⟨apart, between⟩⟩

/-- Behind a word that is not the last, a text goes on with a blank. -/
theorem head?_interleave {next : String} {gaps words : List String}
    (fit : FitAround (next :: gaps) words) (apart : gaps ≠ [] → next ≠ "") :
    ∀ c ∈ (interleave (next :: gaps) words).toList.head?, Text.isBlank c = true := by
  intro c first
  have blank := fit.isGap next List.mem_cons_self
  cases words with
  | nil =>
    obtain rfl : gaps = [] := List.length_eq_zero_iff.mp (Nat.succ.inj fit.length_eq)
    rw [interleave_singleton_nil] at first
    exact blank c (List.mem_of_head? first)
  | cons word words =>
    have more : gaps ≠ [] := by
      rintro rfl
      exact absurd fit.length_eq (by simp)
    have ne : next.toList ≠ [] := fun none => apart more (String.toList_eq_nil_iff.mp none)
    obtain ⟨d, rest, cut⟩ := List.exists_cons_of_ne_nil ne
    rw [interleave_cons_cons, String.toList_append, cut] at first
    obtain rfl : d = c := Option.some.inj first
    exact blank d (cut ▸ List.mem_cons_self)

theorem words_interleave {gaps words : List String} (isWord : ∀ word ∈ words, IsWord word)
    (fit : FitAround gaps words) :
    Text.words (interleave gaps words).toList = words.map String.toList := by
  induction words generalizing gaps with
  | nil =>
    obtain ⟨gap, rfl⟩ := List.length_eq_one_iff.mp fit.length_eq
    have blank := fit.isGap gap List.mem_cons_self
    have only := Text.pieces_gap_append blank []
    rw [List.append_nil] at only
    rw [interleave_singleton_nil, Text.words, only]
    rfl
  | cons word words ih =>
    obtain ⟨⟨ne, free⟩, isWord⟩ := List.forall_mem_cons.mp isWord
    match gaps, fit with
    | [_], fit => exact absurd fit.length_eq (by simp)
    | gap :: next :: gaps, fit =>
      obtain ⟨blank, apart, fit⟩ := FitAround.cons_iff.mp fit
      have some : word.toList ≠ [] := fun none => ne (String.toList_eq_nil_iff.mp none)
      rw [interleave_cons_cons, String.toList_append, String.toList_append, Text.words,
        Text.pieces_gap_append blank, Text.pieces_piece_append some free
          (head?_interleave fit apart), List.map_cons]
      exact congrArg (word.toList :: ·) (ih isWord fit)

/-- A text is split into the words of which it is made. -/
theorem splitWords_interleave {gaps words : List String} (isWord : ∀ word ∈ words, IsWord word)
    (fit : FitAround gaps words) : splitWords (interleave gaps words) = words := by
  rw [splitWords, words_interleave isWord fit, List.map_map]
  simp [Function.comp_def]

/-! ### From a text to words -/

theorem isWord_of_mem_splitWords {text word : String} (mem : word ∈ splitWords text) :
    IsWord word := by
  obtain ⟨piece, among, rfl⟩ := List.mem_map.mp mem
  rw [IsWord, ne_eq, ← String.toList_eq_nil_iff, String.toList_ofList]
  exact ⟨Text.ne_nil_of_mem_pieces among, Text.not_sep_of_mem_pieces among⟩

/-- The gaps of a text that is laid out fit around its pieces, and with them make up the text. -/
theorem interleave_cells {lead : List Char} {cells : List (Text.Cell Text.isBlank)}
    (blank : ∀ c ∈ lead, Text.isBlank c = true)
    (gap_ne : ∀ cell ∈ cells.dropLast, cell.gap ≠ []) :
    let gaps := String.ofList lead :: cells.map fun cell => String.ofList cell.gap
    let words := cells.map fun cell => String.ofList cell.piece
    FitAround gaps words ∧
      (interleave gaps words).toList = lead ++ Text.Layout.chars cells := by
  induction cells generalizing lead with
  | nil =>
    refine ⟨⟨rfl, ?_, nofun⟩, ?_⟩
    · simpa [IsGap] using blank
    · simp [interleave_singleton_nil, Text.Layout.chars]
  | cons cell cells ih =>
    obtain ⟨between, gap_ne⟩ := Text.Layout.gaps_cons_iff.mp gap_ne
    obtain ⟨fit, whole⟩ := ih cell.gap_sep gap_ne
    refine ⟨FitAround.cons_iff.mpr ⟨?_, ?_, fit⟩, ?_⟩
    · simpa [IsGap] using blank
    · intro more
      have ne := between (by simpa using more)
      rwa [ne_eq, ← String.toList_eq_nil_iff, String.toList_ofList]
    · rw [List.map_cons, List.map_cons, interleave_cons_cons, String.toList_append,
        String.toList_append, whole]
      simp

/-- Every text is made of the words into which it is split. -/
theorem exists_gaps (text : String) :
    ∃ gaps, FitAround gaps (splitWords text) ∧ interleave gaps (splitWords text) = text := by
  obtain ⟨l, whole⟩ := Text.exists_layout Text.isBlank text.toList
  have words : splitWords text = l.cells.map fun cell => String.ofList cell.piece := by
    rw [splitWords, Text.words, ← whole, l.pieces_text, Text.Layout.pieces, List.map_map]
    rfl
  obtain ⟨fit, made⟩ := interleave_cells l.lead_sep l.gap_ne
  refine ⟨_, words ▸ fit, ?_⟩
  rw [words, ← String.toList_inj, made, ← whole, Text.Layout.text]

theorem splitWords_join (text : String) :
    splitWords (" ".intercalate (splitWords text)) = splitWords text := by
  have fine : ∀ word ∈ Text.words text.toList, word ≠ [] ∧ ∀ c ∈ word, Text.isBlank c = false :=
    fun word mem => ⟨Text.ne_nil_of_mem_pieces mem, Text.not_sep_of_mem_pieces mem⟩
  have chars : (" ".intercalate (splitWords text)).toList =
      [' '].intercalate (Text.words text.toList) := by
    rw [String.toList_intercalate, splitWords, List.map_map]
    simp [Function.comp_def]
  rw [splitWords, chars, Text.words, Text.pieces_intercalate (by decide) fine, splitWords]

/-- Splitting a text into words and interleaving words with gaps invert each other. Whichever
words are interleaved with whichever gaps that fit around them, the text is split into these
words. And every text is its words, interleaved with gaps that fit around them. So a text that
joins the words of another one by single spaces has the same words. -/
theorem splitWords_inverts :
    (∀ gaps words : List String, (∀ word ∈ words, IsWord word) → FitAround gaps words →
      splitWords (interleave gaps words) = words) ∧
    (∀ text : String, (∀ word ∈ splitWords text, IsWord word) ∧
      ∃ gaps, FitAround gaps (splitWords text) ∧ interleave gaps (splitWords text) = text) ∧
    ∀ text : String, splitWords (" ".intercalate (splitWords text)) = splitWords text := by
  refine ⟨?_, ?_, splitWords_join⟩
  · intro gaps words isWord fit
    exact splitWords_interleave isWord fit
  · intro text
    exact ⟨fun word mem => isWord_of_mem_splitWords mem, exists_gaps text⟩

/-- Blanks of many kinds around words that hold look-alikes of blanks. -/
theorem splitWords_inverts_look_alikes :
    let words := ["a\u200bb", "\ufeff,c\u001c"]
    let gaps := ["\u3000\t", "\u0085 ", ""]
    (∀ word ∈ words, IsWord word) ∧ FitAround gaps words ∧
      splitWords "\u3000\ta\u200bb\u0085 \ufeff,c\u001c" = words := by
  intro words gaps
  obtain ⟨inverts, -, -⟩ := splitWords_inverts
  have isWord : ∀ word ∈ words, IsWord word :=
    List.forall_mem_cons.mpr ⟨by decide, List.forall_mem_singleton.mpr (by decide)⟩
  have isGap : ∀ gap ∈ gaps, IsGap gap :=
    List.forall_mem_cons.mpr ⟨by decide, List.forall_mem_cons.mpr
      ⟨by decide, List.forall_mem_singleton.mpr (by decide)⟩⟩
  have fit : FitAround gaps words :=
    ⟨rfl, isGap, List.forall_mem_singleton.mpr (by decide)⟩
  have made : interleave gaps words = "\u3000\ta\u200bb\u0085 \ufeff,c\u001c" := rfl
  exact ⟨isWord, fit, made ▸ inverts gaps words isWord fit⟩

end NodeSelection
