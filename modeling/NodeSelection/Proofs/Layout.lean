import NodeSelection.Text.Fields

/-!
Layouts: a text as pieces with gaps around them.

A layout is a text that is already cut: nothing of it rests on the way in which a text
is cut. Every text has a layout, and is cut into the pieces of its layouts.

* `pieces_or`: cutting at two kinds of separators, one kind after the other.
* `fields_append`: where two texts meet, the last field of one goes on in the other.
* `Layout.pieces_text`: a text is cut into the pieces of its layout.
* `exists_layout`: every text has a layout.
-/

namespace NodeSelection.Text

variable {sep other : Char → Bool}

/-! ### Cutting -/

theorem exists_fields_eq_append (sep : Char → Bool) (text : List Char) :
    ∃ before last, fields sep text = before ++ [last] :=
  ⟨_, _, (List.dropLast_concat_getLast (fields_ne_nil sep text)).symm⟩

/-- Where two texts meet, the last field of the one and the first field of the other
are one field. -/
theorem fields_append {x y last first : List Char} {before after : List (List Char)}
    (hx : fields sep x = before ++ [last]) (hy : fields sep y = first :: after) :
    fields sep (x ++ y) = before ++ (last ++ first) :: after := by
  induction x generalizing before last with
  | nil =>
    cases before with
    | nil =>
      cases hx
      exact hy
    | cons f before =>
      have behind := (List.cons.inj hx).2
      simp at behind
  | cons c rest ih =>
    obtain ⟨f, fs, hf⟩ := List.exists_cons_of_ne_nil (fields_ne_nil sep rest)
    rw [List.cons_append]
    by_cases hc : sep c = true
    · rw [fields_cons_sep hc] at hx
      cases before with
      | nil =>
        have behind := (List.cons.inj hx).2
        exact absurd behind (fields_ne_nil sep rest)
      | cons g before =>
        obtain ⟨rfl, behind⟩ := List.cons.inj hx
        rw [fields_cons_sep hc, ih behind, List.cons_append]
    · have hc : sep c = false := by simpa using hc
      rw [fields_cons_of_not hc, hf, List.modifyHead_cons] at hx
      rw [fields_cons_of_not hc]
      cases before with
      | nil =>
        obtain ⟨rfl, rfl⟩ := List.cons.inj hx
        have alone : fields sep rest = [] ++ [f] := hf
        rw [ih alone]
        rfl
      | cons g before =>
        obtain ⟨rfl, rfl⟩ := List.cons.inj hx
        rw [ih (hf.trans (List.cons_append ..).symm)]
        rfl

theorem fields_or (text : List Char) :
    fields (fun c => sep c || other c) text = (fields sep text).flatMap (fields other) := by
  induction text with
  | nil => rfl
  | cons c rest ih =>
    obtain ⟨f, fs, hf⟩ := List.exists_cons_of_ne_nil (fields_ne_nil sep rest)
    obtain ⟨g, gs, hg⟩ := List.exists_cons_of_ne_nil (fields_ne_nil other f)
    by_cases hc : sep c = true
    · rw [fields_cons_sep (by simp [hc]), fields_cons_sep hc, ih]
      rfl
    · have hc : sep c = false := by simpa using hc
      rw [fields_cons_of_not hc, hf, List.modifyHead_cons, List.flatMap_cons]
      rw [hf, List.flatMap_cons] at ih
      by_cases ho : other c = true
      · rw [fields_cons_sep (by simp [ho]), fields_cons_sep ho, ih]
        rfl
      · have ho : other c = false := by simpa using ho
        rw [fields_cons_of_not (by simp [hc, ho]), fields_cons_of_not ho, ih, hg]
        rfl

/-- Cutting at two kinds of separators is cutting at the one and then at the other. -/
theorem pieces_or (text : List Char) :
    pieces (fun c => sep c || other c) text = (pieces sep text).flatMap (pieces other) := by
  rw [pieces, fields_or, List.filter_flatMap, pieces]
  generalize fields sep text = texts
  induction texts with
  | nil => rfl
  | cons t texts ih =>
    rw [List.flatMap_cons, ih]
    by_cases ht : t = []
    · subst ht
      rfl
    · rw [List.filter_cons_of_pos (by simpa using ht), List.flatMap_cons, pieces]

theorem pieces_cons_sep {c : Char} (h : sep c = true) (rest : List Char) :
    pieces sep (c :: rest) = pieces sep rest :=
  pieces_append_sep h [] rest

/-- A gap in front of a text adds no piece. -/
theorem pieces_gap_append {gap : List Char} (blank : ∀ c ∈ gap, sep c = true)
    (rest : List Char) : pieces sep (gap ++ rest) = pieces sep rest := by
  induction gap with
  | nil => rfl
  | cons c gap ih =>
    obtain ⟨hc, blank⟩ := List.forall_mem_cons.mp blank
    rw [List.cons_append, pieces_cons_sep hc, ih blank]

/-- A run without separators is a piece, where the text ends behind it or goes on with a
separator. -/
theorem pieces_piece_append {piece rest : List Char} (ne : piece ≠ [])
    (free : ∀ c ∈ piece, sep c = false) (ends : ∀ c ∈ rest.head?, sep c = true) :
    pieces sep (piece ++ rest) = piece :: pieces sep rest := by
  have alone := pieces_eq_singleton ne free
  cases rest with
  | nil => rw [List.append_nil, alone, pieces_nil]
  | cons c rest =>
    have hc : sep c = true := ends c rfl
    rw [pieces_append_sep hc, alone, pieces_cons_sep hc]
    rfl

/-- Where there is more than separators, there is a piece. -/
theorem pieces_ne_nil {text : List Char} {c : Char} (mem : c ∈ text) (free : sep c = false) :
    pieces sep text ≠ [] := by
  induction text with
  | nil => cases mem
  | cons d rest ih =>
    by_cases hd : sep d = true
    · rw [pieces_cons_sep hd]
      rcases List.mem_cons.mp mem with rfl | mem
      · simp [hd] at free
      · exact ih mem
    · obtain ⟨f, fs, hf⟩ := List.exists_cons_of_ne_nil (fields_ne_nil sep rest)
      rw [pieces, fields_cons_of_not (by simpa using hd), hf]
      simp

/-- Runs without separators, none of them empty, are read back from the text that joins
them with one separator. -/
theorem pieces_intercalate {c : Char} (h : sep c = true) {parts : List (List Char)}
    (fine : ∀ part ∈ parts, part ≠ [] ∧ ∀ d ∈ part, sep d = false) :
    pieces sep ([c].intercalate parts) = parts := by
  induction parts with
  | nil => rfl
  | cons part rest ih =>
    obtain ⟨⟨ne, free⟩, fine⟩ := List.forall_mem_cons.mp fine
    cases rest with
    | nil => rw [List.intercalate_singleton, pieces_eq_singleton ne free]
    | cons next rest =>
      rw [List.intercalate_cons_cons, List.append_assoc, List.singleton_append,
        pieces_append_sep h, pieces_eq_singleton ne free, ih fine]
      rfl

theorem mem_intercalate {c d : Char} {parts : List (List Char)}
    (mem : d ∈ [c].intercalate parts) : d = c ∨ ∃ part ∈ parts, d ∈ part := by
  induction parts with
  | nil => cases mem
  | cons part rest ih =>
    cases rest with
    | nil =>
      rw [List.intercalate_singleton] at mem
      exact .inr ⟨part, List.mem_cons_self, mem⟩
    | cons next rest =>
      rw [List.intercalate_cons_cons, List.append_assoc, List.singleton_append] at mem
      rcases List.mem_append.mp mem with mem | mem
      · exact .inr ⟨part, List.mem_cons_self, mem⟩
      rcases List.mem_cons.mp mem with rfl | mem
      · exact .inl rfl
      · rcases ih mem with rfl | ⟨other, among, inside⟩
        · exact .inl rfl
        · exact .inr ⟨other, List.mem_cons_of_mem part among, inside⟩

/-- A run without separators that goes on behind a text lengthens its last piece, and
leaves the pieces in front of it as they are. -/
theorem pieces_across {p m : List Char} (ne : p ≠ []) (hp : ∀ c ∈ p, sep c = false)
    (hm : ∀ c ∈ m, sep c = false) (x y : List Char) : ∃ before last first after,
      pieces sep (x ++ p) = before ++ [last ++ p] ∧
      pieces sep (x ++ p ++ (m ++ y)) = before ++ ((last ++ p) ++ (m ++ first)) :: after := by
  obtain ⟨before, last, hx⟩ := exists_fields_eq_append sep x
  obtain ⟨first, after, hy⟩ := List.exists_cons_of_ne_nil (fields_ne_nil sep y)
  have front := fields_append hx (fields_eq_singleton hp)
  have inner : fields sep m = [] ++ [m] := fields_eq_singleton hm
  have whole := fields_append front (fields_append inner hy)
  refine ⟨before.filter (· ≠ []), last, first, after.filter (· ≠ []), ?_, ?_⟩
  · rw [pieces, front]
    simp [ne]
  · rw [pieces, whole]
    simp [ne]

/-! ### Layouts -/

/-- A piece with the gap behind it: characters that are no separators, and at least one
of them, and then separators, perhaps none. -/
structure Cell (sep : Char → Bool) where
  piece : List Char
  gap : List Char
  piece_ne : piece ≠ []
  piece_free : ∀ c ∈ piece, sep c = false
  gap_sep : ∀ c ∈ gap, sep c = true

/-- A text that is cut: a gap in front, perhaps empty, and the pieces with their gaps.
Only the gap at the end may be empty, so no piece goes on in the next one. -/
structure Layout (sep : Char → Bool) where
  lead : List Char
  cells : List (Cell sep)
  lead_sep : ∀ c ∈ lead, sep c = true
  gap_ne : ∀ cell ∈ cells.dropLast, cell.gap ≠ []

namespace Layout

/-- The pieces in the order in which they stand. -/
def pieces (l : Layout sep) : List (List Char) := l.cells.map Cell.piece

/-- The characters of some cells: each piece, and the gap behind it. -/
def chars (cells : List (Cell sep)) : List Char := cells.flatMap fun cell => cell.piece ++ cell.gap

/-- The characters of the whole text. -/
def text (l : Layout sep) : List Char := l.lead ++ chars l.cells

@[simp] theorem chars_cons (cell : Cell sep) (cells : List (Cell sep)) :
    chars (cell :: cells) = cell.piece ++ (cell.gap ++ chars cells) := by
  simp [chars]

@[simp] theorem chars_append (front back : List (Cell sep)) :
    chars (front ++ back) = chars front ++ chars back := by
  simp [chars]

/-- A gap may be empty only where nothing follows. -/
theorem gaps_cons_iff {cell : Cell sep} {cells : List (Cell sep)} :
    (∀ one ∈ (cell :: cells).dropLast, one.gap ≠ []) ↔
      (cells ≠ [] → cell.gap ≠ []) ∧ ∀ one ∈ cells.dropLast, one.gap ≠ [] := by
  cases cells <;> simp

theorem pieces_chars {cells : List (Cell sep)} (gap_ne : ∀ cell ∈ cells.dropLast, cell.gap ≠ []) :
    Text.pieces sep (chars cells) = cells.map Cell.piece := by
  induction cells with
  | nil => rfl
  | cons cell rest ih =>
    obtain ⟨between, gap_ne⟩ := gaps_cons_iff.mp gap_ne
    have ends : ∀ c ∈ (cell.gap ++ chars rest).head?, sep c = true := by
      intro c first
      cases gap : cell.gap with
      | nil =>
        -- Without a gap the cell is the last one.
        have last : rest = [] := Classical.byContradiction fun more => between more gap
        rw [gap, last] at first
        cases first
      | cons d others =>
        rw [gap] at first
        obtain rfl : d = c := Option.some.inj first
        exact cell.gap_sep d (gap ▸ List.mem_cons_self)
    rw [chars_cons, pieces_piece_append cell.piece_ne cell.piece_free ends,
      pieces_gap_append cell.gap_sep, ih gap_ne, List.map_cons]

/-- Up to a place in the gap behind a cell, a text holds the pieces up to that cell. -/
theorem pieces_upTo (l : Layout sep) {front back : List (Cell sep)} {cell : Cell sep}
    {gap rest : List Char} (split : l.cells = front ++ cell :: back)
    (cut : cell.gap = gap ++ rest) :
    Text.pieces sep (l.lead ++ (chars front ++ (cell.piece ++ gap))) =
      front.map Cell.piece ++ [cell.piece] := by
  let last : Cell sep := ⟨cell.piece, gap, cell.piece_ne, cell.piece_free,
    fun c mem => cell.gap_sep c (cut ▸ List.mem_append_left rest mem)⟩
  have gap_ne : ∀ one ∈ (front ++ [last]).dropLast, one.gap ≠ [] := by
    intro one mem
    rw [List.dropLast_concat] at mem
    refine l.gap_ne one ?_
    rw [split, List.dropLast_append_cons]
    exact List.mem_append_left _ mem
  have pieces := pieces_chars gap_ne
  rw [pieces_gap_append l.lead_sep]
  simpa [last, chars] using pieces

/-- A text is cut into the pieces of its layout. -/
theorem pieces_text (l : Layout sep) : Text.pieces sep l.text = l.pieces := by
  rw [text, pieces_gap_append l.lead_sep, pieces_chars l.gap_ne, pieces]

end Layout

/-- Every text has a layout. -/
theorem exists_layout (sep : Char → Bool) (text : List Char) :
    ∃ l : Layout sep, l.text = text := by
  induction text with
  | nil => exact ⟨⟨[], [], nofun, nofun⟩, rfl⟩
  | cons c rest ih =>
    obtain ⟨⟨lead, cells, lead_sep, gap_ne⟩, rfl⟩ := ih
    by_cases hc : sep c = true
    · exact ⟨⟨c :: lead, cells, List.forall_mem_cons.mpr ⟨hc, lead_sep⟩, gap_ne⟩, rfl⟩
    have free : sep c = false := by simpa using hc
    cases lead with
    | cons d lead =>
      let cell : Cell sep := ⟨[c], d :: lead, by simp, by simpa using free, lead_sep⟩
      refine ⟨⟨[], cell :: cells, nofun, ?_⟩, by simp [Layout.text, cell]⟩
      exact Layout.gaps_cons_iff.mpr ⟨fun _ => List.cons_ne_nil d lead, gap_ne⟩
    | nil =>
      cases cells with
      | nil =>
        let cell : Cell sep := ⟨[c], [], by simp, by simpa using free, nofun⟩
        exact ⟨⟨[], [cell], nofun, nofun⟩, by simp [Layout.text, Layout.chars, cell]⟩
      | cons next cells =>
        let cell : Cell sep := ⟨c :: next.piece, next.gap, List.cons_ne_nil c next.piece,
          List.forall_mem_cons.mpr ⟨free, next.piece_free⟩, next.gap_sep⟩
        obtain ⟨between, gap_ne⟩ := Layout.gaps_cons_iff.mp gap_ne
        refine ⟨⟨[], cell :: cells, nofun, ?_⟩, by simp [Layout.text, cell]⟩
        exact Layout.gaps_cons_iff.mpr ⟨between, gap_ne⟩

end NodeSelection.Text
