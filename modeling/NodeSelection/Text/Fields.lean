import NodeSelection.Text.Blank

/-!
Cutting a text at separators.

`fields` cuts at every separator and keeps empty fields; `pieces` are the
maximal runs without a separator; `words` are the pieces between blanks.

* `fields_append_sep`: a separator cuts a text into two that are cut apart.
* `not_sep_of_mem_fields`: no field holds a separator.
-/

namespace NodeSelection.Text

/-- The fields of a text between its separators: one more than there are
separators, and perhaps empty. -/
def fields (sep : Char → Bool) : List Char → List (List Char)
  | [] => [[]]
  | c :: rest => if sep c then [] :: fields sep rest else (fields sep rest).modifyHead (c :: ·)

/-- The maximal runs of characters that are no separators. -/
def pieces (sep : Char → Bool) (text : List Char) : List (List Char) :=
  (fields sep text).filter (· ≠ [])

/-- The maximal runs of characters that are not blank. -/
def words (text : List Char) : List (List Char) := pieces isBlank text

/-! ### Fields -/

@[simp] theorem fields_nil (sep : Char → Bool) : fields sep [] = [[]] := rfl

theorem fields_cons_sep {sep : Char → Bool} {c : Char} (h : sep c) (rest : List Char) :
    fields sep (c :: rest) = [] :: fields sep rest := by
  simp [fields, h]

theorem fields_cons_of_not {sep : Char → Bool} {c : Char} (h : sep c = false)
    (rest : List Char) : fields sep (c :: rest) = (fields sep rest).modifyHead (c :: ·) := by
  simp [fields, h]

@[simp] theorem fields_ne_nil (sep : Char → Bool) (text : List Char) : fields sep text ≠ [] := by
  induction text with
  | nil => simp
  | cons c rest ih => by_cases h : sep c <;> simp [fields, h, ih]

/-- A text is cut apart at each of its separators. -/
theorem fields_append_sep {sep : Char → Bool} {c : Char} (h : sep c) (before after : List Char) :
    fields sep (before ++ c :: after) = fields sep before ++ fields sep after := by
  induction before with
  | nil => simp [fields_cons_sep h]
  | cons d rest ih =>
    by_cases hd : sep d
    · simp [fields, hd, ih]
    · obtain ⟨f, fs, hf⟩ := List.exists_cons_of_ne_nil (fields_ne_nil sep rest)
      simp [fields, hd, ih, hf]

/-- No field holds a separator. -/
theorem not_sep_of_mem_fields {sep : Char → Bool} {text field : List Char}
    (mem : field ∈ fields sep text) : ∀ c ∈ field, sep c = false := by
  induction text generalizing field with
  | nil => simp_all
  | cons d rest ih =>
    by_cases hd : sep d
    · rw [fields_cons_sep hd] at mem
      rcases List.mem_cons.mp mem with rfl | mem
      · simp
      · exact ih mem
    · obtain ⟨f, fs, hf⟩ := List.exists_cons_of_ne_nil (fields_ne_nil sep rest)
      rw [fields_cons_of_not (by simpa using hd), hf] at mem
      rcases List.mem_cons.mp mem with rfl | mem
      · intro c hc
        rcases List.mem_cons.mp hc with rfl | hc
        · simpa using hd
        · exact ih (hf ▸ List.mem_cons_self) c hc
      · exact ih (hf ▸ List.mem_cons_of_mem _ mem)

/-- Without a separator the text is its only field. -/
theorem fields_eq_singleton {sep : Char → Bool} {text : List Char}
    (free : ∀ c ∈ text, sep c = false) : fields sep text = [text] := by
  induction text with
  | nil => rfl
  | cons c rest ih =>
    rw [fields_cons_of_not (free c (by simp)), ih fun d hd => free d (by simp [hd])]
    rfl

/-! ### Pieces -/

@[simp] theorem pieces_nil (sep : Char → Bool) : pieces sep [] = [] := rfl

/-- A separator keeps the pieces of its two sides apart. -/
theorem pieces_append_sep {sep : Char → Bool} {c : Char} (h : sep c) (before after : List Char) :
    pieces sep (before ++ c :: after) = pieces sep before ++ pieces sep after := by
  simp [pieces, fields_append_sep h]

theorem ne_nil_of_mem_pieces {sep : Char → Bool} {text piece : List Char}
    (mem : piece ∈ pieces sep text) : piece ≠ [] := by
  simpa using (List.mem_filter.mp mem).2

theorem not_sep_of_mem_pieces {sep : Char → Bool} {text piece : List Char}
    (mem : piece ∈ pieces sep text) : ∀ c ∈ piece, sep c = false :=
  not_sep_of_mem_fields (List.mem_filter.mp mem).1

/-- A text without separators is its only piece. -/
theorem pieces_eq_singleton {sep : Char → Bool} {text : List Char} (ne : text ≠ [])
    (free : ∀ c ∈ text, sep c = false) : pieces sep text = [text] := by
  simp [pieces, fields_eq_singleton free, ne]

end NodeSelection.Text
