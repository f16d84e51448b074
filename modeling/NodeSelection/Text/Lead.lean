/-!
Taking the beginning off a text.

* `dropLead?_eq_some_iff`: a beginning is taken off exactly where it stands.
* `takeMark_of_ne`: a mark that does not stand there leaves the text whole.
* `cutAt?_eq_some_iff`: a text is cut at the first mark.
-/

namespace NodeSelection.Text

/-- Takes `mark` off the front of the text, if it stands there. -/
def takeMark (mark : Char) : List Char → Bool × List Char
  | [] => (false, [])
  | c :: rest => if c = mark then (true, rest) else (false, c :: rest)

/-- The rest of a text that begins with `lead`. -/
def dropLead? : List Char → List Char → Option (List Char)
  | [], text => some text
  | _ :: _, [] => none
  | l :: lead, c :: rest => if l = c then dropLead? lead rest else none

/-- The longest run of characters of a class at the front, and the rest. -/
def span (cls : Char → Bool) (text : List Char) : List Char × List Char :=
  (text.takeWhile cls, text.dropWhile cls)

/-- What stands before and after the first `mark`. -/
def cutAt? (mark : Char) : List Char → Option (List Char × List Char)
  | [] => none
  | c :: rest =>
    if c = mark then some ([], rest)
    else (cutAt? mark rest).map fun (before, after) => (c :: before, after)

@[simp] theorem takeMark_nil (mark : Char) : takeMark mark [] = (false, []) := rfl

@[simp] theorem takeMark_self (mark : Char) (rest : List Char) :
    takeMark mark (mark :: rest) = (true, rest) := by
  simp [takeMark]

theorem takeMark_of_ne {mark c : Char} (h : c ≠ mark) (rest : List Char) :
    takeMark mark (c :: rest) = (false, c :: rest) := by
  simp [takeMark, h]

theorem dropLead?_eq_some_iff {lead text rest : List Char} :
    dropLead? lead text = some rest ↔ text = lead ++ rest := by
  induction lead generalizing text with
  | nil => simp [dropLead?]
  | cons l lead ih =>
    cases text with
    | nil => simp [dropLead?]
    | cons c text =>
      by_cases h : l = c
      · simp [dropLead?, h, ih]
      · simp [dropLead?, h, Ne.symm h]

/-- A text is cut at the first mark. -/
theorem cutAt?_eq_some_iff {mark : Char} {text before after : List Char} :
    cutAt? mark text = some (before, after) ↔ text = before ++ mark :: after ∧ mark ∉ before := by
  induction text generalizing before with
  | nil => simp [cutAt?]
  | cons c rest ih =>
    by_cases h : c = mark
    · subst h
      cases before with
      | nil => simp [cutAt?, eq_comm]
      | cons d before =>
        simp only [cutAt?, if_pos, Option.some.injEq, Prod.mk.injEq, List.nil_eq,
          reduceCtorEq, false_and, false_iff, not_and, List.cons_append, List.cons.injEq]
        rintro ⟨rfl, _⟩
        simp
    · cases before with
      | nil => simp [cutAt?, h]
      | cons d before =>
        simp only [cutAt?, if_neg h, Option.map_eq_some_iff, Prod.mk.injEq, Prod.exists,
          List.cons.injEq, List.cons_append, List.mem_cons, not_or]
        constructor
        · rintro ⟨_, _, found, ⟨rfl, rfl⟩, rfl⟩
          obtain ⟨rfl, free⟩ := ih.mp found
          exact ⟨⟨rfl, rfl⟩, Ne.symm h, free⟩
        · rintro ⟨⟨rfl, rfl⟩, _, free⟩
          exact ⟨_, _, ih.mpr ⟨rfl, free⟩, ⟨rfl, rfl⟩, rfl⟩

/-- Without the mark a text is not cut. -/
theorem cutAt?_eq_none_iff {mark : Char} {text : List Char} :
    cutAt? mark text = none ↔ mark ∉ text := by
  induction text with
  | nil => simp [cutAt?]
  | cons c rest ih =>
    by_cases h : c = mark
    · simp [cutAt?, h]
    · simp [cutAt?, h, ih, Ne.symm h]

end NodeSelection.Text
