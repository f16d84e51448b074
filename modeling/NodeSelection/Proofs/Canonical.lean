import NodeSelection.Selector.Reader

/-!
The canonical text of a selector, and which selectors are read back from it.

A record may hold any value with any modifiers. Its canonical text is read back as
the same selector exactly when the selector is well formed, and whatever is read
from a text is well formed.

* `parse_canonical`: a well-formed selector is read back.
* `wellFormed_of_parse`: what is read is well formed.
* `parse_canonical_iff`: canonical texts and well-formed selectors belong together.
-/

namespace NodeSelection.Selector

/-- The selector can be read from a text: it has a value, `@` stands alone, and no `+`
at the end of its value would be taken for a modifier. -/
structure WellFormed (t : Selector) : Prop where
  value_ne : t.value ≠ ""
  alone : t.exact = true → t.parents = false ∧ t.children = false
  last : t.children = false → t.value.toList.getLast? ≠ some '+'

instance (t : Selector) : Decidable t.WellFormed :=
  decidable_of_iff (t.value ≠ "" ∧ (t.exact = true → t.parents = false ∧ t.children = false) ∧
      (t.children = false → t.value.toList.getLast? ≠ some '+'))
    ⟨fun ⟨ne, alone, last⟩ => ⟨ne, alone, last⟩, fun ⟨ne, alone, last⟩ => ⟨ne, alone, last⟩⟩

/-! ### Reading the canonical text -/

theorem canonicalChars_eq (t : Selector) : t.canonicalChars =
    marked t.exact '@' ++ (marked t.parents '+' ++
      (kindLead t.kind ++ (t.value.toList ++ marked t.children '+'))) := by
  simp [canonicalChars, kindLead]

/-- No kind is taken for a mark. -/
theorem head?_kindLead_append (kind : Kind) (rest : List Char) :
    (kindLead kind ++ rest).head? ≠ some '+' ∧ (kindLead kind ++ rest).head? ≠ some '@' := by
  cases kind <;> simp [kindLead, Kind.name]

theorem head?_marked_append_kindLead (on : Bool) (kind : Kind) (rest : List Char) :
    (marked on '+' ++ (kindLead kind ++ rest)).head? ≠ some '@' := by
  cases on with
  | true => simp [marked]
  | false => exact (head?_kindLead_append kind rest).2

/-- The value is taken whole, with the final `+` behind it or without. -/
theorem takeValue_append_marked {value : List Char} {children : Bool}
    (last : children = false → value.getLast? ≠ some '+') :
    takeValue (value ++ marked children '+') = (value, children) := by
  cases children with
  | true => exact takeValue_append_plus value
  | false =>
    rw [marked, if_neg (by simp), List.append_nil]
    exact takeValue_of_not_plus (last rfl)

theorem parse_canonical {t : Selector} (formed : t.WellFormed) :
    Selector.parse t.canonical = .ok { t with raw := t.canonical } := by
  obtain ⟨ne, alone, last⟩ := formed
  have value : t.value.toList ≠ [] := by simpa using ne
  have apart : (t.exact && (t.parents || t.children)) = false := by
    cases exact : t.exact with
    | false => rfl
    | true => simp [alone exact]
  have takesAt := takeMark_marked_append
    (head?_marked_append_kindLead t.parents t.kind (t.value.toList ++ marked t.children '+')) t.exact
  have takesPlus := takeMark_marked_append
    (head?_kindLead_append t.kind (t.value.toList ++ marked t.children '+')).1 t.parents
  have chars : t.canonical.toList = t.canonicalChars := String.toList_ofList
  unfold Selector.parse
  rw [chars, canonicalChars_eq, takesAt]
  dsimp only
  rw [takesPlus]
  dsimp only
  rw [takeKind_kindLead_append, takeValue_append_marked last]
  dsimp only
  rw [if_neg value, if_neg (by simp [apart]), String.ofList_toList]

/-! ### What is read -/

theorem wellFormed_of_parse {text : String} {s : Selector}
    (parsed : Selector.parse text = .ok s) : s.WellFormed := by
  unfold Selector.parse at parsed
  rcases front : Text.takeMark '@' text.toList with ⟨exact, afterAt⟩
  rcases plus : Text.takeMark '+' afterAt with ⟨parents, afterPlus⟩
  rcases lead : takeKind afterPlus with ⟨kind, afterKind⟩
  rcases taken : takeValue afterKind with ⟨value, children⟩
  simp only [front, plus, lead, taken] at parsed
  split at parsed
  · cases parsed
  · rename_i ne
    split at parsed
    · cases parsed
    · rename_i apart
      cases parsed
      have last : children = false → value.getLast? ≠ some '+' := fun alone => by
        have last := not_plus_of_takeValue (by rw [taken]; exact alone)
        rwa [taken] at last
      constructor
      · simpa using ne
      · rintro rfl
        simpa using apart
      · simpa using last

/-- A canonical text is read back exactly when the selector is well formed. Every
selector that is read from a text is, so its canonical text gives the same selector
but for the raw text, and does not change when it is read and written again. -/
theorem parse_canonical_iff :
    (∀ t : Selector,
      Selector.parse t.canonical = .ok { t with raw := t.canonical } ↔ t.WellFormed) ∧
    ∀ (text : String) (s : Selector), Selector.parse text = .ok s →
      s.WellFormed ∧ Selector.parse s.canonical = .ok { s with raw := s.canonical } ∧
        (Selector.parse s.canonical).map canonical = .ok s.canonical := by
  constructor
  · intro t
    constructor
    · intro parsed
      obtain ⟨ne, alone, last⟩ := wellFormed_of_parse parsed
      exact ⟨ne, alone, last⟩
    · exact parse_canonical
  · intro text s parsed
    have formed := wellFormed_of_parse parsed
    have back := parse_canonical formed
    refine ⟨formed, back, ?_⟩
    rw [back]
    rfl

example : ¬ (⟨.tag, "a+", false, true, false, ""⟩ : Selector).WellFormed := by decide

example : (⟨.tag, "@fqn:a+", false, true, true, ""⟩ : Selector).WellFormed := by decide

end NodeSelection.Selector
