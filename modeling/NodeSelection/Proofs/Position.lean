import NodeSelection.Selector.Reader

/-!
Reading a selector by position: both ends first, and then the kind.

The reader takes everything from the left and finds a final `+` last. Here the marks
in front and the `+` at the end are dropped before a kind is looked for, and the
kind is looked for in what is left between them.

* `takeMark_eq_dropFront`: a mark in front is dropped alike.
* `kindLead_prefix_append_plus`: no kind ends in `+`, so it does not matter whether a
  final `+` is dropped before the kind is looked for or after.
* `take_eq_drop`: what is left between the marks is read alike.
* `parse_eq_byPosition`: the two readings agree on every text.
-/

namespace NodeSelection.Selector

/-- Drops `lead` off a text that starts with it, and tells whether it does. -/
def dropFront (lead text : List Char) : Bool × List Char :=
  if lead <+: text then (true, text.drop lead.length) else (false, text)

/-- Drops `trail` off a text that ends with it, and tells whether it does. -/
def dropBack (trail text : List Char) : Bool × List Char :=
  if trail <:+ text then (true, text.take (text.length - trail.length)) else (false, text)

/-- The kind that a text starts with and the characters that write it; a text that
starts with none is of kind `fqn`. -/
def kindAt (text : List Char) : Kind × List Char :=
  if "fqn:".toList <+: text then (.fqn, "fqn:".toList)
  else if "tag:".toList <+: text then (.tag, "tag:".toList)
  else if "source:".toList <+: text then (.source, "source:".toList)
  else (.fqn, [])

/-- Reads a selector by position: `@`, a leading `+`, a final `+`, and then the kind.
The value is what is left. An error tells the whole text, and an empty value also the
column behind all that was dropped in front. -/
def byPosition (text : String) : Except SyntaxError Selector :=
  let (exact, afterAt) := dropFront ['@'] text.toList
  let (parents, afterPlus) := dropFront ['+'] afterAt
  let (children, body) := dropBack ['+'] afterPlus
  let (kind, lead) := kindAt body
  let value := body.drop lead.length
  if value = [] then
    .error (.emptyValue text (1 + (exact.toNat + parents.toNat + lead.length)))
  else if exact && (parents || children) then
    .error (.exclusiveModifiers text)
  else
    .ok ⟨kind, String.ofList value, exact, parents, children, text⟩

/-! ### Marks -/

theorem takeMark_eq_dropFront (mark : Char) (text : List Char) :
    Text.takeMark mark text = dropFront [mark] text := by
  cases text with
  | nil => simp [dropFront]
  | cons c rest =>
    by_cases h : c = mark
    · subst h
      simp [dropFront]
    · rw [Text.takeMark_of_ne h, dropFront, if_neg]
      simpa [List.cons_prefix_cons] using Ne.symm h

theorem length_dropFront (mark : Char) (text : List Char) :
    (dropFront [mark] text).1.toNat + (dropFront [mark] text).2.length = text.length := by
  unfold dropFront
  split
  · rename_i lead
    have := lead.length_le
    simp only [Bool.toNat_true, List.length_drop, List.length_cons, List.length_nil] at this ⊢
    omega
  · simp

/-- Either the text ends with the mark, or it stays whole. -/
theorem dropBack_cases (mark : Char) (text : List Char) :
    (∃ body, text = body ++ [mark] ∧ dropBack [mark] text = (true, body)) ∨
      (text.getLast? ≠ some mark ∧ dropBack [mark] text = (false, text)) := by
  by_cases plus : text.getLast? = some mark
  · obtain ⟨body, rfl⟩ := List.getLast?_eq_some_iff.mp plus
    exact .inl ⟨body, rfl, by simp [dropBack]⟩
  · refine .inr ⟨plus, if_neg fun ends => plus ?_⟩
    obtain ⟨body, rfl⟩ := ends
    simp

/-! ### What is left between the marks -/

theorem kindAt_cases (text : List Char) :
    (∃ kind value, text = kindLead kind ++ value ∧ kindAt text = (kind, kindLead kind)) ∨
      ((∀ kind, ¬ kindLead kind <+: text) ∧ kindAt text = (.fqn, [])) := by
  by_cases fqn : kindLead .fqn <+: text
  · obtain ⟨value, rfl⟩ := fqn
    exact .inl ⟨.fqn, value, rfl, if_pos (List.prefix_append ..)⟩
  by_cases tag : kindLead .tag <+: text
  · refine .inl ⟨.tag, text.drop 4, (List.prefix_iff_eq_append.mp tag).symm, ?_⟩
    exact (if_neg fqn).trans (if_pos tag)
  by_cases source : kindLead .source <+: text
  · refine .inl ⟨.source, text.drop 7, (List.prefix_iff_eq_append.mp source).symm, ?_⟩
    exact (if_neg fqn).trans ((if_neg tag).trans (if_pos source))
  · refine .inr ⟨fun kind => ?_, (if_neg fqn).trans ((if_neg tag).trans (if_neg source))⟩
    cases kind with
    | fqn => exact fqn
    | tag => exact tag
    | source => exact source

/-- No kind ends in `+`, so a final `+` does not show when a kind is looked for. -/
theorem kindLead_prefix_append_plus {kind : Kind} {body : List Char}
    (lead : kindLead kind <+: body ++ ['+']) : kindLead kind <+: body := by
  rcases List.prefix_concat_iff.mp lead with whole | lead
  · have last := congrArg List.getLast? whole
    simp [kindLead] at last
  · exact lead

/-- What is left between the marks in front and the end is read alike: the same kind,
the same value, and the same characters in front of it. -/
theorem take_eq_drop {rest body lead : List Char} {children : Bool} {kind : Kind}
    (back : dropBack ['+'] rest = (children, body)) (front : kindAt body = (kind, lead)) :
    ∃ afterKind, takeKind rest = (kind, afterKind) ∧
      takeValue afterKind = (body.drop lead.length, children) ∧
      lead.length + afterKind.length = rest.length := by
  rcases dropBack_cases '+' rest with ⟨body', rfl, dropped⟩ | ⟨other, dropped⟩
  · -- A final `+` stands behind the value, and behind nothing else.
    cases dropped.symm.trans back
    rcases kindAt_cases body with ⟨kind', value, rfl, found⟩ | ⟨free, found⟩
    · cases found.symm.trans front
      refine ⟨value ++ ['+'], by simp, by simp, by simp⟩
    · cases found.symm.trans front
      refine ⟨body ++ ['+'], takeKind_of_no_lead fun kind lead => ?_, by simp, by simp⟩
      exact free kind (kindLead_prefix_append_plus lead)
  · cases dropped.symm.trans back
    rcases kindAt_cases rest with ⟨kind', value, rfl, found⟩ | ⟨free, found⟩
    · cases found.symm.trans front
      have alone : value.getLast? ≠ some '+' := fun plus => other (by simp [plus])
      exact ⟨value, by simp, by simp [takeValue_of_not_plus alone], by simp⟩
    · cases found.symm.trans front
      exact ⟨rest, takeKind_of_no_lead free, by simp [takeValue_of_not_plus other], by simp⟩

/-- Reading from the left and reading by position agree on every text: they give the
same selector, or fail with the same error. -/
theorem parse_eq_byPosition (text : String) : Selector.parse text = byPosition text := by
  unfold Selector.parse byPosition
  simp only [takeMark_eq_dropFront]
  rcases at_ : dropFront ['@'] text.toList with ⟨exact, afterAt⟩
  rcases plus : dropFront ['+'] afterAt with ⟨parents, afterPlus⟩
  rcases back : dropBack ['+'] afterPlus with ⟨children, body⟩
  rcases front : kindAt body with ⟨kind, lead⟩
  obtain ⟨afterKind, takesKind, takesValue, length⟩ := take_eq_drop back front
  -- The column counts the characters in front of what is left for the value.
  have column : text.length - afterKind.length + 1 =
      1 + (exact.toNat + parents.toNat + lead.length) := by
    have one := length_dropFront '@' text.toList
    have two := length_dropFront '+' afterAt
    rw [at_, String.length_toList] at one
    rw [plus] at two
    dsimp only at one two
    omega
  simp only [takesKind, takesValue, column]

example : byPosition "source:+" = .error (.emptyValue "source:+" 8) := rfl

example : byPosition "+@a++" = .ok ⟨.fqn, "@a+", false, true, true, "+@a++"⟩ := rfl

end NodeSelection.Selector
