import NodeSelection.Selector.Basic
import NodeSelection.Text.Lead

/-!
Reading a selector from its text: `@`, `+`, a kind with its colon (each of them
may be missing), a value, and a final `+`.

Marks and the kind are taken greedily from the left. Of the rest, only a `+` that
ends the text is a modifier; every other character belongs to the value, which
must not be empty.

* `marked_takeMark_append`, `takeKind_append`, `takeValue_append`: no character is lost.
* `takeMark_marked_append`, `takeKind_kindLead_append`, `takeValue_append_plus`: what is
  written is taken.
-/

namespace NodeSelection

/-- Why a text is no selector. -/
inductive SyntaxError where
  /-- Nothing is left where the value should begin, at `column` (counted from 1). -/
  | emptyValue (selector : String) (column : Nat)
  /-- The mark `@` stands together with a `+`. -/
  | exclusiveModifiers (selector : String)
deriving DecidableEq, Repr

namespace SyntaxError

/-- The text that failed. -/
def selector : SyntaxError → String
  | emptyValue selector _ => selector
  | exclusiveModifiers selector => selector

def message : SyntaxError → String
  | emptyValue selector column =>
    "Failed to parse selector `" ++ selector ++
      "`: expected a non-empty selector value at column " ++ toString column ++ "."
  | exclusiveModifiers selector =>
    "Failed to parse selector `" ++ selector ++
      "`: `@` selects exactly one node, and cannot be combined with `+` parent or child selection."

end SyntaxError

namespace Selector

/-! ### The parts of the text -/

/-- The name of a kind with the colon that ends it. -/
def kindLead (kind : Kind) : List Char := kind.name.toList ++ [':']

/-- Takes a kind off the front of the text; without one, the kind is `fqn`. -/
def takeKind (text : List Char) : Kind × List Char :=
  ([Kind.fqn, .tag, .source].findSome? fun kind =>
    (Text.dropLead? (kindLead kind) text).map (kind, ·)).getD (.fqn, text)

/-- The value, and whether a `+` ends the text after it. -/
def takeValue : List Char → List Char × Bool
  | [] => ([], false)
  | ['+'] => ([], true)
  | c :: rest =>
    let (value, plus) := takeValue rest
    (c :: value, plus)

/-- Reads a selector. An empty value is reported before a clash of modifiers. -/
def parse (text : String) : Except SyntaxError Selector :=
  let (exact, afterAt) := Text.takeMark '@' text.toList
  let (parents, afterPlus) := Text.takeMark '+' afterAt
  let (kind, afterKind) := takeKind afterPlus
  let (value, children) := takeValue afterKind
  if value = [] then
    .error (.emptyValue text (text.length - afterKind.length + 1))
  else if exact && (parents || children) then
    .error (.exclusiveModifiers text)
  else
    .ok ⟨kind, String.ofList value, exact, parents, children, text⟩

/-! ### No character is lost -/

@[simp] theorem marked_takeMark_append (mark : Char) (text : List Char) :
    marked (Text.takeMark mark text).1 mark ++ (Text.takeMark mark text).2 = text := by
  cases text with
  | nil => rfl
  | cons c rest => by_cases h : c = mark <;> simp [Text.takeMark, marked, h]

/-- Either a kind is written in front and taken off, or the text stays whole. -/
theorem takeKind_append (text : List Char) :
    text = kindLead (takeKind text).1 ++ (takeKind text).2 ∨ takeKind text = (.fqn, text) := by
  unfold takeKind
  cases h : ([Kind.fqn, .tag, .source].findSome? fun kind =>
      (Text.dropLead? (kindLead kind) text).map (kind, ·)) with
  | none => exact .inr rfl
  | some taken =>
    obtain ⟨kind, _, found⟩ := List.exists_of_findSome?_eq_some h
    obtain ⟨rest, lead, rfl⟩ := Option.map_eq_some_iff.mp found
    exact .inl (Text.dropLead?_eq_some_iff.mp lead)

@[simp] theorem takeValue_append (text : List Char) :
    (takeValue text).1 ++ marked (takeValue text).2 '+' = text := by
  fun_induction takeValue text with
  | case1 => rfl
  | case2 => rfl
  | case3 c rest _ value plus taken ih => simp_all

/-! ### What is written is taken -/

/-- A mark is taken where it is written, if no second one follows. -/
theorem takeMark_marked_append {mark : Char} {rest : List Char} (other : rest.head? ≠ some mark)
    (on : Bool) : Text.takeMark mark (marked on mark ++ rest) = (on, rest) := by
  cases on with
  | true => exact Text.takeMark_self mark rest
  | false =>
    cases rest with
    | nil => rfl
    | cons c rest => exact Text.takeMark_of_ne (by simpa using other) rest

/-- A kind is taken where it is written. -/
@[simp] theorem takeKind_kindLead_append (kind : Kind) (rest : List Char) :
    takeKind (kindLead kind ++ rest) = (kind, rest) := by
  cases kind <;> simp [takeKind, kindLead, Kind.name, Text.dropLead?]

/-- Where no kind is written the text stays whole. -/
theorem takeKind_of_no_lead {text : List Char} (free : ∀ kind, ¬ kindLead kind <+: text) :
    takeKind text = (.fqn, text) := by
  refine (takeKind_append text).resolve_left fun written => ?_
  exact free _ (written ▸ List.prefix_append ..)

/-- A final `+` is taken, whatever the value before it is. -/
@[simp] theorem takeValue_append_plus (value : List Char) :
    takeValue (value ++ ['+']) = (value, true) := by
  induction value with
  | nil => rfl
  | cons c rest ih =>
    cases rest <;> simp_all [takeValue]

/-- Without a final `+` the text is the value. -/
theorem takeValue_of_not_plus {text : List Char} (other : text.getLast? ≠ some '+') :
    takeValue text = (text, false) := by
  have whole := takeValue_append text
  cases plus : (takeValue text).2 with
  | true =>
    rw [plus] at whole
    exact absurd (by rw [← whole]; simp [marked]) other
  | false =>
    rw [plus] at whole
    exact Prod.ext (by simpa [marked] using whole) plus

/-- What is left as a value alone does not end in a `+`. -/
theorem not_plus_of_takeValue {text : List Char} (alone : (takeValue text).2 = false) :
    (takeValue text).1.getLast? ≠ some '+' := by
  intro plus
  have whole := takeValue_append text
  rw [alone] at whole
  obtain ⟨value, ends⟩ := List.getLast?_eq_some_iff.mp plus
  rw [ends] at whole
  rw [← whole] at alone
  simp [marked] at alone

end Selector

end NodeSelection
