import NodeSelection.Selector.Reader

/-!
Groups: the selectors of one word, in the order they were written.

A word without a comma holds one selector. The pieces of a word between its
commas are joined: their answers are intersected. A text is a list of words, and
its groups are united.

* `Group.parseAll`: the groups of a text, or the error of its first bad piece.
* `Method.ofName?_name`: a method is read back from its name.
-/

namespace NodeSelection

/-- How the answers to a group's selectors become the answer to the group. -/
inductive Method where
  /-- What every selector finds. -/
  | intersect
  /-- What some selector finds: the method of a group with a lone selector. -/
  | unite
deriving DecidableEq, Repr

namespace Method

/-- The name of the method in a record. -/
def name : Method → String
  | intersect => "intersect"
  | unite => "none"

/-- The method with the given name; case counts. -/
def ofName? : String → Option Method
  | "intersect" => some intersect
  | "none" => some unite
  | _ => none

@[simp] theorem ofName?_name (method : Method) : ofName? method.name = some method := by
  cases method <;> rfl

end Method

/-- Selectors that are answered together. A record may hold any number of them
with either method. -/
structure Group where
  method : Method
  selectors : List Selector
deriving DecidableEq, Repr

namespace Group

/-- The group of a list of selectors: none for no selector, a lone selector alone,
and several intersected. -/
def ofSelectors : List Selector → Option Group
  | [] => none
  | [s] => some ⟨.unite, [s]⟩
  | s :: t :: rest => some ⟨.intersect, s :: t :: rest⟩

/-- The selectors of a word, read in order until one fails. -/
def parseWord (word : List Char) : Except SyntaxError (List Selector) :=
  (Text.pieces (· == ',') word).mapM fun piece => Selector.parse (String.ofList piece)

/-- The groups of a text: one per word, without those that are nothing but commas. -/
def parseAll (text : String) : Except SyntaxError (List Group) := do
  let words ← (Text.words text.toList).mapM parseWord
  return words.filterMap ofSelectors

end Group

/-- The words of a text: its maximal runs without a blank. -/
def splitWords (text : String) : List String :=
  (Text.words text.toList).map String.ofList

end NodeSelection
