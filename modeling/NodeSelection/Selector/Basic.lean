import NodeSelection.Text.Fields

/-!
Selectors: what a single word such as `@tag:nightly` or `+a.b.c+` asks for.

A selector names a kind of property, the value that the property must have and
three modifiers. What the modifiers mean for a particular graph is left to the
lookup that resolves the selector.

* `Kind.ofName?_name`: a kind is read back from its name.
* `Selector.canonical`: the one text with the kind always written.
-/

namespace NodeSelection

/-- The property of a node that a selector looks at. -/
inductive Kind where
  /-- A fully qualified name, perhaps dotted. -/
  | fqn
  /-- A label attached to the node. -/
  | tag
  /-- The origin of the node, perhaps followed by a dot and a part of it. -/
  | source
deriving DecidableEq, Repr

namespace Kind

/-- The word that stands for the kind before the colon of a selector. -/
def name : Kind → String
  | fqn => "fqn"
  | tag => "tag"
  | source => "source"

/-- The kind with the given name; case counts. -/
def ofName? : String → Option Kind
  | "fqn" => some fqn
  | "tag" => some tag
  | "source" => some source
  | _ => none

@[simp] theorem ofName?_name (kind : Kind) : ofName? kind.name = some kind := by
  cases kind <;> rfl

/-- The complaint about a name that stands for no kind. -/
def unknownMessage (name : String) : String :=
  "Unknown selector type `" ++ name ++ "`: expected one of `fqn`, `tag` or `source`."

end Kind

/-- A selector, as read from one word or as given by a record. A record may hold
any combination of the fields. -/
structure Selector where
  kind : Kind
  value : String
  /-- Exactly the named node (`@`). -/
  exact : Bool
  /-- The ancestors too (a leading `+`). -/
  parents : Bool
  /-- The descendants too (a final `+`). -/
  children : Bool
  /-- The selector as it was written, for callers that use it as a key. -/
  raw : String
deriving DecidableEq, Repr

namespace Selector

/-- The value cut at its dots: name scopes, or an origin and a part of it. -/
def parts (s : Selector) : List String :=
  (Text.fields (· == '.') s.value.toList).map String.ofList

/-- A mark that is written when the modifier is set. -/
def marked (on : Bool) (mark : Char) : List Char := if on then [mark] else []

/-- The characters of the canonical text. -/
def canonicalChars (s : Selector) : List Char :=
  marked s.exact '@' ++ marked s.parents '+' ++ s.kind.name.toList ++ ':' :: s.value.toList ++
    marked s.children '+'

/-- The canonical text: modifiers where they are read, and the kind always written. -/
def canonical (s : Selector) : String := String.ofList s.canonicalChars

/-- The selector asks for nodes beyond those it names. -/
def expands (s : Selector) : Bool := s.parents || s.children

end Selector

end NodeSelection
