import NodeSelection.Resolve

/-!
Manifests: flat lists of nodes that selectors can be looked up in.

A manifest knows no edges between its nodes. So a selector finds the nodes that
meet it and no others, `matched` and `selected` are the same, and a selector that
asks for parents or children is only recorded.

* `run_lookup`: a lookup finds what meets the selector, and records one that expands.
-/

namespace NodeSelection

/-- Where a node comes from: the name of an origin, and perhaps a part of it. -/
structure Origin where
  name : String
  table : Option String
deriving DecidableEq, Repr

/-- A node: its identifier, its fully qualified name in components, its labels and
its origin. -/
structure Node where
  id : String
  fqn : List String
  tags : List String
  origin : Option Origin
deriving DecidableEq, Repr

/-- The nodes in the order of the manifest. Identifiers may repeat. -/
structure Manifest where
  nodes : List Node
deriving DecidableEq, Repr

/-! ### Meeting a selector -/

/-- The origin meets a value: the name alone, or the name and the part after the
first dot of the value. -/
def Origin.meets (o : Origin) (value : String) : Bool :=
  match Text.cutAt? '.' value.toList with
  | some (name, table) => o.name == String.ofList name && o.table == some (String.ofList table)
  | none => o.name == value

/-- The name meets a selector for names. An exact selector gives all components; any
other gives the last component, or the components from the first on. -/
def Node.nameMeets (node : Node) (s : Selector) : Bool :=
  if s.exact then node.fqn == s.parts
  else node.fqn.getLast? == some s.value || s.parts.isPrefixOf node.fqn

/-- The node meets the selector; modifiers that expand it play no part. -/
def Node.meets (node : Node) (s : Selector) : Bool :=
  match s.kind with
  | .fqn => node.nameMeets s
  | .tag => node.tags.contains s.value
  | .source => node.origin.any (·.meets s.value)

namespace Manifest

/-- The identifiers of the nodes that meet the selector, in the order of the manifest. -/
def find (m : Manifest) (s : Selector) : Hits String :=
  Hits.both ((m.nodes.filter (·.meets s)).map Node.id)

/-- Looks a selector up. One that expands is recorded: the manifest has no edges. -/
def lookup {σ ε : Type} (m : Manifest) (s : Selector) : Session σ ε (Hits String) := do
  if s.expands then Session.note (.withoutEdges s.raw)
  return m.find s

/-- A lookup finds what `find` does, and records a selector that expands. -/
theorem run_lookup {σ ε : Type} (m : Manifest) (s : Selector) (state : σ) :
    (m.lookup s : Session σ ε (Hits String)).run state =
      ⟨.ok (m.find s), state, if s.expands then [.withoutEdges s.raw] else []⟩ := by
  by_cases h : s.expands
  · rw [lookup, if_pos h, Session.run_bind_of_ok (Session.run_note _ state), if_pos h]
    simp
  · rw [lookup, if_neg h, if_neg h]
    rfl

end Manifest

end NodeSelection
