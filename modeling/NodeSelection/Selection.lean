import NodeSelection.Resolve

/-!
Selections: what to include less what to exclude.

The groups to include are resolved first, then those to exclude; the nodes that
the latter find are taken away from those of the former. The number of hops is
carried along for whoever expands the selection along a graph.

* `hits_eq`: with a lookup that only answers, the nodes that the groups to exclude
  find are taken from those that the groups to include find.
-/

namespace NodeSelection

/-- The groups to include, those to exclude, and how far an expansion may travel. -/
structure Selection where
  included : List Group
  excluded : List Group
  hops : Int64
deriving DecidableEq, Repr

namespace Selection

variable {σ ε N : Type}

/-- Reads the text to include, then the one to exclude. Nothing relates the two. -/
def read (request : Request) : Session σ SyntaxError Selection := do
  let included ← readGroups request.select
  let excluded ← readGroups request.exclude
  return ⟨included, excluded, request.hops⟩

/-- The selection of two texts, without a log. -/
def parse (request : Request) : Except SyntaxError Selection :=
  (read request).outcome

variable [DecidableEq N]

/-- Resolves a selection with a lookup that may fail. -/
def trySelect (lookup : Lookup σ ε N) (s : Selection) : Session σ ε (Hits N) := do
  let included ← resolve lookup s.included
  let excluded ← resolve lookup s.excluded
  let kept := included.difference excluded
  Session.note (.narrowed kept.selected.length included.selected.length)
  return kept

/-- Resolves a selection with a lookup that cannot fail. -/
def select (lookup : Lookup σ Empty N) (s : Selection) : Session σ Empty (Hits N) :=
  s.trySelect lookup

/-- What a selection finds when each selector has a fixed answer. -/
def hits (find : Selector → Hits N) (s : Selection) : Hits N :=
  (s.select fun selector => pure (find selector)).value

/-- What is included less what is excluded. -/
theorem hits_eq (find : Selector → Hits N) (s : Selection) :
    s.hits find = (hitsOf find s.included).difference (hitsOf find s.excluded) := by
  refine Session.value_eq_of_outcome ?_
  rw [Session.outcome, select, trySelect,
    Session.run_bind_of_ok (run_resolve find s.included ()),
    Session.run_bind_of_ok (run_resolve find s.excluded ()),
    Session.run_bind_of_ok (Session.run_note _ ())]
  rfl

end Selection

end NodeSelection
