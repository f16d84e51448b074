import NodeSelection.Ordered
import NodeSelection.Group

/-!
Hits: the nodes that a lookup finds for a selector.

The sequences `matched` and `selected` are carried along side by side. Nothing
relates the one to the other, and each operation acts on each of them alone.
-/

namespace NodeSelection

/-- The nodes found: those that meet the selector, and those it selects. -/
structure Hits (N : Type) where
  matched : List N
  selected : List N
deriving DecidableEq, Repr

namespace Hits

variable {N : Type}

/-- Nothing found. -/
def empty : Hits N := ⟨[], []⟩

/-- The same nodes in both components. -/
def both (nodes : List N) : Hits N := ⟨nodes, nodes⟩

/-- Every node renamed. -/
def map {M : Type} (f : N → M) (h : Hits N) : Hits M := ⟨h.matched.map f, h.selected.map f⟩

variable [DecidableEq N]

/-- What all of the hits hold, in the order of the first. -/
def intersect (hits : List (Hits N)) : Hits N :=
  ⟨Ordered.intersect (hits.map matched), Ordered.intersect (hits.map selected)⟩

/-- What some of the hits hold, each node once. -/
def union (hits : List (Hits N)) : Hits N :=
  ⟨Ordered.union (hits.map matched), Ordered.union (hits.map selected)⟩

/-- What is kept when the nodes of `remove` are taken away. -/
def difference (keep remove : Hits N) : Hits N :=
  ⟨Ordered.difference keep.matched remove.matched,
   Ordered.difference keep.selected remove.selected⟩

/-- The answers to a group's selectors, combined by its method. -/
def combine : Method → List (Hits N) → Hits N
  | .intersect, answers => intersect answers
  | .unite, answers => union answers

end Hits

end NodeSelection
