import NodeSelection.Proofs.FirstMention
import NodeSelection.Resolve

/-!
Admission: which nodes a group lets in, on each side of the hits.

The two sequences of the hits never mix, so each statement is made for one side
and a function that gives the answers on that side.

* `on_union` and its kin: each operation on hits acts side by side.
* `mem_sequence_iff`: a group's sequence holds the nodes that the group admits.
* `on_hitsOf`: what groups find on a side is the union of their sequences, and
  reads the answers on that side alone.
-/

namespace NodeSelection

/-- One of the two sequences of the hits. -/
inductive Side where
  | matched
  | selected
deriving DecidableEq, Repr

variable {N : Type}

namespace Hits

/-- The sequence on a side. -/
def on : Side → Hits N → List N
  | .matched => matched
  | .selected => selected

theorem ext_on {one two : Hits N} (same : ∀ side, one.on side = two.on side) : one = two := by
  obtain ⟨matched, selected⟩ := one
  exact congrArg₂ Hits.mk (same .matched) (same .selected)

variable [DecidableEq N]

@[simp] theorem on_intersect (side : Side) (hits : List (Hits N)) :
    (intersect hits).on side = Ordered.intersect (hits.map (on side)) := by
  cases side <;> rfl

@[simp] theorem on_union (side : Side) (hits : List (Hits N)) :
    (union hits).on side = Ordered.union (hits.map (on side)) := by
  cases side <;> rfl

@[simp] theorem on_difference (side : Side) (keep remove : Hits N) :
    (keep.difference remove).on side = Ordered.difference (keep.on side) (remove.on side) := by
  cases side <;> rfl

end Hits

namespace Group

/-- The group lets a node in: every selector of an intersected group must find it
(and there must be one), and some selector of a united group. -/
def Admits (answer : Selector → List N) (g : Group) (n : N) : Prop :=
  match g.method with
  | .intersect => g.selectors ≠ [] ∧ ∀ s ∈ g.selectors, n ∈ answer s
  | .unite => ∃ s ∈ g.selectors, n ∈ answer s

variable [DecidableEq N]

/-- The sequence of a group when each selector has a fixed answer. -/
def sequence (answer : Selector → List N) (g : Group) : List N :=
  match g.method with
  | .intersect => Ordered.intersect (g.selectors.map answer)
  | .unite => Ordered.union (g.selectors.map answer)

/-- A group's sequence holds the nodes that the group admits. -/
theorem mem_sequence_iff {answer : Selector → List N} {g : Group} {n : N} :
    n ∈ g.sequence answer ↔ g.Admits answer n := by
  obtain ⟨method, selectors⟩ := g
  cases method with
  | intersect => cases selectors <;> simp [sequence, Admits]
  | unite => simp [sequence, Admits]

instance (answer : Selector → List N) (g : Group) (n : N) : Decidable (g.Admits answer n) :=
  decidable_of_iff (n ∈ g.sequence answer) mem_sequence_iff

@[simp] theorem on_hits (side : Side) (find : Selector → Hits N) (g : Group) :
    (g.hits find).on side = g.sequence fun s => (find s).on side := by
  obtain ⟨method, selectors⟩ := g
  cases method <;> simp [hits, Hits.combine, sequence, Function.comp_def]

end Group

variable [DecidableEq N]

/-- What groups find on a side is the union of their sequences there: the other side
of the answers is never read. -/
theorem on_hitsOf (side : Side) (find : Selector → Hits N) (groups : List Group) :
    (hitsOf find groups).on side =
      Ordered.union (groups.map (Group.sequence fun s => (find s).on side)) := by
  simp [hitsOf, Function.comp_def]

theorem mem_on_hitsOf_iff {side : Side} {find : Selector → Hits N} {groups : List Group} {n : N} :
    n ∈ (hitsOf find groups).on side ↔ ∃ g ∈ groups, g.Admits (fun s => (find s).on side) n := by
  simp [on_hitsOf, Group.mem_sequence_iff]

end NodeSelection
