import NodeSelection.Proofs.Admission
import NodeSelection.Selection

/-!
What a selection keeps: the nodes that a group to include admits and no group to
exclude does.

The groups of a selection are arbitrary, with either method and any number of
selectors, as a record may hold them.

* `on_hits_eq_filter`: the included nodes stay in order, without the excluded ones.
* `on_hits_congr`: a side depends on the answers on that side, and not on the hops.
* `parse_of_ok`: two texts that can be read make a selection.
* `hits_keeps`: the three together.
-/

namespace NodeSelection.Selection

variable {N : Type} [DecidableEq N]

/-- A sequence of nodes is what a selection keeps when its selectors have these answers. -/
structure Keeps (s : Selection) (answer : Selector → List N) (found : List N) : Prop where
  /-- A node is kept when it is included and not excluded. -/
  mem_iff : ∀ n, n ∈ found ↔
    (∃ g ∈ s.included, g.Admits answer n) ∧ ¬ ∃ g ∈ s.excluded, g.Admits answer n
  /-- Each node is kept once. -/
  nodup : found.Nodup
  /-- Nodes stay where the groups to include mention them first. -/
  eq_filter : found = (Ordered.union (s.included.map (Group.sequence answer))).filter fun n =>
    ¬ ∃ g ∈ s.excluded, g.Admits answer n

theorem on_hits_eq_filter (side : Side) (s : Selection) (find : Selector → Hits N) :
    (s.hits find).on side =
      (Ordered.union (s.included.map (Group.sequence fun t => (find t).on side))).filter fun n =>
        ¬ ∃ g ∈ s.excluded, g.Admits (fun t => (find t).on side) n := by
  rw [hits_eq, Hits.on_difference, Ordered.difference, on_hitsOf side find s.included]
  simp only [mem_on_hitsOf_iff]

theorem keeps_on_hits (side : Side) (s : Selection) (find : Selector → Hits N) :
    s.Keeps (fun t => (find t).on side) ((s.hits find).on side) := by
  constructor
  · intro n
    rw [hits_eq, Hits.on_difference, Ordered.mem_difference, mem_on_hitsOf_iff, mem_on_hitsOf_iff]
  · rw [on_hits_eq_filter]
    exact (Ordered.nodup_union _).filter _
  · exact on_hits_eq_filter side s find

/-- What is found on a side depends on the groups and on the answers on that side
alone: neither the other side nor the hops can show. -/
theorem on_hits_congr {side : Side} {s t : Selection} {find find' : Selector → Hits N}
    (included : t.included = s.included) (excluded : t.excluded = s.excluded)
    (same : ∀ u, (find' u).on side = (find u).on side) :
    (t.hits find').on side = (s.hits find).on side := by
  rw [on_hits_eq_filter, on_hits_eq_filter, included, excluded]
  simp only [same]

theorem parse_of_ok {request : Request} {included excluded : List Group}
    (hi : Group.parseAll request.select = .ok included)
    (he : Group.parseAll request.exclude = .ok excluded) :
    Selection.parse request = .ok ⟨included, excluded, request.hops⟩ := by
  rw [Selection.parse, Session.outcome, Selection.read,
    Session.run_bind_of_ok (run_readGroups_of_ok hi ()),
    Session.run_bind_of_ok (run_readGroups_of_ok he ())]
  rfl

/-- A selection keeps on each side what its groups to include admit and those to
exclude do not. Nothing else of the answers shows, and nor do the hops. For two
texts, it is the difference of what the texts find. -/
theorem hits_keeps (s : Selection) (find : Selector → Hits N) :
    (∀ side, s.Keeps (fun t => (find t).on side) ((s.hits find).on side)) ∧
    (∀ side (find' : Selector → Hits N) hops, (∀ t, (find' t).on side = (find t).on side) →
      ({ s with hops := hops }.hits find').on side = (s.hits find).on side) ∧
    ∀ (request : Request) (included excluded : List Group),
      Group.parseAll request.select = .ok included →
      Group.parseAll request.exclude = .ok excluded →
      ∃ one two, applyTo find request.select = .ok one ∧ applyTo find request.exclude = .ok two ∧
        Selection.parse request = .ok ⟨included, excluded, request.hops⟩ ∧
        hits find ⟨included, excluded, request.hops⟩ = one.difference two := by
  refine ⟨fun side => keeps_on_hits side s find, ?_, ?_⟩
  · intro side find' hops same
    exact on_hits_congr rfl rfl same
  · intro request included excluded hi he
    exact ⟨hitsOf find included, hitsOf find excluded, applyTo_of_ok hi find,
      applyTo_of_ok he find, parse_of_ok hi he, hits_eq ..⟩

/-- A node that is excluded on one side only stays on the other; groups without a
selector neither include nor exclude. -/
example :
    let a : Selector := ⟨.fqn, "a", false, false, false, "a"⟩
    let b : Selector := ⟨.tag, "b", false, true, false, "+tag:b"⟩
    let find : Selector → Hits Nat := fun s => if s = a then ⟨[3, 1, 3], [1, 2]⟩ else ⟨[2], [1]⟩
    hits find ⟨[⟨.intersect, []⟩, ⟨.unite, [b, a]⟩], [⟨.unite, []⟩, ⟨.intersect, [b]⟩], 7⟩ =
      ⟨[3, 1], [2]⟩ := by
  decide

end NodeSelection.Selection
