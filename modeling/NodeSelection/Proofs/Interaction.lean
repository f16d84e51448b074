import NodeSelection.Proofs.FirstMention
import NodeSelection.Proofs.Regrouping

/-!
How unions, intersections and differences go together, with their order.

An intersection and a difference keep some members of their first operand where they stand: each
is a filter, and what it keeps depends on the members of the other operands alone. A union keeps
first mentions. A filter neither makes nor moves a first mention, so it can be taken before the
union or after it. The laws are therefore equalities of lists, and hold with any repeats.

* `foldl_difference_of_perm`: what is taken away may be taken away in parts, in any order.
* `intersect_union_left`: a union in front of an intersection.
* `difference_difference`: what remains is taken away, and what is shared is left.
* `count_difference_or_intersect`: a member goes to one side, with all its repeats.
* `operations_interact`: the laws together.
-/

namespace NodeSelection.Ordered

variable {N : Type} [DecidableEq N]

/-- Sequences may be taken away one after the other, in any order. -/
theorem foldl_difference_of_perm {order removed : List (List N)} (perm : order.Perm removed)
    (keep : List N) : difference keep (union removed) = order.foldl difference keep := by
  have mentions : ∀ x, x ∈ union removed ↔ x ∈ union order := fun x => by
    simp only [mem_union, perm.mem_iff]
  rw [difference_congr mentions, difference_union_right]

/-- An intersection with a union in front is that with each of its sequences, united. -/
theorem intersect_union_left (sequences others : List (List N)) :
    intersect (union sequences :: others) = union (sequences.map fun s => intersect (s :: others)) :=
  filter_union _ sequences

/-- Without what remains when `remove` is taken away, what `remove` holds is left. -/
theorem difference_difference (keep remove : List N) :
    difference keep (difference keep remove) = intersect [keep, remove] := by
  rw [difference, intersect_cons]
  refine List.filter_congr fun x mem => ?_
  rw [decide_eq_decide, mem_difference, List.forall_mem_singleton]
  constructor
  · intro stays
    by_contra absent
    exact stays ⟨mem, absent⟩
  · intro held stays
    exact stays.2 held

/-! ### Repeats -/

theorem count_difference_of_notMem {x : N} {remove : List N} (absent : x ∉ remove)
    (keep : List N) : (difference keep remove).count x = keep.count x :=
  List.count_filter (decide_eq_true absent)

theorem count_intersect_pair_of_mem {x : N} {other : List N} (held : x ∈ other)
    (keep : List N) : (intersect [keep, other]).count x = keep.count x := by
  have shared : ∀ s ∈ [other], x ∈ s := List.forall_mem_singleton.mpr held
  rw [count_intersect_cons, if_pos shared]

/-- All repeats of a member go to one side: what is left without the others, or what is shared
with them. -/
theorem count_difference_or_intersect (keep other : List N) (x : N) :
    (difference keep other).count x = keep.count x ∧ x ∉ intersect [keep, other] ∨
      x ∉ difference keep other ∧ (intersect [keep, other]).count x = keep.count x := by
  by_cases held : x ∈ other
  · refine .inr ⟨?_, count_intersect_pair_of_mem held keep⟩
    intro stays
    exact (mem_difference.mp stays).2 held
  · refine .inl ⟨count_difference_of_notMem held keep, ?_⟩
    intro shared
    exact held ((mem_intersect_cons.mp shared).2 other List.mem_cons_self)

/-- The operations interact as those on sets do, and more is true: the lists are equal, with
their order and their repeats. A union can be taken away in parts and in any order. Taking away
from a union and intersecting a union with others act on each of its sequences. What remains after
what remains is taken away is shared, and of what is shared and what remains each member is on
one side, as often as it was there before. -/
theorem operations_interact :
    (∀ (keep : List N) (removed order : List (List N)), order.Perm removed →
      difference keep (union removed) = order.foldl difference keep) ∧
    (∀ (sequences : List (List N)) (remove : List N),
      difference (union sequences) remove = union (sequences.map fun s => difference s remove)) ∧
    (∀ sequences others : List (List N), intersect (union sequences :: others) =
      union (sequences.map fun s => intersect (s :: others))) ∧
    (∀ keep remove : List N,
      difference keep (difference keep remove) = intersect [keep, remove]) ∧
    ∀ keep other : List N, ∀ x ∈ keep,
      (x ∈ difference keep other ∧ (difference keep other).count x = keep.count x ∧
          x ∉ intersect [keep, other]) ∨
        x ∉ difference keep other ∧ x ∈ intersect [keep, other] ∧
          (intersect [keep, other]).count x = keep.count x := by
  refine ⟨?_, difference_union_left, intersect_union_left, difference_difference, ?_⟩
  · intro keep removed order perm
    exact foldl_difference_of_perm perm keep
  · intro keep other x mem
    have some : 0 < keep.count x := List.count_pos_iff.mpr mem
    rcases count_difference_or_intersect keep other x with ⟨all, none⟩ | ⟨none, all⟩
    · exact .inl ⟨List.count_pos_iff.mp (all ▸ some), all, none⟩
    · exact .inr ⟨none, List.count_pos_iff.mp (all ▸ some), all⟩

/-- Repeats in every operand, and what is taken away turned around. -/
theorem operations_interact_repeats :
    let keep := [4, 1, 4, 3, 1, 2, 5]
    let removed := [[2, 2, 9], [], [1, 2]]
    removed.reverse.Perm removed ∧ difference keep (union removed) = [4, 4, 3, 5] ∧
      removed.reverse.foldl difference keep = [4, 4, 3, 5] ∧
      4 ∈ keep ∧ (difference keep [1, 2]).count 4 = 2 ∧ 4 ∉ intersect [keep, [1, 2]] := by
  intro keep removed
  obtain ⟨parts, -, -, -, sides⟩ := operations_interact (N := Nat)
  have turned : removed.reverse.Perm removed := List.reverse_perm removed
  have left : difference keep (union removed) = [4, 4, 3, 5] := rfl
  have mem : 4 ∈ keep := List.mem_cons_self
  refine ⟨turned, left, (parts keep removed _ turned).symm.trans left, mem, ?_⟩
  rcases sides keep [1, 2] 4 mem with ⟨-, all, none⟩ | ⟨gone, -, -⟩
  · exact ⟨all, none⟩
  · exact absurd (by decide) gone

end NodeSelection.Ordered
