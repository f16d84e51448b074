import Mathlib.Data.List.Nodup
import NodeSelection.Ordered

/-!
Intersections of sequences that are reordered or regrouped.

The first sequence gives the order of an intersection and its repeats. Of the others
only what they hold counts: they may change places, be repeated or lose repeats, and the
intersection may be taken in parts, and the same list comes out. Where the first sequence
changes places too, the members stay and the order does not.

* `eq_intersect_iff`: an intersection, told by its order and by how often members occur.
* `intersect_cons_congr`: the sequences behind the first one count by what they share.
* `intersect_intersect_cons`, `intersect_block`: intersections inside intersections.
* `mem_intersect_iff`: the members do not depend on which sequence is the first.
* `intersect_regroups`: the laws together.
-/

namespace NodeSelection.Ordered

variable {N : Type} [DecidableEq N] {first : List N} {others later : List (List N)}

/-! ### What is kept of the first sequence -/

/-- A member that all others hold is kept as often as it stands in the first sequence. -/
theorem count_intersect_cons (x : N) (first : List N) (others : List (List N)) :
    (intersect (first :: others)).count x =
      if ∀ other ∈ others, x ∈ other then first.count x else 0 := by
  by_cases shared : ∀ other ∈ others, x ∈ other
  · rw [if_pos shared, intersect_cons]
    exact List.count_filter (by simpa using shared)
  · rw [if_neg shared, List.count_eq_zero]
    exact fun mem => shared (mem_intersect_cons.mp mem).2

/-- The intersection is the one part of the first sequence, in its order, that has all
occurrences of the members that the others hold, and no other members. -/
theorem eq_intersect_iff {kept : List N} : kept = intersect (first :: others) ↔
    kept.Sublist first ∧
      ∀ x, kept.count x = if ∀ other ∈ others, x ∈ other then first.count x else 0 := by
  constructor
  · rintro rfl
    exact ⟨intersect_sublist first others, fun x => count_intersect_cons x first others⟩
  · rintro ⟨inside, counts⟩
    have perm : kept.Perm (intersect (first :: others)) :=
      List.perm_iff_count.mpr fun x => by rw [counts, count_intersect_cons]
    -- All that is kept passes the filter, so it lies inside of the intersection.
    have passes : kept.filter (fun x => ∀ other ∈ others, x ∈ other) = kept :=
      List.filter_eq_self.mpr fun x mem =>
        decide_eq_true (mem_intersect_cons.mp (perm.subset mem)).2
    have within : kept.Sublist (intersect (first :: others)) := by
      rw [intersect_cons, ← passes]
      exact inside.filter _
    exact within.eq_of_length perm.length_eq

/-! ### The sequences behind the first one -/

/-- The sequences behind the first one count by what they have in common. -/
theorem intersect_cons_congr
    (same : ∀ x, (∀ other ∈ later, x ∈ other) ↔ ∀ other ∈ others, x ∈ other) :
    intersect (first :: later) = intersect (first :: others) := by
  rw [intersect_cons, intersect_cons]
  simp only [same]

/-- The same sequences in another order, or another number of times. -/
theorem intersect_cons_of_subset (fewer : later ⊆ others) (more : others ⊆ later) :
    intersect (first :: later) = intersect (first :: others) :=
  intersect_cons_congr fun _ =>
    ⟨fun shared other mem => shared other (more mem),
      fun shared other mem => shared other (fewer mem)⟩

/-- Sequences with the same members each, in another order or another number of times. -/
theorem intersect_cons_of_same_members
    (same : List.Forall₂ (fun s t => ∀ x, x ∈ s ↔ x ∈ t) later others) :
    intersect (first :: later) = intersect (first :: others) := by
  refine intersect_cons_congr fun x => ?_
  induction same with
  | nil => rfl
  | cons head _ ih => rw [List.forall_mem_cons, List.forall_mem_cons, head, ih]

/-! ### Intersections in parts -/

/-- An intersection may be intersected with further sequences. -/
theorem intersect_intersect_cons (first : List N) (some rest : List (List N)) :
    intersect (intersect (first :: some) :: rest) = intersect (first :: (some ++ rest)) := by
  rw [intersect_cons, intersect_cons, intersect_cons, List.filter_filter]
  refine List.filter_congr fun x _ => ?_
  rw [Bool.eq_iff_iff, Bool.and_eq_true]
  simp only [decide_eq_true_eq, List.forall_mem_append, and_comm]

/-- Sequences that stand together may be replaced by their intersection. -/
theorem intersect_block {block : List (List N)} (ne : block ≠ []) (front back : List (List N)) :
    intersect (first :: (front ++ intersect block :: back)) =
      intersect (first :: (front ++ block ++ back)) := by
  obtain ⟨head, tail, rfl⟩ := List.exists_cons_of_ne_nil ne
  refine intersect_cons_congr fun x => ?_
  simp only [List.forall_mem_append, List.forall_mem_cons, mem_intersect_cons, and_assoc]

/-! ### The first sequence among the others -/

theorem mem_intersect_iff {x : N} {sequences : List (List N)} :
    x ∈ intersect sequences ↔ sequences ≠ [] ∧ ∀ s ∈ sequences, x ∈ s := by
  cases sequences <;> simp

theorem mem_intersect_of_perm {one two : List (List N)} (perm : one.Perm two) (x : N) :
    x ∈ intersect one ↔ x ∈ intersect two := by
  simp only [mem_intersect_iff, ne_eq, perm.mem_iff, ← List.length_eq_zero_iff, perm.length_eq]

theorem nodup_intersect {sequences : List (List N)} (nodup : ∀ s ∈ sequences, s.Nodup) :
    (intersect sequences).Nodup := by
  cases sequences with
  | nil => exact List.nodup_nil
  | cons first others => exact (nodup first List.mem_cons_self).filter _

/-- What several sequences have in common, in the order of the first. Of the others neither
their order counts nor their number, nor the order and the repeats in them, nor in which
parts the intersection is taken. Where all sequences change places, the members are still
the same, and without repeats they are so one for one. -/
theorem intersect_regroups (first : List N) (others : List (List N)) :
    (∀ kept, kept = intersect (first :: others) ↔ kept.Sublist first ∧
      ∀ x, kept.count x = if ∀ other ∈ others, x ∈ other then first.count x else 0) ∧
    (∀ later, later ⊆ others → others ⊆ later →
      intersect (first :: later) = intersect (first :: others)) ∧
    (∀ later, List.Forall₂ (fun s t => ∀ x, x ∈ s ↔ x ∈ t) later others →
      intersect (first :: later) = intersect (first :: others)) ∧
    (∀ some rest, (some ++ rest).Perm others →
      intersect (intersect (first :: some) :: rest) = intersect (first :: others)) ∧
    (∀ front block back, block ≠ [] → front ++ block ++ back = others →
      intersect (first :: (front ++ intersect block :: back)) = intersect (first :: others)) ∧
    ∀ sequences, sequences.Perm (first :: others) →
      (∀ x, x ∈ intersect sequences ↔ x ∈ intersect (first :: others)) ∧
      ((∀ s ∈ sequences, s.Nodup) →
        (intersect sequences).Perm (intersect (first :: others))) := by
  refine ⟨fun _ => eq_intersect_iff, fun _ => intersect_cons_of_subset,
    fun _ => intersect_cons_of_same_members, ?_, ?_, ?_⟩
  · intro some rest perm
    rw [intersect_intersect_cons]
    exact intersect_cons_of_subset perm.subset perm.symm.subset
  · rintro front block back ne rfl
    exact intersect_block ne front back
  · intro sequences perm
    have members := mem_intersect_of_perm perm
    refine ⟨members, fun nodup => ?_⟩
    have nodup' : ∀ s ∈ first :: others, s.Nodup := fun s mem => nodup s (perm.mem_iff.mpr mem)
    exact (List.perm_ext_iff_of_nodup (nodup_intersect nodup) (nodup_intersect nodup')).mpr members

/-- A first sequence with repeats, and a row of sequences without them that is turned
around. -/
theorem intersect_regroups_repeats :
    let first := [3, 1, 3, 2, 4]
    let others := [[2, 3, 3], [4, 3, 2], [1, 2, 3]]
    intersect (first :: others) = [3, 3, 2] ∧ [3, 3, 2].Sublist first ∧
      intersect [first, [1, 2, 3], [4, 3, 2], [1, 2, 3], [2, 3, 3]] = intersect (first :: others) ∧
      intersect [first, [3, 2, 2], [2, 3, 4], [1, 3, 2]] = intersect (first :: others) ∧
      intersect [intersect [first, [4, 3, 2]], [1, 2, 3], [2, 3, 3]] =
        intersect (first :: others) ∧
      intersect [first, [2, 3, 3], intersect [[4, 3, 2], [1, 2, 3]]] =
        intersect (first :: others) ∧
      (intersect [[2, 5, 3], [1, 2, 3], [3, 2, 4]]).Perm
        (intersect [[3, 2, 4], [1, 2, 3], [2, 5, 3]]) := by
  intro first others
  obtain ⟨told, reorders, remembers, parts, blocks, -⟩ := intersect_regroups first others
  obtain ⟨-, -, -, -, -, turns⟩ := intersect_regroups [3, 2, 4] [[1, 2, 3], [2, 5, 3]]
  have members : List.Forall₂ (fun s t => ∀ x, x ∈ s ↔ x ∈ t)
      [[3, 2, 2], [2, 3, 4], [1, 3, 2]] others := by
    refine .cons ?_ (.cons ?_ (.cons ?_ .nil)) <;> intro x <;> simp <;> omega
  have kept : [3, 3, 2] = intersect (first :: others) := by decide
  exact ⟨kept.symm, ((told _).mp kept).1, reorders _ (by decide) (by decide),
    remembers _ members, parts [[4, 3, 2]] [[1, 2, 3], [2, 3, 3]] (by decide),
    blocks [[2, 3, 3]] [[4, 3, 2], [1, 2, 3]] [] (by decide) rfl,
    (turns _ (by decide)).2 (by decide)⟩

end NodeSelection.Ordered
