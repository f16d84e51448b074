import NodeSelection.Proofs.FirstMention

/-!
Unions that are collected member by member.

A union can be collected in one pass: each member is put behind those that are kept, unless it
is one of them. At any time the members that are kept are the first mentions of what the pass has
gone through. First mentions are told here without a pass, and just one list fits what is told.
So what a union holds and how it is ordered is known from the row of its sequences alone. It does
not matter whether parts of the row were collected before, and a sequence that mentions nothing
new leaves no trace.

* `KeepsFirst`: the first mentions of a row, told without a pass.
* `KeepsFirst.enter`, `KeepsFirst.foldl_enter`: the pass keeps the first mentions, member by member.
* `KeepsFirst.unique`: no other list fits.
* `union_eq_foldl_enter`: a union is what the pass collects.
* `union_collects`: the laws together.
-/

namespace NodeSelection.Ordered

variable {N : Type} [DecidableEq N] {row kept : List N}

/-- The list holds the members of the row, each of them once and in the order in which the row
mentions them first. -/
structure KeepsFirst (row kept : List N) : Prop where
  nodup : kept.Nodup
  mem_iff : ∀ x, x ∈ kept ↔ x ∈ row
  order : ∀ x ∈ kept, ∀ y ∈ kept, kept.idxOf x < kept.idxOf y ↔ row.idxOf x < row.idxOf y

/-- A member is put behind those that are kept, unless it is one of them. -/
def enter (kept : List N) (x : N) : List N := if x ∈ kept then kept else kept ++ [x]

/-! ### First mentions -/

/-- A member that is absent stands behind all others, so the order needs no members. -/
theorem KeepsFirst.idxOf_lt_iff (first : KeepsFirst row kept) (x y : N) :
    kept.idxOf x < kept.idxOf y ↔ row.idxOf x < row.idxOf y := by
  by_cases hx : x ∈ kept
  · by_cases hy : y ∈ kept
    · exact first.order x hx y hy
    · have absent : y ∉ row := fun mem => hy ((first.mem_iff y).mpr mem)
      have present := (first.mem_iff x).mp hx
      rw [List.idxOf_eq_length hy, List.idxOf_eq_length absent, List.idxOf_lt_length_iff,
        List.idxOf_lt_length_iff]
      exact first.mem_iff x
  · have absent : x ∉ row := fun mem => hx ((first.mem_iff x).mpr mem)
    rw [List.idxOf_eq_length hx, List.idxOf_eq_length absent]
    exact iff_of_false (Nat.not_lt.mpr List.idxOf_le_length) (Nat.not_lt.mpr List.idxOf_le_length)

/-- Without repeats the members stand in the order of the row, pair by pair. -/
theorem KeepsFirst.pairwise (first : KeepsFirst row kept) :
    kept.Pairwise fun x y => row.idxOf x < row.idxOf y := by
  refine List.pairwise_iff_getElem.mpr fun i j hi hj before => ?_
  refine (first.idxOf_lt_iff _ _).mp ?_
  rwa [first.nodup.idxOf_getElem i hi, first.nodup.idxOf_getElem j hj]

/-- A row has one list of first mentions. -/
theorem KeepsFirst.unique {one two : List N} (first : KeepsFirst row one)
    (second : KeepsFirst row two) : one = two := by
  have perm : one.Perm two := (List.perm_ext_iff_of_nodup first.nodup second.nodup).mpr fun x =>
    (first.mem_iff x).trans (second.mem_iff x).symm
  exact perm.eq_of_pairwise (fun x y _ _ before behind => absurd before (Nat.lt_asymm behind))
    first.pairwise second.pairwise

theorem keepsFirst_union (sequences : List (List N)) :
    KeepsFirst sequences.flatten (union sequences) where
  nodup := nodup_union sequences
  mem_iff _ := List.mem_eraseDups
  order x _ y _ := idxOf_eraseDups_lt_iff x y sequences.flatten

theorem eq_union_iff {sequences : List (List N)} :
    kept = union sequences ↔ KeepsFirst sequences.flatten kept :=
  ⟨fun same => same ▸ keepsFirst_union sequences, fun first => first.unique (keepsFirst_union _)⟩

/-! ### The pass -/

theorem enter_of_mem {x : N} (mem : x ∈ kept) : enter kept x = kept := if_pos mem

theorem enter_of_notMem {x : N} (new : x ∉ kept) : enter kept x = kept ++ [x] := if_neg new

/-- A member behind a list does not move the members of the list, and stands where it was
missed. -/
theorem idxOf_concat_of_mem {s : List N} {x y : N} (mem : y ∈ s ++ [x]) :
    (s ++ [x]).idxOf y = s.idxOf y := by
  by_cases hy : y ∈ s
  · exact List.idxOf_append_of_mem hy
  · have same : y = x := by simpa [hy] using mem
    rw [List.idxOf_append_of_notMem hy, List.idxOf_eq_length hy, same, List.idxOf_cons_self,
      Nat.add_zero]

/-- What is kept are the first mentions, also after one more member of the row. -/
theorem KeepsFirst.enter (first : KeepsFirst row kept) (x : N) :
    KeepsFirst (row ++ [x]) (enter kept x) := by
  by_cases mem : x ∈ kept
  · -- The row mentions `x` again, behind the first mentions of all that is kept.
    have old : x ∈ row := (first.mem_iff x).mp mem
    rw [enter_of_mem mem]
    refine ⟨first.nodup, fun y => ?_, fun y hy z hz => ?_⟩
    · rw [first.mem_iff, List.mem_append, List.mem_singleton]
      exact ⟨.inl, fun among => among.elim id fun same => same ▸ old⟩
    · rw [List.idxOf_append_of_mem ((first.mem_iff y).mp hy),
        List.idxOf_append_of_mem ((first.mem_iff z).mp hz)]
      exact first.order y hy z hz
  · -- Row and list are both longer by `x`, which stands where it was missed before.
    rw [enter_of_notMem mem]
    have members : ∀ y, y ∈ kept ++ [x] ↔ y ∈ row ++ [x] := fun y => by
      rw [List.mem_append, List.mem_append, first.mem_iff]
    refine ⟨?_, members, fun y hy z hz => ?_⟩
    · refine List.nodup_append.mpr ⟨first.nodup, List.pairwise_singleton _ x, ?_⟩
      rintro y hy z hz rfl
      exact mem (List.mem_singleton.mp hz ▸ hy)
    · rw [idxOf_concat_of_mem hy, idxOf_concat_of_mem hz,
        idxOf_concat_of_mem ((members y).mp hy), idxOf_concat_of_mem ((members z).mp hz)]
      exact first.idxOf_lt_iff y z

/-- What is kept are the first mentions, also after more of the row. -/
theorem KeepsFirst.foldl_enter (first : KeepsFirst row kept) (more : List N) :
    KeepsFirst (row ++ more) (more.foldl Ordered.enter kept) := by
  induction more generalizing row kept with
  | nil => rwa [List.append_nil]
  | cons x more ih =>
    have next := ih (first.enter x)
    rwa [List.append_assoc] at next

/-- A union is what the pass collects, sequence after sequence. -/
theorem union_eq_foldl_enter (sequences : List (List N)) :
    union sequences = sequences.foldl (fun kept s => s.foldl enter kept) [] := by
  have none : KeepsFirst ([] : List N) [] := keepsFirst_union []
  have whole := none.foldl_enter sequences.flatten
  rw [List.nil_append] at whole
  rw [← List.foldl_flatten]
  exact (keepsFirst_union sequences).unique whole

/-- The pass leaves no trace of a sequence whose members are all kept. -/
theorem foldl_enter_of_subset {s : List N} (old : s ⊆ kept) : s.foldl enter kept = kept := by
  induction s with
  | nil => rfl
  | cons x rest ih =>
    obtain ⟨mem, old⟩ := List.cons_subset.mp old
    rw [List.foldl_cons, enter_of_mem mem, ih old]

/-- A sequence that mentions nothing new may stand anywhere behind the others. -/
theorem union_insert_of_mentioned {before : List (List N)} {s : List N}
    (mentioned : ∀ x ∈ s, ∃ earlier ∈ before, x ∈ earlier) (after : List (List N)) :
    union (before ++ s :: after) = union (before ++ after) := by
  have old : s ⊆ union before := fun x mem => mem_union.mpr (mentioned x mem)
  rw [union_eq_foldl_enter before] at old
  rw [union_eq_foldl_enter, union_eq_foldl_enter, List.foldl_append, List.foldl_append,
    List.foldl_cons, foldl_enter_of_subset old]

/-- What a union holds, and in which order. It is the one list without repeats whose members are
those of the sequences in one row, in the order of their first mentions there; so it is also
what a pass over the sequences collects. Parts of the row may be united beforehand, and a
sequence may be put in behind others that mention all of its members. -/
theorem union_collects :
    (∀ (sequences : List (List N)) (kept : List N),
      kept = union sequences ↔ KeepsFirst sequences.flatten kept) ∧
    (∀ sequences : List (List N),
      union sequences = sequences.foldl (fun kept s => s.foldl enter kept) []) ∧
    (∀ families : List (List (List N)), union (families.map union) = union families.flatten) ∧
    ∀ (before after : List (List N)) (s : List N),
      (∀ x ∈ s, ∃ earlier ∈ before, x ∈ earlier) →
      union (before ++ s :: after) = union (before ++ after) := by
  refine ⟨fun _ _ => eq_union_iff, union_eq_foldl_enter, union_map_union, ?_⟩
  intro before after s mentioned
  exact union_insert_of_mentioned mentioned after

/-- Sequences with repeats that overlap, an empty one among them. -/
theorem union_collects_overlaps :
    let before := [[3, 1, 3], [], [2, 1]]
    let after := [[4, 2], [1, 5]]
    KeepsFirst [3, 1, 3, 2, 1, 4, 2, 1, 5] [3, 1, 2, 4, 5] ∧
      union [union before, union [], union after] = [3, 1, 2, 4, 5] ∧
      (∀ x ∈ [2, 3, 2], ∃ earlier ∈ before, x ∈ earlier) ∧
      union (before ++ [2, 3, 2] :: after) = [3, 1, 2, 4, 5] := by
  intro before after
  obtain ⟨told, -, parts, inserts⟩ := union_collects (N := Nat)
  have found : [3, 1, 2, 4, 5] = union (before ++ after) := rfl
  have mentioned : ∀ x ∈ [2, 3, 2], ∃ earlier ∈ before, x ∈ earlier := by decide
  refine ⟨(told _ _).mp found, ?_, mentioned, ?_⟩
  · exact (parts [before, [], after]).trans found.symm
  · exact (inserts before after [2, 3, 2] mentioned).trans found.symm

end NodeSelection.Ordered
