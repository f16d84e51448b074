/-!
Set operations on sequences that keep the order of first mention.

Members are compared by equality alone: no order on them and no hash can show.

* `intersect_cons`: an intersection is a filter of its first sequence.
* `mem_intersect_cons`, `mem_union`, `mem_difference`: the operations are the
  set operations of the members.
* `intersect_sublist`, `difference_sublist`: what is kept stays in order, with
  its repeats.
* `firstMention_induction`: erasing repeats goes member by member.
* `nodup_union`: a union has no repeats.
-/

namespace NodeSelection.Ordered

variable {N : Type} [DecidableEq N]

/-- What the first sequence holds and every other one too; nothing for no sequence.
Repeats of the first sequence stay. -/
def intersect : List (List N) → List N
  | [] => []
  | first :: others => first.filter fun x => others.all fun other => decide (x ∈ other)

/-- All sequences one after the other, each member where it stands first. -/
def union (sequences : List (List N)) : List N := sequences.flatten.eraseDups

/-- What `keep` holds and `remove` does not. Repeats stay. -/
def difference (keep remove : List N) : List N := keep.filter fun x => decide (x ∉ remove)

/-- An intersection by what is asked of its members. -/
theorem intersect_cons (first : List N) (others : List (List N)) :
    intersect (first :: others) = first.filter fun x => ∀ other ∈ others, x ∈ other := by
  refine List.filter_congr fun x _ => ?_
  rw [Bool.eq_iff_iff, List.all_eq_true, decide_eq_true_eq]
  simp only [decide_eq_true_eq]

/-! ### Members -/

@[simp] theorem mem_intersect_cons {x : N} {first : List N} {others : List (List N)} :
    x ∈ intersect (first :: others) ↔ x ∈ first ∧ ∀ other ∈ others, x ∈ other := by
  simp [intersect]

@[simp] theorem mem_union {x : N} {sequences : List (List N)} :
    x ∈ union sequences ↔ ∃ s ∈ sequences, x ∈ s := by
  simp [union, List.mem_eraseDups]

@[simp] theorem mem_difference {x : N} {keep remove : List N} :
    x ∈ difference keep remove ↔ x ∈ keep ∧ x ∉ remove := by
  simp [difference]

/-! ### Order and repeats -/

theorem intersect_sublist (first : List N) (others : List (List N)) :
    (intersect (first :: others)).Sublist first :=
  List.filter_sublist

theorem difference_sublist (keep remove : List N) : (difference keep remove).Sublist keep :=
  List.filter_sublist

/-- Induction along the first mentions of a sequence: its first member, and the
rest without that member. -/
@[elab_as_elim] theorem firstMention_induction {motive : List N → Prop} (s : List N)
    (nil : motive [])
    (cons : ∀ x rest, motive (rest.filter fun y => !y == x) → motive (x :: rest)) :
    motive s := by
  induction h : s.length using Nat.strongRecOn generalizing s with
  | ind n ih =>
    subst h
    cases s with
    | nil => exact nil
    | cons x rest =>
      exact cons x rest (ih _ (Nat.lt_succ_of_le (List.length_filter_le ..)) _ rfl)

/-- Erasing repeats leaves none. -/
theorem nodup_eraseDups (s : List N) : s.eraseDups.Nodup := by
  induction s using firstMention_induction with
  | nil => exact List.nodup_nil
  | cons x rest ih =>
    rw [List.eraseDups_cons, List.nodup_cons]
    refine ⟨fun mem => ?_, ih⟩
    simpa using List.mem_eraseDups.mp mem

theorem nodup_union (sequences : List (List N)) : (union sequences).Nodup :=
  nodup_eraseDups _

@[simp] theorem intersect_nil : intersect ([] : List (List N)) = [] := rfl

@[simp] theorem union_nil : union ([] : List (List N)) = [] := rfl

@[simp] theorem difference_nil (keep : List N) : difference keep [] = keep := by
  simp [difference]

end NodeSelection.Ordered
