import Mathlib.Data.List.Basic
import NodeSelection.Ordered

/-!
First mentions: what a union keeps of each of its sequences, and in which order.

Erasing repeats keeps each member where it stands first. So it commutes with a
filter, and of two members the one that was mentioned first stays in front.

* `filter_eraseDups`, `eraseDups_append_eq`: erasing repeats against a filter and
  against a sequence in front.
* `union_cons_congr`: a union reads its sequences only up to repeats.
* `union_map_union`, `filter_union`: unions inside unions, and a filter of a union.
* `difference_union_left`, `difference_union_right`: differences on either side of a union.
* `idxOf_eraseDups_lt_iff`: the order of first mentions is kept.
* `idxOf_union_lt_iff`: it is the order of `mention`: the sequence that mentions a
  member first, and then the place in it.
-/

namespace NodeSelection.Ordered

variable {N : Type} [DecidableEq N]

/-! ### Erasing repeats -/

/-- A filter neither creates nor moves a first mention. -/
theorem filter_eraseDups (p : N → Bool) (s : List N) :
    s.eraseDups.filter p = (s.filter p).eraseDups := by
  induction s using firstMention_induction with
  | nil => rfl
  | cons x rest ih =>
    rw [List.eraseDups_cons]
    by_cases hx : p x = true
    · rw [List.filter_cons_of_pos hx, List.filter_cons_of_pos hx, List.eraseDups_cons, ih,
        List.filter_comm]
    · -- Without `x` in the result, taking `x` out of the rest first changes nothing.
      have absent : (rest.filter fun y => !y == x).filter p = rest.filter p := by
        rw [List.filter_filter]
        refine List.filter_congr fun y _ => ?_
        by_cases hy : y = x <;> simp [hy, hx]
      rw [List.filter_cons_of_neg hx, List.filter_cons_of_neg hx, ih, absent]

theorem eraseDups_of_nodup {s : List N} (nodup : s.Nodup) : s.eraseDups = s := by
  induction s with
  | nil => rfl
  | cons x rest ih =>
    obtain ⟨new, nodup⟩ := List.nodup_cons.mp nodup
    have whole : (rest.filter fun y => !y == x) = rest :=
      List.filter_eq_self.mpr fun y hy => by simpa using fun eq : y = x => new (eq ▸ hy)
    rw [List.eraseDups_cons, whole, ih nodup]

@[simp] theorem eraseDups_eraseDups (s : List N) : s.eraseDups.eraseDups = s.eraseDups :=
  eraseDups_of_nodup (nodup_eraseDups s)

/-- Behind a sequence, what it mentions is not mentioned again. -/
theorem eraseDups_append_eq (s t : List N) :
    (s ++ t).eraseDups = s.eraseDups ++ difference t.eraseDups s := by
  have rest : t.removeAll s = t.filter (· ∉ s) := by
    refine List.filter_congr fun x _ => ?_
    simp
  rw [List.eraseDups_append, rest, ← filter_eraseDups, difference]

/-! ### Unions -/

theorem union_cons (s : List N) (sequences : List (List N)) :
    union (s :: sequences) = s.eraseDups ++ difference (union sequences) s := by
  rw [union, List.flatten_cons, eraseDups_append_eq, union]

theorem union_singleton (s : List N) : union [s] = s.eraseDups := by
  simp [union]

theorem difference_congr {one two : List N} (same : ∀ x, x ∈ one ↔ x ∈ two) (keep : List N) :
    difference keep one = difference keep two := by
  simp only [difference, same]

/-- A union reads its first sequence only up to repeats. -/
theorem union_cons_congr {s t : List N} {one two : List (List N)}
    (head : s.eraseDups = t.eraseDups) (rest : union one = union two) :
    union (s :: one) = union (t :: two) := by
  have mentions : ∀ x, x ∈ s ↔ x ∈ t := fun x => by
    rw [← List.mem_eraseDups, head, List.mem_eraseDups]
  rw [union_cons, union_cons, head, rest, difference_congr mentions]

/-- A union that stands in a union may be replaced by its sequences. -/
theorem union_map_union (families : List (List (List N))) :
    union (families.map union) = union families.flatten := by
  induction families with
  | nil => rfl
  | cons sequences rest ih =>
    have mentions : ∀ x, x ∈ union sequences ↔ x ∈ sequences.flatten := fun x => by
      rw [union, List.mem_eraseDups]
    calc union ((sequences :: rest).map union)
        = union sequences ++ difference (union rest.flatten) (union sequences) := by
          rw [List.map_cons, union_cons, ih, eraseDups_of_nodup (nodup_union sequences)]
      _ = union sequences ++ difference (union rest.flatten) sequences.flatten := by
          rw [difference_congr mentions]
      _ = union (sequences :: rest).flatten := by
          rw [List.flatten_cons, union, union, union, List.flatten_append, eraseDups_append_eq]

/-- What is kept of a union is what is kept of each of its sequences, united. -/
theorem filter_union (p : N → Bool) (sequences : List (List N)) :
    (union sequences).filter p = union (sequences.map (List.filter p)) := by
  rw [union, filter_eraseDups, List.filter_flatten, union]

/-- Taking members away from a union takes them away from each of its sequences. -/
theorem difference_union_left (sequences : List (List N)) (remove : List N) :
    difference (union sequences) remove = union (sequences.map fun s => difference s remove) :=
  filter_union _ sequences

/-- Taking a union away takes its sequences away, one after the other. -/
theorem difference_union_right (keep : List N) (sequences : List (List N)) :
    difference keep (union sequences) = sequences.foldl difference keep := by
  induction sequences generalizing keep with
  | nil => simp
  | cons s rest ih =>
    rw [List.foldl_cons, ← ih]
    unfold difference
    rw [List.filter_filter]
    refine List.filter_congr fun x _ => ?_
    simp [Bool.and_comm]

/-- A sequence without repeats stands in front of a union that begins with it. -/
theorem prefix_union {s : List N} (nodup : s.Nodup) (sequences : List (List N)) :
    s <+: union (s :: sequences) := by
  rw [union_cons, eraseDups_of_nodup nodup]
  exact List.prefix_append s _

/-! ### Order -/

/-- A filter keeps the order of what it keeps. -/
theorem idxOf_filter_lt_iff {p : N → Bool} {x y : N} (hx : p x = true) (hy : p y = true)
    (s : List N) : (s.filter p).idxOf x < (s.filter p).idxOf y ↔ s.idxOf x < s.idxOf y := by
  induction s with
  | nil => rfl
  | cons z rest ih =>
    by_cases hz : p z = true
    · rw [List.filter_cons_of_pos hz]
      by_cases zx : z = x <;> by_cases zy : z = y <;> simp_all [List.idxOf_cons_ne]
    · have zx : z ≠ x := fun eq => hz (eq ▸ hx)
      have zy : z ≠ y := fun eq => hz (eq ▸ hy)
      rw [List.filter_cons_of_neg hz, List.idxOf_cons_ne _ zx, List.idxOf_cons_ne _ zy, ih,
        Nat.succ_lt_succ_iff]

/-- What is kept of a list stands as in the list, after a mapping, too. -/
theorem idxOf_map_filter_lt_iff {α β : Type} [DecidableEq β] (f : α → β) (p : α → Bool) (x y : β)
    (l : List α) : ((l.filter p).map f).idxOf x < ((l.filter p).map f).idxOf y ↔
      l.findIdx (fun a => p a && f a == x) < l.findIdx (fun a => p a && f a == y) := by
  induction l with
  | nil => rfl
  | cons a rest ih =>
    rw [List.findIdx_cons, List.findIdx_cons]
    by_cases kept : p a = true
    · rw [List.filter_cons_of_pos kept, List.map_cons, List.idxOf_cons, List.idxOf_cons, kept]
      cases f a == x <;> cases f a == y <;> simp [ih]
    · rw [List.filter_cons_of_neg kept, ih]
      simp [kept]

/-- Erasing repeats keeps the order of first mentions. -/
theorem idxOf_eraseDups_lt_iff (x y : N) (s : List N) :
    s.eraseDups.idxOf x < s.eraseDups.idxOf y ↔ s.idxOf x < s.idxOf y := by
  induction s using firstMention_induction with
  | nil => rfl
  | cons z rest ih =>
    rw [List.eraseDups_cons]
    by_cases zx : z = x
    · subst zx
      by_cases zy : z = y
      · subst zy
        simp
      · simp [List.idxOf_cons_ne _ zy]
    · by_cases zy : z = y
      · simp [zy]
      · rw [List.idxOf_cons_ne _ zx, List.idxOf_cons_ne _ zy, List.idxOf_cons_ne _ zx,
          List.idxOf_cons_ne _ zy, Nat.succ_lt_succ_iff, Nat.succ_lt_succ_iff, ih]
        exact idxOf_filter_lt_iff (by simpa using Ne.symm zx) (by simpa using Ne.symm zy) rest

/-- Where a member is mentioned first: the number of the sequence, and the place in
that sequence. -/
def mention (sequences : List (List N)) (x : N) : Nat × Nat :=
  (sequences.findIdx (x ∈ ·), ((sequences.find? (x ∈ ·)).getD []).idxOf x)

theorem mention_cons_of_mem {s : List N} {x : N} (mem : x ∈ s) (sequences : List (List N)) :
    mention (s :: sequences) x = (0, s.idxOf x) := by
  simp [mention, mem, List.findIdx_cons]

theorem mention_cons_of_not_mem {s : List N} {x : N} (notMem : x ∉ s)
    (sequences : List (List N)) :
    mention (s :: sequences) x = ((mention sequences x).1 + 1, (mention sequences x).2) := by
  simp [mention, notMem, List.findIdx_cons]

/-- One place stands before another: in an earlier sequence, or earlier in the same. -/
def Earlier (one two : Nat × Nat) : Prop := Prod.Lex (· < ·) (· < ·) one two

theorem idxOf_flatten_lt_iff {x y : N} {sequences : List (List N)} (hx : x ∈ sequences.flatten)
    (hy : y ∈ sequences.flatten) : sequences.flatten.idxOf x < sequences.flatten.idxOf y ↔
      Earlier (mention sequences x) (mention sequences y) := by
  unfold Earlier
  induction sequences with
  | nil => simp at hx
  | cons s rest ih =>
    rw [List.flatten_cons]
    by_cases sx : x ∈ s
    · rw [mention_cons_of_mem sx, List.idxOf_append_of_mem sx]
      by_cases sy : y ∈ s
      · rw [mention_cons_of_mem sy, List.idxOf_append_of_mem sy, Prod.lex_def]
        simp
      · rw [mention_cons_of_not_mem sy, List.idxOf_append_of_notMem sy, Prod.lex_def]
        have := List.idxOf_lt_length_of_mem sx
        simp only [Nat.zero_lt_succ, true_or, iff_true]
        omega
    · rw [mention_cons_of_not_mem sx, List.idxOf_append_of_notMem sx]
      by_cases sy : y ∈ s
      · rw [mention_cons_of_mem sy, List.idxOf_append_of_mem sy, Prod.lex_def]
        have := List.idxOf_lt_length_of_mem sy
        simp only [Nat.not_lt_zero, Nat.succ_ne_zero, false_and, or_false, iff_false]
        omega
      · rw [mention_cons_of_not_mem sy, List.idxOf_append_of_notMem sy, Nat.add_lt_add_iff_left,
          ih (by simpa [sx] using hx) (by simpa [sy] using hy), Prod.lex_def, Prod.lex_def]
        simp

/-- The members of a union stand in the order of their first mentions. -/
theorem idxOf_union_lt_iff {x y : N} {sequences : List (List N)} (hx : x ∈ union sequences)
    (hy : y ∈ union sequences) : (union sequences).idxOf x < (union sequences).idxOf y ↔
      Earlier (mention sequences x) (mention sequences y) := by
  rw [union, List.mem_eraseDups] at hx hy
  rw [union, idxOf_eraseDups_lt_iff, idxOf_flatten_lt_iff hx hy]

end NodeSelection.Ordered
