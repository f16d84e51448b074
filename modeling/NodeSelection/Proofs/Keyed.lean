import Mathlib.Data.List.Nodup
import Mathlib.Data.List.Perm.Basic

/-!
Lists of keys with values, in which no key is given twice.

The order of such a list does not matter to a look-up: it gives the value that stands with
the key, wherever that is.

* `lookup_eq_some_iff_mem`: what is looked up is what stands with the key.
* `eq_of_mem`: nothing else stands with it.
* `lookup_eq_of_perm`: the order does not matter.
-/

namespace NodeSelection.Keyed

variable {α β : Type} [BEq α] [LawfulBEq α] {key : α} {value : β} {entries one two : List (α × β)}

theorem lookup_cons_self (key : α) (value : β) (rest : List (α × β)) :
    ((key, value) :: rest).lookup key = some value := by
  simp

theorem lookup_cons_of_ne {key other : α} (ne : key ≠ other) (value : β)
    (rest : List (α × β)) : ((other, value) :: rest).lookup key = rest.lookup key := by
  rw [List.lookup_cons, beq_false_of_ne ne]

theorem lookup_eq_none_iff_notMem :
    entries.lookup key = none ↔ key ∉ entries.map Prod.fst := by
  rw [List.lookup_eq_none_iff, List.mem_map]
  constructor
  · rintro none ⟨e, mem, rfl⟩
    simpa using none e mem
  · intro absent e mem
    exact bne_iff_ne.mpr fun same => absent ⟨e, mem, same.symm⟩

/-- What is looked up is what stands with the key. -/
theorem lookup_eq_some_iff_mem (distinct : (entries.map Prod.fst).Nodup) :
    entries.lookup key = some value ↔ (key, value) ∈ entries := by
  induction entries with
  | nil => simp
  | cons e rest ih =>
    obtain ⟨other, found⟩ := e
    obtain ⟨fresh, distinct⟩ := List.nodup_cons.mp distinct
    by_cases same : key = other
    · subst same
      have absent : (key, value) ∉ rest := fun mem => fresh (List.mem_map.mpr ⟨_, mem, rfl⟩)
      simp [absent, eq_comm]
    · rw [lookup_cons_of_ne same, ih distinct]
      simp [same]

/-- With a key there stands one value. -/
theorem eq_of_mem {other : β} (distinct : (entries.map Prod.fst).Nodup)
    (mem : (key, value) ∈ entries) (mem' : (key, other) ∈ entries) : other = value := by
  have found := (lookup_eq_some_iff_mem distinct).mpr mem
  rwa [(lookup_eq_some_iff_mem distinct).mpr mem', Option.some.injEq] at found

/-- The order does not matter to a look-up. -/
theorem lookup_eq_of_perm (distinct : (one.map Prod.fst).Nodup) (order : one.Perm two)
    (key : α) : one.lookup key = two.lookup key := by
  have distinct' : (two.map Prod.fst).Nodup := (order.map Prod.fst).nodup_iff.mp distinct
  refine Option.ext fun value => ?_
  rw [lookup_eq_some_iff_mem distinct, lookup_eq_some_iff_mem distinct', order.mem_iff]

end NodeSelection.Keyed
