import Mathlib.Data.List.Forall2
import NodeSelection.Proofs.Admission

/-!
Expressions over hits: unions, intersections and differences inside one another.

An expression says how names are put together and nothing more. It has a value wherever
the three operations are given: in hits, where a name stands for what was found, in the
sequences on one side of the hits, and in truth values, where a name stands for one node
being there or not. What the operations respect, expressions respect. That is the only
induction over expressions here.

* `eval_respects`: related names make related values.
* `eval_carried`: a map that carries the operations over carries values over.
* `on_hits`: each side of the hits is the value in sequences of that side.
* `hits_boolean_algebra`: and it is known by the memberships of each node.
-/

namespace NodeSelection

/-- Names put together by union and intersection, of any number of parts, and by
difference. -/
inductive Expression (α : Type) where
  | name (a : α)
  | union (parts : List (Expression α))
  | intersect (parts : List (Expression α))
  | difference (keep remove : Expression α)

/-- Union, intersection and difference on some kind of value. -/
structure Operations (β : Type) where
  union : List β → β
  intersect : List β → β
  difference : β → β → β

namespace Operations

variable {α β γ N : Type}

/-- The operations on hits. -/
def hits [DecidableEq N] : Operations (Hits N) := ⟨Hits.union, Hits.intersect, Hits.difference⟩

/-- The operations on sequences. -/
def ordered [DecidableEq N] : Operations (List N) :=
  ⟨Ordered.union, Ordered.intersect, Ordered.difference⟩

/-- The operations on truth values: "or", "and" and "and not". Of no values at all, the
union is false and so is the intersection. -/
def truth : Operations Bool where
  union values := values.any id
  intersect values := !values.isEmpty && values.all id
  difference keep remove := keep && !remove

/-- All that the arguments hold, one after the other. -/
def gather : Operations (List α) := ⟨List.flatten, List.flatten, List.append⟩

/-- Related arguments make related results. -/
structure Respects (R : β → γ → Prop) (one : Operations β) (two : Operations γ) : Prop where
  union {bs : List β} {cs : List γ} :
    List.Forall₂ R bs cs → R (one.union bs) (two.union cs)
  intersect {bs : List β} {cs : List γ} :
    List.Forall₂ R bs cs → R (one.intersect bs) (two.intersect cs)
  difference {b b' : β} {c c' : γ} :
    R b c → R b' c' → R (one.difference b b') (two.difference c c')

/-- The map carries one set of operations over to the other. -/
structure Carries (f : β → γ) (one : Operations β) (two : Operations γ) : Prop where
  union (bs : List β) : f (one.union bs) = two.union (bs.map f)
  intersect (bs : List β) : f (one.intersect bs) = two.intersect (bs.map f)
  difference (b b' : β) : f (one.difference b b') = two.difference (f b) (f b')

end Operations

namespace Expression

variable {α β γ N : Type}

mutual

/-- The value of an expression when each name has a value. -/
def eval (ops : Operations β) (read : α → β) : Expression α → β
  | .name a => read a
  | .union parts => ops.union (evalAll ops read parts)
  | .intersect parts => ops.intersect (evalAll ops read parts)
  | .difference keep remove => ops.difference (eval ops read keep) (eval ops read remove)

/-- The values of expressions in order. -/
def evalAll (ops : Operations β) (read : α → β) : List (Expression α) → List β
  | [] => []
  | e :: rest => eval ops read e :: evalAll ops read rest

end

/-- The names of an expression, from left to right. -/
def names (e : Expression α) : List α := e.eval .gather fun a => [a]

/-- The hits of an expression when each name stands for hits. -/
def hits [DecidableEq N] (find : α → Hits N) (e : Expression α) : Hits N := e.eval .hits find

/-- The expression is true when each name is read as true or false. -/
def holds (read : α → Bool) (e : Expression α) : Bool := e.eval .truth read

/-! ### What the operations respect -/

section Respecting

variable {R : β → γ → Prop} {one : Operations β} {two : Operations γ}

mutual

/-- Related names make related values, if the operations respect the relation. -/
theorem eval_respects (respects : one.Respects R two) (read : α → β) (read' : α → γ)
    (e : Expression α) (named : ∀ a ∈ e.names, R (read a) (read' a)) :
    R (e.eval one read) (e.eval two read') := by
  match e with
  | .name a => exact named a (List.mem_singleton_self a)
  | .union parts => exact respects.union (evalAll_respects respects read read' parts named)
  | .intersect parts => exact respects.intersect (evalAll_respects respects read read' parts named)
  | .difference keep remove =>
    refine respects.difference (eval_respects respects read read' keep ?_)
      (eval_respects respects read read' remove ?_)
    · exact fun a mem => named a (List.mem_append_left _ mem)
    · exact fun a mem => named a (List.mem_append_right _ mem)

theorem evalAll_respects (respects : one.Respects R two) (read : α → β) (read' : α → γ)
    (parts : List (Expression α))
    (named : ∀ a ∈ (evalAll .gather (fun a => [a]) parts).flatten, R (read a) (read' a)) :
    List.Forall₂ R (evalAll one read parts) (evalAll two read' parts) := by
  match parts with
  | [] => exact .nil
  | e :: rest =>
    refine .cons (eval_respects respects read read' e ?_)
      (evalAll_respects respects read read' rest ?_)
    · exact fun a mem => named a (List.mem_append_left _ mem)
    · exact fun a mem => named a (List.mem_append_right _ mem)

end

end Respecting

end Expression

/-! ### The operations on hits and on sequences -/

namespace Operations

variable {β γ N : Type}

/-- A map that carries the operations over relates each value to its image. -/
theorem Carries.respects {f : β → γ} {one : Operations β} {two : Operations γ}
    (carries : Carries f one two) : Respects (fun b c => f b = c) one two := by
  have images : ∀ {bs : List β} {cs : List γ}, List.Forall₂ (fun b c => f b = c) bs cs →
      bs.map f = cs := by
    intro bs cs each
    rw [← List.forall₂_map_left_iff, List.forall₂_eq_eq_eq] at each
    exact each
  constructor
  · intro bs cs each
    rw [carries.union, images each]
  · intro bs cs each
    rw [carries.intersect, images each]
  · rintro b b' _ _ rfl rfl
    exact carries.difference b b'

theorem carries_id (ops : Operations β) : Carries id ops ops := by
  constructor <;> simp

variable [DecidableEq N]

/-- Hits are united, intersected and taken away on each side apart. -/
theorem carries_on (side : Side) : Carries (Hits.on side) hits (ordered (N := N)) :=
  ⟨Hits.on_union side, Hits.on_intersect side, Hits.on_difference side⟩

/-- Whether a node is in the result is told by whether it is in the arguments. -/
theorem carries_mem (n : N) : Carries (fun s => decide (n ∈ s)) ordered truth := by
  constructor
  · intro sequences
    rw [Bool.eq_iff_iff, decide_eq_true_iff]
    simp [ordered, truth]
  · intro sequences
    rw [Bool.eq_iff_iff, decide_eq_true_iff]
    cases sequences <;> simp [ordered, truth]
  · intro keep remove
    simp [ordered, truth]

/-- A union has no repeats, and the other operations add none to those of the sequence that
is kept from. -/
theorem respects_nodup :
    Respects (fun s _ : List N => s.Nodup) ordered ordered := by
  constructor
  · intro sequences _ _
    exact Ordered.nodup_union sequences
  · intro sequences _ each
    cases each with
    | nil => exact List.nodup_nil
    | cons first _ => exact (Ordered.intersect_sublist _ _).nodup first
  · intro keep remove _ _ kept _
    exact (Ordered.difference_sublist keep remove).nodup kept

end Operations

/-! ### Values -/

namespace Expression

variable {α β γ N : Type}

/-- What carries the operations over carries the value of an expression over. -/
theorem eval_carried {f : β → γ} {one : Operations β} {two : Operations γ}
    (carries : Operations.Carries f one two) (read : α → β) (e : Expression α) :
    f (e.eval one read) = e.eval two fun a => f (read a) :=
  eval_respects carries.respects read _ e fun _ _ => rfl

/-- Only the names that occur in an expression count. -/
theorem eval_congr (ops : Operations β) {read read' : α → β} {e : Expression α}
    (same : ∀ a ∈ e.names, read a = read' a) : e.eval ops read = e.eval ops read' :=
  eval_respects (Operations.carries_id ops).respects read read' e same

variable [DecidableEq N]

/-- Each side of the hits is the value of the expression in the sequences of that side. -/
theorem on_hits (side : Side) (find : α → Hits N) (e : Expression α) :
    (e.hits find).on side = e.eval .ordered fun a => (find a).on side :=
  eval_carried (Operations.carries_on side) find e

/-- An expression over hits is the same expression over the memberships of each node, on
each side apart: a node is in the value on a side when the expression is true of the names
whose hits have it there, and the other side cannot show. Repeats come from the names
alone, and a union has none. -/
theorem hits_boolean_algebra (e : Expression α) (find : α → Hits N) (side : Side) :
    (∀ n, n ∈ (e.hits find).on side ↔ e.holds (fun a => n ∈ (find a).on side) = true) ∧
    (∀ find' : α → Hits N, (∀ a ∈ e.names, (find' a).on side = (find a).on side) →
      (e.hits find').on side = (e.hits find).on side) ∧
    ((∀ a ∈ e.names, ((find a).on side).Nodup) → ((e.hits find).on side).Nodup) ∧
    ∀ parts, e = .union parts → ((e.hits find).on side).Nodup := by
  simp only [on_hits]
  refine ⟨?_, ?_, ?_, ?_⟩
  · intro n
    rw [holds, ← eval_carried (Operations.carries_mem n), decide_eq_true_iff]
  · intro find' same
    exact eval_congr .ordered same
  · intro nodup
    exact eval_respects Operations.respects_nodup _ (fun a => (find a).on side) e nodup
  · rintro parts rfl
    exact Ordered.nodup_union _

/-- An expression with an intersection of nothing, whose names have no repeats on one side
but do on the other, where they may be replaced. -/
theorem hits_boolean_algebra_nested :
    let e : Expression Nat :=
      .difference (.union [.intersect [.name 0, .name 1, .name 0], .intersect [], .name 2])
        (.name 1)
    let find : Nat → Hits Nat := fun
      | 0 => ⟨[3, 1, 2], [4, 4]⟩
      | 1 => ⟨[2, 5], [4]⟩
      | _ => ⟨[6, 1], [4, 7, 7]⟩
    let find' : Nat → Hits Nat := fun a => ⟨(find a).matched, [a, a, 9]⟩
    (∀ a ∈ e.names, (find' a).on .matched = (find a).on .matched) ∧
    (∀ a ∈ e.names, ((find a).on .matched).Nodup) ∧
    (e.hits find').on .matched = (e.hits find).on .matched ∧
    ((e.hits find).on .matched).Nodup ∧ 6 ∈ (e.hits find).on .matched ∧
    2 ∉ (e.hits find).on .matched := by
  intro e find find'
  obtain ⟨mem, other, nodup, -⟩ := hits_boolean_algebra e find .matched
  have same : ∀ a ∈ e.names, (find' a).on .matched = (find a).on .matched := by decide
  have distinct : ∀ a ∈ e.names, ((find a).on .matched).Nodup := by decide
  refine ⟨same, distinct, other find' same, nodup distinct, ?_, ?_⟩
  · exact (mem 6).mpr (by decide)
  · rw [mem 2]
    decide

end Expression

end NodeSelection
