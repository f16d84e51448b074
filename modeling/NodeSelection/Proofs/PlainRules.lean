import Mathlib.Data.List.Forall2
import NodeSelection.Proofs.Admission
import NodeSelection.Proofs.Grouping
import NodeSelection.Proofs.LookupOrder

/-!
The plain rules for what groups find, in which nothing is erased before the end.

By the plain rules a lone selector's answer is taken as it is. Of several answers the first is
compared with the others, member by member. All sequences are put in one row, and only then is
every member dropped that stands in the row before. A group with a lone selector really has the
repeats of its answer erased at once. That cannot be observed: a union reads each of its
sequences only up to repeats.

* `Plain.resolve`: the plain rules for groups and any lookup.
* `Session.EndsLike`: runs side by side, `EndsLike.bind` and `EndsLike.mapM` step by step.
* `Plain.firsts_nil_eq`: the plain way to drop repeats.
* `Plain.endsLike_answer`: the answers to a group are the same up to repeats.
* `resolve_ends_plainly`: groups find what they find by the plain rules.
-/

namespace NodeSelection

variable {σ ε δ α β γ N : Type}

/-! ### The plain rules -/

/-- Hits that are made on each side alone. -/
def Hits.bySide (sequence : Side → List N) : Hits N := ⟨sequence .matched, sequence .selected⟩

@[simp] theorem Hits.on_bySide (side : Side) (sequence : Side → List N) :
    (bySide sequence).on side = sequence side := by
  cases side <;> rfl

namespace Plain

variable [DecidableEq N]

/-- The members that have not been seen before, neither in `seen` nor further to the front. -/
def firsts (seen : List N) : List N → List N
  | [] => []
  | x :: rest => if x ∈ seen then firsts seen rest else x :: firsts (x :: seen) rest

/-- The answers to a group's selectors put together: a lone answer as it is, and of several the
members of the first that stand in all others. -/
def combine : Method → List (List N) → List N
  | _, [] => []
  | .unite, lone :: _ => lone
  | .intersect, first :: others => first.filter fun x => ∀ other ∈ others, x ∈ other

/-- The answer to a group: its selectors are looked up in order. -/
def answer (lookup : Lookup σ ε N) (g : Group) : Session σ ε (Hits N) := do
  let answers ← g.selectors.mapM lookup
  return .bySide fun side => combine g.method (answers.map (Hits.on side))

/-- The answer to a list of groups: all sequences in one row, without the members that are
equal to an earlier one. -/
def resolve (lookup : Lookup σ ε N) (groups : List Group) : Session σ ε (Hits N) := do
  let answers ← groups.mapM (answer lookup)
  return .bySide fun side => firsts [] (answers.map (Hits.on side)).flatten

end Plain

/-! ### Runs side by side -/

/-- The replies leave one state, and have one failure or values that are related. Their records
may differ. -/
inductive Reply.EndsLike (R : α → β → Prop) (r : Reply σ ε α) (q : Reply σ ε β) : Prop where
  | ok {a : α} {b : β} {after : σ} (left : r.Ends (.ok a) after) (right : q.Ends (.ok b) after)
      (related : R a b)
  | error {e : ε} {after : σ} (left : r.Ends (.error e) after) (right : q.Ends (.error e) after)

theorem Reply.Ends.eq {r : Reply σ ε α} {outcome : Except ε α} {after : σ}
    (ends : r.Ends outcome after) : r = ⟨outcome, after, r.log⟩ := by
  obtain ⟨rfl, rfl⟩ := ends
  rfl

namespace Session

/-- On every state the two steps have replies that end alike. -/
def EndsLike (R : α → β → Prop) (m : Session σ ε α) (n : Session σ ε β) : Prop :=
  ∀ s, (m.run s).EndsLike R (n.run s)

namespace EndsLike

variable {R : α → β → Prop} {S : γ → δ → Prop} {m : Session σ ε α} {n : Session σ ε β}

theorem refl (m : Session σ ε α) : EndsLike Eq m m := by
  intro s
  cases outcome : (m.run s).outcome with
  | error e => exact .error ⟨outcome, rfl⟩ ⟨outcome, rfl⟩
  | ok a => exact .ok ⟨outcome, rfl⟩ ⟨outcome, rfl⟩ rfl

theorem pure {a : α} {b : β} (related : R a b) :
    EndsLike R (Pure.pure a : Session σ ε α) (Pure.pure b) :=
  fun _ => .ok ⟨rfl, rfl⟩ ⟨rfl, rfl⟩ related

/-- Steps that end alike, and then steps that do. -/
theorem bind {f : α → Session σ ε γ} {g : β → Session σ ε δ} (first : EndsLike R m n)
    (next : ∀ a b, R a b → EndsLike S (f a) (g b)) : EndsLike S (m >>= f) (n >>= g) := by
  intro s
  cases first s with
  | error left right =>
    rw [run_bind_of_error left.eq, run_bind_of_error right.eq]
    exact .error ⟨rfl, rfl⟩ ⟨rfl, rfl⟩
  | ok left right related =>
    rw [run_bind_of_ok left.eq, run_bind_of_ok right.eq]
    cases next _ _ related _ with
    | error left right => exact .error left right
    | ok left right related => exact .ok left right related

/-- A record does not count. -/
theorem note (r : LogRecord) (ends : EndsLike R m n) :
    EndsLike R (do Session.note r; m) n := by
  intro s
  rw [run_bind_of_ok (run_note r s)]
  cases ends s with
  | error left right => exact .error left right
  | ok left right related => exact .ok left right related

/-- Passes over one list whose steps end alike. -/
theorem mapM {f : γ → Session σ ε α} {g : γ → Session σ ε β} {members : List γ}
    (each : ∀ c ∈ members, EndsLike R (f c) (g c)) :
    EndsLike (fun as bs => List.Forall₂ R as bs ∧ as.length = members.length)
      (members.mapM f) (members.mapM g) := by
  induction members with
  | nil => exact .pure ⟨.nil, rfl⟩
  | cons c rest ih =>
    rw [List.mapM_cons, List.mapM_cons]
    refine .bind (each c List.mem_cons_self) fun a b head => ?_
    refine .bind (ih fun d mem => each d (List.mem_cons_of_mem _ mem)) ?_
    rintro as bs ⟨tail, length⟩
    exact .pure ⟨.cons head tail, congrArg (· + 1) length⟩

/-- Steps that end alike with equal values have one outcome and leave one state. -/
theorem ends {m n : Session σ ε α} (alike : EndsLike Eq m n) (s : σ) :
    (m.run s).Ends (n.run s).outcome (n.run s).state := by
  cases alike s with
  | error left right => rwa [right.1, right.2]
  | ok left right same => rwa [right.1, right.2, ← same]

end EndsLike

end Session

/-! ### Up to repeats -/

variable [DecidableEq N]

/-- On each side the hits mention the same nodes first, one after the other. -/
def Hits.SameMentions (one two : Hits N) : Prop :=
  ∀ side, (one.on side).eraseDups = (two.on side).eraseDups

namespace Plain

theorem firsts_eq (seen s : List N) : firsts seen s = (Ordered.difference s seen).eraseDups := by
  induction s generalizing seen with
  | nil => rfl
  | cons x rest ih =>
    rw [firsts, Ordered.difference]
    by_cases old : x ∈ seen
    · rw [if_pos old, List.filter_cons_of_neg (by simpa using old), ih, Ordered.difference]
    · rw [if_neg old, List.filter_cons_of_pos (by simpa using old), List.eraseDups_cons, ih,
        Ordered.difference, List.filter_filter]
      refine congrArg (x :: ·.eraseDups) (List.filter_congr fun y _ => ?_)
      by_cases same : y = x <;> simp [same]

/-- What is not seen for the first time is a repeat. -/
theorem firsts_nil_eq (s : List N) : firsts [] s = s.eraseDups := by
  rw [firsts_eq, Ordered.difference_nil]

theorem combine_intersect (answers : List (List N)) :
    combine .intersect answers = Ordered.intersect answers := by
  cases answers with
  | nil => rfl
  | cons first others => rw [combine, Ordered.intersect_cons]

/-- A group asks for the same either way. Of a lone answer the repeats may be gone. -/
theorem endsLike_answer (lookup : Lookup σ ε N) {g : Group}
    (lone : g.method = .unite → g.selectors.length = 1) :
    Session.EndsLike Hits.SameMentions (g.answer lookup) (answer lookup g) := by
  have asked : Session.EndsLike
      (fun as bs => List.Forall₂ Eq as bs ∧ as.length = g.selectors.length)
      (g.selectors.mapM (ask lookup)) (g.selectors.mapM lookup) :=
    .mapM fun t _ => .note (.lookingUp t.raw) (.refl (lookup t))
  refine .bind asked ?_
  rintro answers _ ⟨same, length⟩
  rw [List.forall₂_eq_eq_eq] at same
  subst same
  refine .pure fun side => ?_
  rw [Hits.on_bySide]
  cases method : g.method with
  | intersect => rw [Hits.combine, Hits.on_intersect, combine_intersect]
  | unite =>
    obtain ⟨found, rfl⟩ := List.length_eq_one_iff.mp (length.trans (lone method))
    rw [Hits.combine, Hits.on_union, List.map_singleton, Ordered.union_singleton,
      Ordered.eraseDups_eraseDups, combine]

/-- The repeats in the answers to groups do not show in their union. -/
theorem union_eq_firsts {answers plain : List (Hits N)}
    (same : List.Forall₂ Hits.SameMentions answers plain) :
    Hits.union answers = .bySide fun side => firsts [] (plain.map (Hits.on side)).flatten := by
  refine Hits.ext_on fun side => ?_
  rw [Hits.on_union, Hits.on_bySide, firsts_nil_eq, ← Ordered.union]
  induction same with
  | nil => rfl
  | cons head _ ih => exact Ordered.union_cons_congr (head side) ih

theorem endsLike_resolve (lookup : Lookup σ ε N) {groups : List Group}
    (lone : ∀ g ∈ groups, g.method = .unite → g.selectors.length = 1) :
    Session.EndsLike Eq (NodeSelection.resolve lookup groups) (resolve lookup groups) := by
  refine .bind (.mapM fun g mem => endsLike_answer lookup (lone g mem)) ?_
  rintro answers plain ⟨same, -⟩
  exact .note _ (.pure (union_eq_firsts same))

end Plain

/-- Groups find what they find by the plain rules, whatever the lookup does: the outcome is the
same, a failure too, and so is the state that the lookup leaves. The groups may be any in which
a lone selector is alone. Those of a text are such groups, so a text finds the same, too. -/
theorem resolve_ends_plainly :
    (∀ groups : List Group, (∀ g ∈ groups, g.method = .unite → g.selectors.length = 1) →
      ∀ (σ ε : Type) (lookup : Lookup σ ε N) (s : σ),
        let plain := (Plain.resolve lookup groups).run s
        ((resolve lookup groups).run s).Ends plain.outcome plain.state) ∧
    ∀ (text : String) (groups : List Group), Group.parseAll text = .ok groups →
      (∀ g ∈ groups, g.method = .unite → g.selectors.length = 1) ∧
      ∀ (σ ε : Type) (lookup : Lookup σ ε N) (s : σ),
        let plain := (Plain.resolve lookup groups).run s
        ((tryApply lookup text).run s).Ends (plain.outcome.mapError .lookupFailed)
          plain.state := by
  refine ⟨?_, ?_⟩
  · intro groups lone σ ε lookup s
    exact (Plain.endsLike_resolve lookup lone).ends s
  · intro text groups parsed
    have lone : ∀ g ∈ groups, g.method = .unite → g.selectors.length = 1 :=
      fun g mem => (Group.method_of_mem parsed mem).2.1.mp
    refine ⟨lone, fun σ ε lookup s => ?_⟩
    obtain ⟨outcome, state⟩ := (Plain.endsLike_resolve lookup lone).ends s
    rw [run_tryApply_of_ok parsed]
    exact ⟨congrArg (Except.mapError ApplyError.lookupFailed) outcome, state⟩

/-- Repeats within an answer and across answers, from a lookup that counts its calls and fails
at the fifth. -/
theorem resolve_ends_plainly_repeats :
    let selector : String → Selector := fun raw => ⟨.fqn, raw, false, false, false, raw⟩
    let lookup : Lookup Nat String Nat := fun t =>
      ⟨fun n => if n < 4 then ⟨.ok ⟨[2, n, 2, n], [n, 5, 5]⟩, n + 1, []⟩ else ⟨.error t.raw, n, []⟩⟩
    let groups : List Group := [⟨.unite, [selector "a"]⟩, ⟨.intersect, []⟩,
      ⟨.intersect, [selector "b", selector "c"]⟩, ⟨.unite, [selector "a"]⟩]
    (∀ g ∈ groups, g.method = .unite → g.selectors.length = 1) ∧
      ((resolve lookup groups).run 0).Ends (.ok ⟨[2, 0, 3], [0, 5, 3]⟩) 4 ∧
      ((resolve lookup (groups ++ groups)).run 0).Ends (.error "a") 4 := by
  intro selector lookup groups
  obtain ⟨plainly, -⟩ := resolve_ends_plainly (N := Nat)
  have lone : ∀ g ∈ groups, g.method = .unite → g.selectors.length = 1 := by decide
  have twice : ∀ g ∈ groups ++ groups, g.method = .unite → g.selectors.length = 1 := by decide
  exact ⟨lone, plainly groups lone Nat String lookup 0,
    plainly (groups ++ groups) twice Nat String lookup 0⟩

end NodeSelection
