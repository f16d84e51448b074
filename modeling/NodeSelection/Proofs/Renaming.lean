import Mathlib.Data.List.Basic
import NodeSelection.Proofs.Admission
import NodeSelection.Selection

/-!
Nodes are opaque: renaming them commutes with everything that is done with them.

Nodes are only ever compared for equality. So a renaming that keeps different nodes apart
may as well be applied to what is found in the end as to each answer of the lookup. States,
failures and records are the same, for the records hold lengths and no nodes.

* `eraseDups_map`, `intersect_map`, `union_map`, `difference_map`: renamed sequences.
* `Hits.map_combine`: renamed hits.
* `resolve_renamed`: groups that are resolved with renamed answers.
* `renaming_commutes`: texts and selections.
-/

namespace NodeSelection

variable {σ ε δ α β γ M N : Type}

/-- The reply with its value mapped: failure, state and records stay. -/
def Reply.map (f : α → β) (r : Reply σ ε α) : Reply σ ε β := ⟨r.outcome.map f, r.state, r.log⟩

/-- The same lookup with every node of its answers renamed. -/
def Lookup.renamed (f : N → M) (lookup : Lookup σ ε N) : Lookup σ ε M := fun t =>
  ⟨fun s => ((lookup t).run s).map (Hits.map f)⟩

/-! ### Sequences -/

namespace Ordered

variable [DecidableEq M] [DecidableEq N] {f : N → M}

theorem eraseDups_map (injective : Function.Injective f) (s : List N) :
    (s.map f).eraseDups = s.eraseDups.map f := by
  induction s using firstMention_induction with
  | nil => rfl
  | cons x rest ih =>
    have others : (rest.map f).filter (fun y => !y == f x) =
        (rest.filter fun y => !y == x).map f := by
      rw [List.filter_map]
      refine congrArg _ (List.filter_congr fun y _ => ?_)
      simp [injective.eq_iff]
    rw [List.map_cons, List.eraseDups_cons, List.eraseDups_cons, others, ih, List.map_cons]

theorem intersect_map (injective : Function.Injective f) (sequences : List (List N)) :
    intersect (sequences.map (List.map f)) = (intersect sequences).map f := by
  cases sequences with
  | nil => rfl
  | cons first others =>
    rw [List.map_cons, intersect, intersect, List.filter_map]
    refine congrArg _ (List.filter_congr fun x _ => ?_)
    simp only [Function.comp_apply, List.all_map, Function.comp_def,
      List.mem_map_of_injective injective]

theorem union_map (injective : Function.Injective f) (sequences : List (List N)) :
    union (sequences.map (List.map f)) = (union sequences).map f := by
  rw [union, union, ← List.map_flatten, eraseDups_map injective]

theorem difference_map (injective : Function.Injective f) (keep remove : List N) :
    difference (keep.map f) (remove.map f) = (difference keep remove).map f := by
  rw [difference, difference, List.filter_map]
  refine congrArg _ (List.filter_congr fun x _ => ?_)
  simp only [Function.comp_apply, List.mem_map_of_injective injective]

end Ordered

/-! ### Hits -/

namespace Hits

@[simp] theorem matched_map (f : N → M) (h : Hits N) : (h.map f).matched = h.matched.map f := rfl

@[simp] theorem selected_map (f : N → M) (h : Hits N) :
    (h.map f).selected = h.selected.map f := rfl

@[simp] theorem on_map (f : N → M) (side : Side) (h : Hits N) :
    (h.map f).on side = (h.on side).map f := by
  cases side <;> rfl

theorem map_on_map (f : N → M) (side : Side) (hits : List (Hits N)) :
    (hits.map (map f)).map (on side) = (hits.map (on side)).map (List.map f) := by
  simp only [List.map_map, Function.comp_def, on_map]

variable [DecidableEq M] [DecidableEq N] {f : N → M}

theorem map_intersect (injective : Function.Injective f) (hits : List (Hits N)) :
    intersect (hits.map (map f)) = (intersect hits).map f := by
  refine ext_on fun side => ?_
  rw [on_intersect, map_on_map, Ordered.intersect_map injective, on_map, on_intersect]

theorem map_union (injective : Function.Injective f) (hits : List (Hits N)) :
    union (hits.map (map f)) = (union hits).map f := by
  refine ext_on fun side => ?_
  rw [on_union, map_on_map, Ordered.union_map injective, on_map, on_union]

theorem map_difference (injective : Function.Injective f) (keep remove : Hits N) :
    (keep.map f).difference (remove.map f) = (keep.difference remove).map f := by
  refine ext_on fun side => ?_
  rw [on_difference, on_map, on_map, Ordered.difference_map injective, on_map, on_difference]

theorem map_combine (injective : Function.Injective f) (method : Method) (answers : List (Hits N)) :
    combine method (answers.map (map f)) = (combine method answers).map f := by
  cases method with
  | intersect => exact map_intersect injective answers
  | unite => exact map_union injective answers

end Hits

/-! ### Sessions -/

namespace Session

theorem run_map (f : α → β) (m : Session σ ε α) (s : σ) : (f <$> m).run s = (m.run s).map f := by
  rw [map_eq_pure_bind]
  rcases run : m.run s with ⟨outcome, after, log⟩
  cases outcome with
  | error e => rw [run_bind_of_error run]; rfl
  | ok a =>
    rw [run_bind_of_ok run]
    simp [Reply.map, Except.map]

theorem mapError_map (f : α → β) (g : ε → δ) (m : Session σ ε α) :
    (f <$> m).mapError g = f <$> m.mapError g := by
  ext s : 2
  rw [run_map, run_mapError, run_mapError, run_map]
  cases h : (m.run s).outcome <;> simp [Reply.map, h, Except.map, Except.mapError]

end Session

theorem Lookup.renamed_eq (f : N → M) (lookup : Lookup σ ε N) (t : Selector) :
    lookup.renamed f t = Hits.map f <$> lookup t := by
  ext s : 2
  rw [Session.run_map]
  rfl

/-- A pass whose steps have their results mapped has its results mapped. -/
theorem mapM_map {m : Type → Type} [Monad m] [LawfulMonad m] (f : β → γ) (step : α → m β)
    (members : List α) :
    members.mapM (fun a => f <$> step a) = List.map f <$> members.mapM step := by
  induction members with
  | nil => simp
  | cons a rest ih => simp [ih]

/-! ### Resolving with renamed answers -/

variable [DecidableEq M] [DecidableEq N] {f : N → M}

omit [DecidableEq M] [DecidableEq N] in
theorem ask_renamed (f : N → M) (lookup : Lookup σ ε N) :
    ask (lookup.renamed f) = fun t => Hits.map f <$> ask lookup t := by
  funext t
  rw [ask, ask, map_bind, Lookup.renamed_eq]

theorem Group.answer_renamed (injective : Function.Injective f) (lookup : Lookup σ ε N) :
    Group.answer (lookup.renamed f) = fun g => Hits.map f <$> g.answer lookup := by
  funext g
  rw [Group.answer, Group.answer, ask_renamed, mapM_map, bind_map_left, map_bind]
  simp only [Hits.map_combine injective, map_pure]

theorem resolve_renamed (injective : Function.Injective f) (lookup : Lookup σ ε N)
    (groups : List Group) :
    resolve (lookup.renamed f) groups = Hits.map f <$> resolve lookup groups := by
  rw [resolve, resolve, Group.answer_renamed injective, mapM_map, bind_map_left, map_bind]
  refine bind_congr fun answers => ?_
  -- The record holds the lengths of what was found, and a renaming keeps them.
  simp only [Hits.map_union injective, map_bind, map_pure, Hits.matched_map, Hits.selected_map,
    List.length_map]

theorem tryApply_renamed (injective : Function.Injective f) (lookup : Lookup σ ε N)
    (text : String) : tryApply (lookup.renamed f) text = Hits.map f <$> tryApply lookup text := by
  rw [tryApply, tryApply, map_bind]
  refine bind_congr fun groups => ?_
  rw [resolve_renamed injective, Session.mapError_map]

theorem Selection.trySelect_renamed (injective : Function.Injective f) (lookup : Lookup σ ε N)
    (s : Selection) :
    s.trySelect (lookup.renamed f) = Hits.map f <$> s.trySelect lookup := by
  rw [trySelect, trySelect, resolve_renamed injective, resolve_renamed injective, bind_map_left,
    map_bind]
  refine bind_congr fun included => ?_
  rw [bind_map_left, map_bind]
  refine bind_congr fun excluded => ?_
  simp only [Hits.map_difference injective, map_bind, map_pure, Hits.selected_map, List.length_map]

/-- A renaming that keeps different nodes apart commutes with applying a text and with
resolving a selection, whatever the lookup does. What is found is what was found before,
renamed in place; failure, state and log are the same. -/
theorem renaming_commutes (injective : Function.Injective f) :
    (∀ (σ ε : Type) (lookup : Lookup σ ε N) (text : String) (s : σ),
      (tryApply (lookup.renamed f) text).run s =
        ((tryApply lookup text).run s).map (Hits.map f)) ∧
    (∀ (σ : Type) (lookup : Lookup σ Empty N) (text : String) (s : σ),
      (apply (lookup.renamed f) text).run s = ((apply lookup text).run s).map (Hits.map f)) ∧
    (∀ (σ ε : Type) (lookup : Lookup σ ε N) (selection : Selection) (s : σ),
      (selection.trySelect (lookup.renamed f)).run s =
        ((selection.trySelect lookup).run s).map (Hits.map f)) ∧
    ∀ (σ : Type) (lookup : Lookup σ Empty N) (selection : Selection) (s : σ),
      (selection.select (lookup.renamed f)).run s =
        ((selection.select lookup).run s).map (Hits.map f) := by
  refine ⟨?_, ?_, ?_, ?_⟩
  · intro σ ε lookup text s
    rw [tryApply_renamed injective, Session.run_map]
  · intro σ lookup text s
    rw [apply, tryApply_renamed injective, Session.mapError_map, Session.run_map, apply]
  · intro σ ε lookup selection s
    rw [Selection.trySelect_renamed injective, Session.run_map]
  · intro σ lookup selection s
    rw [Selection.select, Selection.trySelect_renamed injective, Session.run_map, Selection.select]

/-- A renaming that turns the order of the nodes around, under a lookup that counts its
calls and fails at the fourth. -/
theorem renaming_commutes_reversed :
    let f : Nat → Int := fun n => -n
    let lookup : Lookup Nat String Nat := fun t =>
      ⟨fun calls => if calls < 3 then ⟨.ok ⟨[calls, 7, calls], [7, 9 - calls]⟩, calls + 1, []⟩
        else ⟨.error t.raw, calls + 1, []⟩⟩
    Function.Injective f ∧
    (tryApply (lookup.renamed f) "a,b c").run 0 =
      ⟨.ok ⟨[-7, -2], [-7]⟩, 3, [.parsed 2 "a,b c", .lookingUp "a", .lookingUp "b",
        .lookingUp "c", .applied 2 2 1]⟩ ∧
    (tryApply (lookup.renamed f) "a,b c d").run 0 =
      ⟨.error (.lookupFailed "d"), 4, [.parsed 3 "a,b c d", .lookingUp "a", .lookingUp "b",
        .lookingUp "c", .lookingUp "d"]⟩ := by
  intro f lookup
  have injective : Function.Injective f := fun m n same => Int.ofNat_inj.mp (Int.neg_inj.mp same)
  obtain ⟨applied, -⟩ := renaming_commutes injective
  refine ⟨injective, ?_, ?_⟩
  · rw [applied]
    rfl
  · rw [applied]
    rfl

end NodeSelection
