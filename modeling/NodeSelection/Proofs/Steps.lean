import NodeSelection.Session

/-!
Steps in turn: a pass over a list that runs one step for each member.

Every step runs on the state that the step before it left. The first step that fails
ends the pass, and no member behind it is touched.

* `Steps`, `Stops`: the two ways in which a pass can end, without the pass itself.
* `steps_or_stops`: there is no third.
* `steps_of_answers`: steps that always answer and leave the state alone.
* `run_mapM_of_steps`, `run_mapM_of_stops`: a traversal is such a pass.
* `Steps.of_append`, `Stops.of_append`: a pass over two lists is one behind the other.
-/

namespace NodeSelection.Session

variable {σ ε α β γ : Type}

/-- The step of every member succeeds, each on the state that the one before it left.
The results, the last state and the records of each step are as given. -/
inductive Steps (f : α → Session σ ε β) : σ → List α → List β → σ → List Log → Prop where
  | nil {s : σ} : Steps f s [] [] s []
  | cons {s mid after : σ} {a : α} {b : β} {rest : List α} {results : List β} {log : Log}
      {logs : List Log} (head : (f a).run s = ⟨.ok b, mid, log⟩)
      (tail : Steps f mid rest results after logs) :
      Steps f s (a :: rest) (b :: results) after (log :: logs)

/-- The step of some member fails with `e` after the steps of all members in front of it
have succeeded. The members in `tried` are those in front of it and the member itself. -/
inductive Stops (f : α → Session σ ε β) (s : σ) (members : List α) :
    List α → ε → σ → List Log → Prop where
  | intro {before rest : List α} {a : α} {results : List β} {mid after : σ} {e : ε}
      {logs : List Log} {last : Log} (split : members = before ++ a :: rest)
      (steps : Steps f s before results mid logs)
      (fails : (f a).run mid = ⟨.error e, after, last⟩) :
      Stops f s members (before ++ [a]) e after (logs ++ [last])

/-! ### Passes one behind the other -/

section Passes

variable {f : α → Session σ ε β} {s mid after : σ} {e : ε} {members more tried : List α}
  {results others : List β} {logs later : List Log}

theorem Steps.length_results (steps : Steps f s members results after logs) :
    results.length = members.length := by
  induction steps with
  | nil => rfl
  | cons _ _ ih => exact congrArg (· + 1) ih

theorem Steps.length_logs (steps : Steps f s members results after logs) :
    logs.length = members.length := by
  induction steps with
  | nil => rfl
  | cons _ _ ih => exact congrArg (· + 1) ih

/-- What succeeds on two lists, one behind the other, succeeds on each of them. -/
theorem Steps.of_append (steps : Steps f s (members ++ more) results after logs) :
    ∃ own others mid front later, results = own ++ others ∧ logs = front ++ later ∧
      Steps f s members own mid front ∧ Steps f mid more others after later := by
  induction members generalizing s results logs with
  | nil => exact ⟨[], results, s, [], logs, rfl, rfl, .nil, steps⟩
  | cons a rest ih =>
    cases steps with
    | cons head tail =>
      obtain ⟨own, others, mid, front, later, rfl, rfl, first, second⟩ := ih tail
      exact ⟨_, others, mid, _, later, rfl, rfl, .cons head first, second⟩

/-- A failure on two lists, one behind the other, is one on the first of them, or on the
second after all of the first has succeeded. -/
theorem Stops.of_append (stops : Stops f s (members ++ more) tried e after logs) :
    Stops f s members tried e after logs ∨
      ∃ own mid front others later, tried = members ++ others ∧ logs = front ++ later ∧
        Steps f s members own mid front ∧ Stops f mid more others e after later := by
  obtain ⟨split, steps, fails⟩ := stops
  rcases List.append_eq_append_iff.mp split with ⟨between, rfl, behind⟩ | ⟨between, rfl, behind⟩
  · obtain ⟨own, others, mid, front, later, -, rfl, first, second⟩ := steps.of_append
    exact .inr ⟨own, mid, front, _, _, List.append_assoc .., List.append_assoc .., first,
      .intro behind second fails⟩
  · cases between with
    | nil =>
      rw [List.append_nil]
      exact .inr ⟨_, _, _, _, _, rfl, rfl, steps, .intro behind.symm .nil fails⟩
    | cons b between =>
      cases behind
      exact .inl (.intro rfl steps fails)

theorem Stops.cons {a : α} {b : β} {log : Log} (head : (f a).run s = ⟨.ok b, mid, log⟩)
    (stops : Stops f mid members tried e after logs) :
    Stops f s (a :: members) (a :: tried) e after (log :: logs) := by
  obtain ⟨split, steps, fails⟩ := stops
  rw [← List.cons_append, ← List.cons_append]
  exact .intro (congrArg (a :: ·) split) (.cons head steps) fails

end Passes

/-- Steps that always answer and leave the state alone succeed on any list. -/
theorem steps_of_answers {f : α → Session σ ε β} {answer : α → β} {records : α → Log} {s : σ}
    (answers : ∀ a, (f a).run s = ⟨.ok (answer a), s, records a⟩) (members : List α) :
    Steps f s members (members.map answer) s (members.map records) := by
  induction members with
  | nil => exact .nil
  | cons a rest ih => exact .cons (answers a) ih

/-! ### A traversal is a pass -/

/-- Every pass ends in one of the two ways. -/
theorem steps_or_stops (f : α → Session σ ε β) (members : List α) (s : σ) :
    (∃ results after logs, Steps f s members results after logs) ∨
      ∃ tried e after logs, Stops f s members tried e after logs := by
  induction members generalizing s with
  | nil => exact .inl ⟨[], s, [], .nil⟩
  | cons a rest ih =>
    rcases head : (f a).run s with ⟨outcome, mid, log⟩
    cases outcome with
    | error e =>
      have front : a :: rest = [] ++ a :: rest := rfl
      exact .inr ⟨_, e, mid, _, .intro front .nil head⟩
    | ok b =>
      rcases ih mid with ⟨results, after, logs, tail⟩ | ⟨tried, e, after, logs, stops⟩
      · exact .inl ⟨_, after, _, .cons head tail⟩
      · exact .inr ⟨_, e, after, _, .cons head stops⟩

theorem run_mapM_of_steps {f : α → Session σ ε β} {s after : σ} {members : List α}
    {results : List β} {logs : List Log} (steps : Steps f s members results after logs) :
    (members.mapM f).run s = ⟨.ok results, after, logs.flatten⟩ := by
  induction steps with
  | nil => rfl
  | cons head _ ih =>
    rw [List.mapM_cons, run_bind_of_ok head, run_bind_of_ok ih]
    simp

theorem run_mapM_of_stops {f : α → Session σ ε β} {s after : σ} {members tried : List α} {e : ε}
    {logs : List Log} (stops : Stops f s members tried e after logs) :
    (members.mapM f).run s = ⟨.error e, after, logs.flatten⟩ := by
  obtain ⟨split, steps, fails⟩ := stops
  subst split
  induction steps with
  | nil =>
    rw [List.nil_append, List.mapM_cons, run_bind_of_error fails]
    simp
  | cons head _ ih =>
    rw [List.cons_append, List.mapM_cons, run_bind_of_ok head, run_bind_of_error (ih fails)]
    simp

/-- A traversal that succeeds has a result for each member. -/
theorem length_of_run_mapM {f : α → Session σ ε β} {s after : σ} {members : List α}
    {results : List β} {log : Log}
    (run : (members.mapM f).run s = ⟨.ok results, after, log⟩) :
    results.length = members.length := by
  rcases steps_or_stops f members s with ⟨_, _, _, steps⟩ | ⟨_, _, _, _, stops⟩
  · have same := (run_mapM_of_steps steps).symm.trans run
    cases same
    exact steps.length_results
  · have same := (run_mapM_of_stops stops).symm.trans run
    cases same

/-- What follows a step needs to agree only on what the step can give. -/
theorem bind_congr_of_run {m : Session σ ε α} {f g : α → Session σ ε γ}
    (same : ∀ s a after log, m.run s = ⟨.ok a, after, log⟩ → f a = g a) :
    m >>= f = m >>= g := by
  ext s : 2
  rcases run : m.run s with ⟨outcome, after, log⟩
  cases outcome with
  | error e => rw [run_bind_of_error run, run_bind_of_error run]
  | ok a => rw [run_bind_of_ok run, run_bind_of_ok run, same s a after log run]

end NodeSelection.Session
