import NodeSelection.Proofs.GroupReading
import NodeSelection.Proofs.Steps
import NodeSelection.Selection

/-!
The order of lookups: which selectors a run looks up, on which states, and what
comes of the answers.

A run looks up the selectors of its groups in the order of reading, each of them once
and on the state that the lookup before it left. The first failure ends the run and is
its failure. If none fails, the answers are combined by their places, whatever the
selectors were.

* `mapM_answer`: group after group, the lookups are one pass over all selectors.
* `run_resolve_of_steps`, `run_resolve_of_stops`: the two ways for a resolution to end.
* `run_trySelect_of_ok` and its kin: a selection resolves two lists of groups in a row.
* `run_trySelect_of_steps`: a selection in which no lookup fails.
* `asksInTurn_of_runs`: a lookup that writes down its calls tells which they were.
* `lookups_in_turn`: applying a text and resolving a selection look up in turn.
-/

namespace NodeSelection

open Session

variable {σ ε δ N : Type}

/-- All that the algebra reads of a group: its method and how many answers it takes. -/
def Group.shape (g : Group) : Method × Nat := (g.method, g.selectors.length)

/-- The same lookup, with the selectors it is asked for written down behind its state. -/
def Lookup.recorded (lookup : Lookup σ ε N) : Lookup (σ × List Selector) ε N := fun t =>
  ⟨fun (s, calls) =>
    let reply := (lookup t).run s
    ⟨reply.outcome, (reply.state, calls ++ [t]), reply.log⟩⟩

/-- The step ended with this outcome on this state; its records are left open. -/
def Reply.Ends {α : Type} (reply : Reply σ ε α) (outcome : Except ε α) (after : σ) : Prop :=
  reply.outcome = outcome ∧ reply.state = after

/-- How looking up the wanted selectors in turn ends: with all of them answered, or with
the first that fails. The calls are the selectors that were looked up. -/
inductive InTurn (lookup : Lookup σ ε N) (s : σ) (wanted : List Selector)
    (found : List (Hits N) → Hits N) (failure : ε → δ) :
    List Selector → Except δ (Hits N) → σ → Prop where
  | answered {answers : List (Hits N)} {after : σ} {logs : List Log}
      (steps : Steps lookup s wanted answers after logs) :
      InTurn lookup s wanted found failure wanted (.ok (found answers)) after
  | failed {calls : List Selector} {e : ε} {after : σ} {logs : List Log}
      (stops : Stops lookup s wanted calls e after logs) :
      InTurn lookup s wanted found failure calls (.error (failure e)) after

/-- Whatever the lookup and its state, the client looks the wanted selectors up in turn
and does nothing else with the state. -/
def AsksInTurn (client : ∀ τ : Type, Lookup τ ε N → Session τ δ (Hits N))
    (wanted : List Selector) (found : List (Hits N) → Hits N) (failure : ε → δ) : Prop :=
  ∀ (τ : Type) (lookup : Lookup τ ε N) (s : τ) (earlier : List Selector),
    ∃ calls outcome after, InTurn lookup s wanted found failure calls outcome after ∧
      ((client τ lookup).run s).Ends outcome after ∧
      ((client (τ × List Selector) lookup.recorded).run (s, earlier)).Ends outcome
        (after, earlier ++ calls)

/-! ### Lookups that write down their calls, or a record -/

theorem Session.Steps.recorded {lookup : Lookup σ ε N} {s after : σ} {wanted : List Selector}
    {answers : List (Hits N)} {logs : List Log} (steps : Steps lookup s wanted answers after logs)
    (earlier : List Selector) :
    Steps lookup.recorded (s, earlier) wanted answers (after, earlier ++ wanted) logs := by
  induction steps generalizing earlier with
  | nil =>
    rw [List.append_nil]
    exact .nil
  | @cons _ _ _ t _ _ _ _ _ head _ ih =>
    have next := ih (earlier ++ [t])
    rw [List.append_assoc, List.singleton_append] at next
    refine .cons ?_ next
    simp only [Lookup.recorded, head]

theorem Session.Stops.recorded {lookup : Lookup σ ε N} {s after : σ} {wanted calls : List Selector}
    {e : ε} {logs : List Log} (stops : Stops lookup s wanted calls e after logs)
    (earlier : List Selector) :
    Stops lookup.recorded (s, earlier) wanted calls e (after, earlier ++ calls) logs := by
  obtain ⟨split, steps, fails⟩ := stops
  rw [← List.append_assoc]
  refine .intro split (steps.recorded earlier) ?_
  simp only [Lookup.recorded, fails]

/-- The records of a lookup with the one that is made in front of it. -/
def askedLog (t : Selector) (log : Log) : Log := .lookingUp t.raw :: log

theorem run_ask_of_run {lookup : Lookup σ ε N} {t : Selector} {s after : σ}
    {outcome : Except ε (Hits N)} {log : Log} (run : (lookup t).run s = ⟨outcome, after, log⟩) :
    (ask lookup t).run s = ⟨outcome, after, askedLog t log⟩ := by
  rw [ask, run_bind_of_ok (run_note _ s), run]
  rfl

theorem Session.Steps.asked {lookup : Lookup σ ε N} {s after : σ} {wanted : List Selector}
    {answers : List (Hits N)} {logs : List Log} (steps : Steps lookup s wanted answers after logs) :
    Steps (ask lookup) s wanted answers after (List.zipWith askedLog wanted logs) := by
  induction steps with
  | nil => exact .nil
  | cons head _ ih => exact .cons (run_ask_of_run head) ih

theorem Session.Stops.asked {lookup : Lookup σ ε N} {s after : σ} {wanted calls : List Selector} {e : ε}
    {logs : List Log} (stops : Stops lookup s wanted calls e after logs) :
    Stops (ask lookup) s wanted calls e after (List.zipWith askedLog calls logs) := by
  obtain ⟨split, steps, fails⟩ := stops
  rw [List.zipWith_append steps.length_logs.symm]
  exact .intro split steps.asked (run_ask_of_run fails)

/-- A client is told by how it runs on an arbitrary lookup: writing down the calls is one. -/
theorem asksInTurn_of_runs {client : ∀ τ : Type, Lookup τ ε N → Session τ δ (Hits N)}
    {wanted : List Selector} {found : List (Hits N) → Hits N} {failure : ε → δ}
    (answered : ∀ {τ : Type} {lookup : Lookup τ ε N} {s after : τ} {answers : List (Hits N)}
      {logs : List Log}, Steps lookup s wanted answers after logs →
        ((client τ lookup).run s).Ends (.ok (found answers)) after)
    (failed : ∀ {τ : Type} {lookup : Lookup τ ε N} {s after : τ} {calls : List Selector} {e : ε}
      {logs : List Log}, Stops lookup s wanted calls e after logs →
        ((client τ lookup).run s).Ends (.error (failure e)) after) :
    AsksInTurn client wanted found failure := by
  intro τ lookup s earlier
  rcases steps_or_stops lookup wanted s with
    ⟨answers, after, logs, steps⟩ | ⟨calls, e, after, logs, stops⟩
  · exact ⟨wanted, _, after, .answered steps, answered steps, answered (steps.recorded earlier)⟩
  · exact ⟨calls, _, after, .failed stops, failed stops, failed (stops.recorded earlier)⟩

variable [DecidableEq N]

/-! ### The algebra on answers -/

namespace Hits

/-- The answers dealt out to the groups by their places, and combined by their methods. -/
def combineEach : List (Method × Nat) → List (Hits N) → List (Hits N)
  | [], _ => []
  | (method, size) :: shapes, answers =>
    combine method (answers.take size) :: combineEach shapes (answers.drop size)

/-- What groups of these shapes find when their selectors have these answers. -/
def ofAnswers (shapes : List (Method × Nat)) (answers : List (Hits N)) : Hits N :=
  union (combineEach shapes answers)

theorem combineEach_append (method : Method) (shapes : List (Method × Nat))
    (own others : List (Hits N)) :
    combineEach ((method, own.length) :: shapes) (own ++ others) =
      combine method own :: combineEach shapes others := by
  simp [combineEach]

/-- Where the answers are those of a function of the selector, the groups find `hitsOf`. -/
theorem ofAnswers_map (find : Selector → Hits N) (groups : List Group) :
    ofAnswers (groups.map Group.shape) ((selectorsOf groups).map find) = hitsOf find groups := by
  have each : combineEach (groups.map Group.shape) ((selectorsOf groups).map find) =
      groups.map (Group.hits find) := by
    induction groups with
    | nil => rfl
    | cons g rest ih =>
      have size : g.shape = (g.method, (g.selectors.map find).length) := by
        rw [List.length_map, Group.shape]
      rw [selectorsOf_cons, List.map_append, List.map_cons, size, combineEach_append, ih,
        List.map_cons, Group.hits]
  rw [ofAnswers, each, hitsOf]

end Hits

/-- What a selection finds when its selectors, those to include in front, have these answers. -/
def Selection.ofAnswers (s : Selection) (answers : List (Hits N)) : Hits N :=
  let size := (selectorsOf s.included).length
  (Hits.ofAnswers (s.included.map Group.shape) (answers.take size)).difference
    (Hits.ofAnswers (s.excluded.map Group.shape) (answers.drop size))

/-! ### Runs -/

/-- Group after group, each of which ends at its first failure, the lookups are one pass
over the selectors of all groups. -/
theorem mapM_answer (lookup : Lookup σ ε N) (groups : List Group) :
    groups.mapM (Group.answer lookup) =
      Hits.combineEach (groups.map Group.shape) <$> (selectorsOf groups).mapM (ask lookup) := by
  induction groups with
  | nil => rfl
  | cons g rest ih =>
    rw [List.mapM_cons, ih, Group.answer, selectorsOf_cons, List.mapM_append]
    simp only [bind_assoc, pure_bind, map_eq_pure_bind]
    refine bind_congr_of_run fun s own after log run => ?_
    have size : g.shape = (g.method, own.length) := by
      rw [length_of_run_mapM run, Group.shape]
    simp only [List.map_cons, size, Hits.combineEach_append]

/-- The records of groups that were resolved: those of their lookups, and at last how much
was found. -/
def resolvedLog (groups : List Group) (logs : List Log) (found : Hits N) : Log :=
  (List.zipWith askedLog (selectorsOf groups) logs).flatten ++
    [.applied groups.length found.matched.length found.selected.length]

theorem run_resolve_of_steps {lookup : Lookup σ ε N} {groups : List Group} {s after : σ}
    {answers : List (Hits N)} {logs : List Log}
    (steps : Steps lookup s (selectorsOf groups) answers after logs) :
    (resolve lookup groups).run s =
      let found := Hits.ofAnswers (groups.map Group.shape) answers
      ⟨.ok found, after, resolvedLog groups logs found⟩ := by
  have pass := run_mapM_of_steps steps.asked
  rw [resolve, mapM_answer, bind_map_left, run_bind_of_ok pass, run_bind_of_ok (run_note _ after)]
  rfl

theorem run_resolve_of_stops {lookup : Lookup σ ε N} {groups : List Group} {s after : σ}
    {calls : List Selector} {e : ε} {logs : List Log}
    (stops : Stops lookup s (selectorsOf groups) calls e after logs) :
    (resolve lookup groups).run s =
      ⟨.error e, after, (List.zipWith askedLog calls logs).flatten⟩ := by
  have pass := run_mapM_of_stops stops.asked
  rw [resolve, mapM_answer, bind_map_left, run_bind_of_error pass]

/-- A text with an error is reported before any lookup: state and log stay as they were. -/
theorem run_tryApply_of_error {text : String} {e : SyntaxError}
    (parsed : Group.parseAll text = .error e) (lookup : Lookup σ ε N) (s : σ) :
    (tryApply lookup text).run s = ⟨.error (.badSelector e), s, []⟩ := by
  have read := run_readGroups_of_error parsed s
  rw [tryApply, run_bind_of_error (by rw [run_mapError, read]; rfl)]

theorem run_tryApply_of_ok {text : String} {groups : List Group}
    (parsed : Group.parseAll text = .ok groups) (lookup : Lookup σ ε N) (s : σ) :
    (tryApply lookup text).run s =
      let reply := (resolve lookup groups).run s
      ⟨reply.outcome.mapError .lookupFailed, reply.state,
        .parsed groups.length text :: reply.log⟩ := by
  have read := run_readGroups_of_ok parsed s
  rw [tryApply, run_bind_of_ok (by rw [run_mapError, read]; rfl)]
  rfl

/-- A selection resolves the groups to include, then those to exclude. -/
theorem run_trySelect_of_ok {lookup : Lookup σ ε N} {selection : Selection} {s mid after : σ}
    {included excluded : Hits N} {front back : Log}
    (first : (resolve lookup selection.included).run s = ⟨.ok included, mid, front⟩)
    (second : (resolve lookup selection.excluded).run mid = ⟨.ok excluded, after, back⟩) :
    (selection.trySelect lookup).run s =
      let kept := included.difference excluded
      ⟨.ok kept, after,
        front ++ (back ++ [.narrowed kept.selected.length included.selected.length])⟩ := by
  rw [Selection.trySelect, run_bind_of_ok first, run_bind_of_ok second,
    run_bind_of_ok (run_note _ after)]
  rfl

/-- A failure among the groups to include ends a selection there. -/
theorem run_trySelect_of_error_included {lookup : Lookup σ ε N} {selection : Selection}
    {s after : σ} {e : ε} {log : Log}
    (first : (resolve lookup selection.included).run s = ⟨.error e, after, log⟩) :
    (selection.trySelect lookup).run s = ⟨.error e, after, log⟩ := by
  rw [Selection.trySelect, run_bind_of_error first]

theorem run_trySelect_of_error_excluded {lookup : Lookup σ ε N} {selection : Selection}
    {s mid after : σ} {included : Hits N} {e : ε} {front back : Log}
    (first : (resolve lookup selection.included).run s = ⟨.ok included, mid, front⟩)
    (second : (resolve lookup selection.excluded).run mid = ⟨.error e, after, back⟩) :
    (selection.trySelect lookup).run s = ⟨.error e, after, front ++ back⟩ := by
  rw [Selection.trySelect, run_bind_of_ok first, run_bind_of_error second]

/-- Without a failure, the answers to both parts of a selection are combined. -/
theorem run_trySelect_of_steps {lookup : Lookup σ ε N} {selection : Selection}
    {s mid after : σ} {own others : List (Hits N)} {front later : List Log}
    (first : Steps lookup s (selectorsOf selection.included) own mid front)
    (second : Steps lookup mid (selectorsOf selection.excluded) others after later) :
    (selection.trySelect lookup).run s =
      let included := Hits.ofAnswers (selection.included.map Group.shape) own
      let excluded := Hits.ofAnswers (selection.excluded.map Group.shape) others
      let kept := included.difference excluded
      ⟨.ok kept, after, resolvedLog selection.included front included ++
        (resolvedLog selection.excluded later excluded ++
          [.narrowed kept.selected.length included.selected.length])⟩ :=
  run_trySelect_of_ok (run_resolve_of_steps first) (run_resolve_of_steps second)

theorem run_trySelect_of_stops_included {lookup : Lookup σ ε N} {selection : Selection}
    {s after : σ} {calls : List Selector} {e : ε} {logs : List Log}
    (stops : Stops lookup s (selectorsOf selection.included) calls e after logs) :
    (selection.trySelect lookup).run s =
      ⟨.error e, after, (List.zipWith askedLog calls logs).flatten⟩ :=
  run_trySelect_of_error_included (run_resolve_of_stops stops)

theorem tryApply_asksInTurn {text : String} {groups : List Group}
    (parsed : Group.parseAll text = .ok groups) :
    AsksInTurn (fun τ (lookup : Lookup τ ε N) => tryApply lookup text) (selectorsOf groups)
      (Hits.ofAnswers (groups.map Group.shape)) ApplyError.lookupFailed := by
  refine asksInTurn_of_runs ?_ ?_
  · intro τ lookup s after answers logs steps
    rw [run_tryApply_of_ok parsed, run_resolve_of_steps steps]
    exact ⟨rfl, rfl⟩
  · intro τ lookup s after calls e logs stops
    rw [run_tryApply_of_ok parsed, run_resolve_of_stops stops]
    exact ⟨rfl, rfl⟩

theorem trySelect_asksInTurn (selection : Selection) :
    AsksInTurn (fun τ (lookup : Lookup τ ε N) => selection.trySelect lookup)
      (selectorsOf selection.included ++ selectorsOf selection.excluded)
      selection.ofAnswers id := by
  refine asksInTurn_of_runs ?_ ?_
  · intro τ lookup s after answers logs steps
    obtain ⟨own, others, mid, front, later, rfl, rfl, first, second⟩ := steps.of_append
    rw [run_trySelect_of_steps first second]
    refine ⟨?_, rfl⟩
    simp [Selection.ofAnswers, ← first.length_results]
  · intro τ lookup s after calls e logs stops
    rcases stops.of_append with first | ⟨own, mid, front, others, later, -, -, first, second⟩
    · rw [run_trySelect_of_stops_included first]
      exact ⟨rfl, rfl⟩
    · rw [run_trySelect_of_error_excluded (run_resolve_of_steps first)
        (run_resolve_of_stops second)]
      exact ⟨rfl, rfl⟩

/-- What is looked up, and what comes of it, for any lookup that keeps a state and may fail.

A text with an error is reported without a lookup. The selectors of another text are
looked up in turn: each once, in the order of reading, up to and including the first
failure. So are those of a selection, where the groups to exclude come behind those to
include and are not touched when one of the latter fails. The answers count by their
places; where they are those of a function, they make the hits that the groups find. -/
theorem lookups_in_turn :
    (∀ (text : String) (e : SyntaxError), Group.parseAll text = .error e →
      ∀ (τ : Type) (lookup : Lookup τ ε N) (s : τ) (earlier : List Selector),
        (tryApply lookup text).run s = ⟨.error (.badSelector e), s, []⟩ ∧
        (tryApply lookup.recorded text).run (s, earlier) =
          ⟨.error (.badSelector e), (s, earlier), []⟩) ∧
    (∀ (text : String) (groups : List Group), Group.parseAll text = .ok groups →
      AsksInTurn (fun τ (lookup : Lookup τ ε N) => tryApply lookup text) (selectorsOf groups)
        (Hits.ofAnswers (groups.map Group.shape)) ApplyError.lookupFailed) ∧
    (∀ selection : Selection,
      AsksInTurn (fun τ (lookup : Lookup τ ε N) => selection.trySelect lookup)
        (selectorsOf selection.included ++ selectorsOf selection.excluded)
        selection.ofAnswers id) ∧
    (∀ (selection : Selection) (τ : Type) (lookup : Lookup τ ε N) (s after : τ)
      (calls earlier : List Selector) (e : ε) (logs : List Log),
      Stops lookup s (selectorsOf selection.included) calls e after logs →
        ((selection.trySelect lookup.recorded).run (s, earlier)).Ends (.error e)
          (after, earlier ++ calls)) ∧
    ∀ (find : Selector → Hits N) (groups : List Group),
      Hits.ofAnswers (groups.map Group.shape) ((selectorsOf groups).map find) =
        hitsOf find groups := by
  refine ⟨?_, ?_, trySelect_asksInTurn, ?_, Hits.ofAnswers_map⟩
  · intro text e parsed τ lookup s earlier
    exact ⟨run_tryApply_of_error parsed lookup s,
      run_tryApply_of_error parsed lookup.recorded (s, earlier)⟩
  · intro text groups parsed
    exact tryApply_asksInTurn parsed
  · intro selection τ lookup s after calls earlier e logs stops
    rw [run_trySelect_of_stops_included (stops.recorded earlier)]
    exact ⟨rfl, rfl⟩

/-- A lookup that counts its calls and fails at the third: the selector behind the failure
is not looked up, and nor are those to exclude. -/
example :
    let selector : String → Selector := fun raw => ⟨.fqn, raw, false, false, false, raw⟩
    let lookup : Lookup Nat Nat Nat := fun _ =>
      ⟨fun n => if n < 2 then ⟨.ok (.both [n]), n + 1, []⟩ else ⟨.error n, n + 1, []⟩⟩
    let selection : Selection :=
      ⟨[⟨.unite, [selector "a"]⟩, ⟨.intersect, [selector "b", selector "a", selector "c"]⟩],
        [⟨.unite, [selector "d"]⟩], 0⟩
    let reply := (selection.trySelect lookup.recorded).run (0, [])
    reply.outcome = .error 2 ∧ reply.state = (3, [selector "a", selector "b", selector "a"]) :=
  ⟨rfl, rfl⟩

end NodeSelection
