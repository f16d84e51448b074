import NodeSelection.Log

/-!
Sessions: steps of work that read and update a caller's state, add records to the
log and may fail.

State and log outlive a failure, and a step can only add to the log: what was
recorded before it stays in front.

* `run_bind_of_ok`, `run_bind_of_error`: a failed step ends the session.
* `run_mapM_of_ok`: steps that only answer and record do so member by member.
-/

namespace NodeSelection

/-- What came of a step: its value or its failure, the state after it, and the
records it made. -/
@[ext] structure Reply (σ ε α : Type) where
  outcome : Except ε α
  state : σ
  log : Log

/-- A step of work on a state `σ` that fails with an `ε` or gives an `α`. -/
@[ext] structure Session (σ ε α : Type) where
  run : σ → Reply σ ε α

namespace Session

variable {σ ε δ α β γ : Type}

/-- The step that does nothing and gives `a`. -/
protected def pure (a : α) : Session σ ε α := ⟨fun s => ⟨.ok a, s, []⟩⟩

/-- One step and, if it does not fail, the next one. -/
protected def bind (m : Session σ ε α) (f : α → Session σ ε β) : Session σ ε β :=
  ⟨fun s =>
    match m.run s with
    | ⟨.error e, after, log⟩ => ⟨.error e, after, log⟩
    | ⟨.ok a, after, log⟩ =>
      let next := (f a).run after
      ⟨next.outcome, next.state, log ++ next.log⟩⟩

instance : Monad (Session σ ε) where
  pure := Session.pure
  bind := Session.bind

/-- Makes a record. -/
def note (r : LogRecord) : Session σ ε Unit := ⟨fun s => ⟨.ok (), s, [r]⟩⟩

/-- Ends the session. -/
def fail (e : ε) : Session σ ε α := ⟨fun s => ⟨.error e, s, []⟩⟩

/-- Updates the state. -/
def modify (f : σ → σ) : Session σ ε Unit := ⟨fun s => ⟨.ok (), f s, []⟩⟩

/-- A result as a step: its value, or its failure. -/
def ofExcept : Except ε α → Session σ ε α
  | .ok a => Session.pure a
  | .error e => fail e

/-- The same step with its failure renamed. -/
def mapError (f : ε → δ) (m : Session σ ε α) : Session σ δ α :=
  ⟨fun s => let r := m.run s; ⟨r.outcome.mapError f, r.state, r.log⟩⟩

/-- What comes of a step that needs no state. -/
def outcome (m : Session Unit ε α) : Except ε α := (m.run ()).outcome

/-- The value of a step that needs no state and cannot fail. -/
def value (m : Session Unit Empty α) : α :=
  match m.outcome with
  | .ok a => a
  | .error e => nomatch e

/-! ### Runs -/

@[simp] theorem run_pure (a : α) (s : σ) : (pure a : Session σ ε α).run s = ⟨.ok a, s, []⟩ := rfl

@[simp] theorem run_note (r : LogRecord) (s : σ) :
    (note r : Session σ ε Unit).run s = ⟨.ok (), s, [r]⟩ := rfl

@[simp] theorem run_fail (e : ε) (s : σ) :
    (fail e : Session σ ε α).run s = ⟨.error e, s, []⟩ := rfl

@[simp] theorem run_modify (f : σ → σ) (s : σ) :
    (modify f : Session σ ε Unit).run s = ⟨.ok (), f s, []⟩ := rfl

@[simp] theorem run_mapError (f : ε → δ) (m : Session σ ε α) (s : σ) :
    (m.mapError f).run s = ⟨(m.run s).outcome.mapError f, (m.run s).state, (m.run s).log⟩ := rfl

/-- The value of a step is what it succeeds with. -/
theorem value_eq_of_outcome {m : Session Unit Empty α} {a : α} (h : m.outcome = .ok a) :
    m.value = a := by
  simp only [value, h]

/-- After a step that succeeds the next one runs on the state it left. -/
theorem run_bind_of_ok {m : Session σ ε α} {f : α → Session σ ε β} {s after : σ} {a : α}
    {log : Log} (h : m.run s = ⟨.ok a, after, log⟩) :
    (m >>= f).run s =
      ⟨((f a).run after).outcome, ((f a).run after).state, log ++ ((f a).run after).log⟩ := by
  show (Session.bind m f).run s = _
  simp [Session.bind, h]

/-- After a step that fails nothing runs. -/
theorem run_bind_of_error {m : Session σ ε α} {f : α → Session σ ε β} {s after : σ} {e : ε}
    {log : Log} (h : m.run s = ⟨.error e, after, log⟩) :
    (m >>= f).run s = ⟨.error e, after, log⟩ := by
  show (Session.bind m f).run s = _
  simp [Session.bind, h]

instance : LawfulMonad (Session σ ε) := LawfulMonad.mk' (Session σ ε)
  (by
    intro α m
    ext s : 2
    show (Session.bind m Session.pure).run s = _
    rcases h : m.run s with ⟨outcome, after, log⟩
    cases outcome <;> simp [Session.bind, Session.pure, h])
  (by
    intro α β a f
    ext s : 2
    simp [run_bind_of_ok (run_pure a s)])
  (by
    intro α β γ m f g
    ext s : 2
    rcases h : m.run s with ⟨outcome, after, log⟩
    cases outcome with
    | error e => rw [run_bind_of_error (run_bind_of_error h), run_bind_of_error h]
    | ok a =>
      rw [run_bind_of_ok h]
      rcases h' : (f a).run after with ⟨outcome', after', log'⟩
      cases outcome' with
      | error e =>
        rw [run_bind_of_error h', run_bind_of_error ((run_bind_of_ok h).trans (by rw [h']))]
      | ok b =>
        rw [run_bind_of_ok h', run_bind_of_ok ((run_bind_of_ok h).trans (by rw [h']))]
        simp)

/-- Steps that succeed and leave the state alone give their answers in order, with
their records in order. -/
theorem run_mapM_of_ok {f : α → Session σ ε β} {answer : α → β} {records : α → Log} {s : σ}
    (h : ∀ a, (f a).run s = ⟨.ok (answer a), s, records a⟩) (members : List α) :
    (members.mapM f).run s = ⟨.ok (members.map answer), s, members.flatMap records⟩ := by
  induction members with
  | nil => rfl
  | cons a rest ih =>
    rw [List.mapM_cons, run_bind_of_ok (h a), run_bind_of_ok ih]
    simp

end Session

end NodeSelection
