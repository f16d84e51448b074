import NodeSelection.Program
import NodeSelection.Proofs.Exclusion
import NodeSelection.Proofs.GroupReading

/-!
What comes of a run, apart from its log.

A step that needs no state is known by its outcome, and the outcome of steps in a row is
that of the one and then the other. So a run of the program is a chain of readings: the
config file, the selectors, the manifest.

* `Session.outcome_bind`: the outcome of two steps in a row.
* `Selection.outcome_trySelect`: records that a lookup makes do not show in what is found.
* `Invocation.outcome_run`: the settings make a request, and the command answers it.
* `runProgram_of_read`: what comes of a command line that was understood.
-/

namespace NodeSelection

/-! ### Outcomes of steps -/

namespace Session

variable {ε δ α β : Type}

@[simp] theorem outcome_pure (a : α) : (pure a : Session Unit ε α).outcome = .ok a := rfl

@[simp] theorem outcome_note (r : LogRecord) :
    (note r : Session Unit ε Unit).outcome = .ok () := rfl

@[simp] theorem outcome_fail (e : ε) : (fail e : Session Unit ε α).outcome = .error e := rfl

@[simp] theorem outcome_ofExcept (x : Except ε α) : (ofExcept x).outcome = x := by
  cases x <;> rfl

@[simp] theorem outcome_mapError (f : ε → δ) (m : Session Unit ε α) :
    (m.mapError f).outcome = m.outcome.mapError f := rfl

/-- Steps in a row come out as the one and then the other does. -/
@[simp] theorem outcome_bind (m : Session Unit ε α) (f : α → Session Unit ε β) :
    (m >>= f).outcome = m.outcome >>= fun a => (f a).outcome := by
  rcases h : m.run () with ⟨outcome, after, log⟩
  cases outcome with
  | error e => rw [outcome, run_bind_of_error h, outcome, h]; rfl
  | ok a => rw [outcome, run_bind_of_ok h, outcome, h]; rfl

/-- Steps that all answer give their answers in order. -/
theorem outcome_mapM_of_ok {f : α → Session Unit ε β} {answer : α → β}
    (answers : ∀ a, (f a).outcome = .ok (answer a)) (members : List α) :
    (members.mapM f).outcome = .ok (members.map answer) := by
  induction members with
  | nil => rfl
  | cons a rest ih =>
    rw [List.mapM_cons, outcome_bind, answers]
    show ((rest.mapM f >>= fun bs => pure (answer a :: bs))).outcome = _
    rw [outcome_bind, ih]
    rfl

end Session

/-! ### Lookups that always answer -/

section Answering

variable {ε N : Type} [DecidableEq N] {lookup : Lookup Unit ε N} {find : Selector → Hits N}

theorem Group.outcome_answer (answers : ∀ t, (lookup t).outcome = .ok (find t)) (g : Group) :
    (g.answer lookup).outcome = .ok (g.hits find) := by
  have asked : ∀ t, (ask lookup t).outcome = .ok (find t) := fun t => by
    rw [ask, Session.outcome_bind, answers]
    rfl
  rw [Group.answer, Session.outcome_bind, Session.outcome_mapM_of_ok asked]
  rfl

theorem outcome_resolve (answers : ∀ t, (lookup t).outcome = .ok (find t)) (groups : List Group) :
    (resolve lookup groups).outcome = .ok (hitsOf find groups) := by
  rw [resolve, Session.outcome_bind, Session.outcome_mapM_of_ok (Group.outcome_answer answers)]
  rfl

/-- A lookup that always answers finds what its answers make, whatever it records. -/
theorem Selection.outcome_trySelect (answers : ∀ t, (lookup t).outcome = .ok (find t))
    (s : Selection) : (s.trySelect lookup).outcome = .ok (s.hits find) := by
  rw [Selection.trySelect, Session.outcome_bind, outcome_resolve answers]
  show (resolve lookup s.excluded >>= _).outcome = _
  rw [Session.outcome_bind, outcome_resolve answers, Selection.hits_eq]
  rfl

end Answering

theorem Manifest.outcome_lookup {ε : Type} (m : Manifest) (t : Selector) :
    (m.lookup t : Session Unit ε (Hits String)).outcome = .ok (m.find t) := by
  rw [Session.outcome, Manifest.run_lookup]

theorem Selection.outcome_select_manifest (m : Manifest) (s : Selection) :
    (s.select m.lookup).outcome = .ok (s.hits m.find) :=
  outcome_trySelect m.outcome_lookup s

theorem outcome_readGroups (text : String) :
    (readGroups text : Session Unit SyntaxError (List Group)).outcome = Group.parseAll text := by
  rw [readGroups, Session.outcome_bind, Session.outcome_ofExcept]
  cases Group.parseAll text <;> rfl

/-- The two texts of a request are read one after the other. -/
theorem Selection.parse_eq (request : Request) : Selection.parse request = do
    let included ← Group.parseAll request.select
    let excluded ← Group.parseAll request.exclude
    return ⟨included, excluded, request.hops⟩ := by
  rw [Selection.parse, Selection.read, Session.outcome_bind, outcome_readGroups]
  refine bind_congr fun included => ?_
  rw [Session.outcome_bind, outcome_readGroups]
  rfl

theorem Selection.parse_eq_ok_iff {request : Request} {s : Selection} :
    Selection.parse request = .ok s ↔ Group.parseAll request.select = .ok s.included ∧
      Group.parseAll request.exclude = .ok s.excluded ∧ request.hops = s.hops := by
  obtain ⟨included, excluded, hops⟩ := s
  rw [Selection.parse_eq, bind_eq_ok_iff]
  simp only [bind_eq_ok_iff]
  constructor
  · rintro ⟨_, good, _, fine, same⟩
    cases same
    exact ⟨good, fine, rfl⟩
  · rintro ⟨good, fine, rfl⟩
    exact ⟨_, good, _, fine, rfl⟩

/-! ### Runs of the program -/

section Runs

variable (complain : Complaints) (files : Files)

/-- What the settings of a command line and of its config file ask for. -/
def Invocation.request (i : Invocation) : Except Failure Request :=
  (loadConfig complain files i.config).outcome.map fun config => (i.flags.orElse config).request

/-- What a command prints of a selection. -/
def Command.prints (selection : Selection) : Command → Except Failure String
  | .parse => .ok (printed selection.toJson)
  | .apply path => (load complain files .manifest Manifest.parse? path).outcome.map fun m =>
    printed ((selection.hits m.find).toJson .text)

/-- What a command prints of what is asked for. -/
def Command.answer (command : Command) (request : Request) : Except Failure String := do
  command.prints complain files (← (Selection.parse request).mapError .badSelector)

/-- What comes of an invocation: its command answers what is asked for. -/
def Invocation.result (i : Invocation) : Except Failure String :=
  i.request complain files >>= i.command.answer complain files

/-- A run of the program has the result of its invocation, whatever it records. -/
theorem Invocation.outcome_run (i : Invocation) :
    (i.run complain files).outcome = i.result complain files := by
  obtain ⟨command, config, flags⟩ := i
  rw [Invocation.run, Session.outcome_bind, Invocation.result, Invocation.request]
  cases (loadConfig complain files config : Session Unit Failure Settings).outcome with
  | error e => rfl
  | ok settings =>
    have parsed : (Selection.read (flags.orElse settings).request).outcome =
        Selection.parse (flags.orElse settings).request := rfl
    show (_ >>= _ : Session Unit Failure String).outcome =
      command.answer complain files (flags.orElse settings).request
    rw [Session.outcome_bind, Session.outcome_mapError, parsed, Command.answer]
    refine bind_congr fun selection => ?_
    cases command with
    | parse => rfl
    | apply path =>
      show (_ >>= _ : Session Unit Failure String).outcome =
        (load complain files .manifest Manifest.parse? path).outcome.map _
      rw [Session.outcome_bind]
      cases (load complain files .manifest Manifest.parse? path :
          Session Unit Failure Manifest).outcome with
      | error e => rfl
      | ok m =>
        show (_ >>= _ : Session Unit Failure String).outcome = _
        rw [Session.outcome_bind, Session.outcome_note]
        show (_ >>= _ : Session Unit Failure String).outcome = _
        rw [Session.outcome_bind, Session.outcome_mapError, Selection.outcome_select_manifest]
        rfl

/-- What came of a command that was run. -/
def Outcome.ofResult : Except Failure String → Outcome
  | .ok output => .success output
  | .error reason => .failure reason

theorem runProgram_of_read {args : List String} {i : Invocation}
    (read : Invocation.read args = .ok i) :
    (runProgram complain files args).1 = .ofResult (i.result complain files) := by
  rw [← Invocation.outcome_run, runProgram, read, Session.outcome]
  dsimp only
  split
  · next printed => rw [printed, Outcome.ofResult]
  · next failed => rw [failed, Outcome.ofResult]

end Runs

theorem mapError_eq_ok_iff {ε δ α : Type} {x : Except ε α} {f : ε → δ} {a : α} :
    x.mapError f = .ok a ↔ x = .ok a := by
  cases x <;> simp [Except.mapError]

/-- A run succeeds when the settings are found, the selectors can be read, and the command
can print what they select. -/
theorem runProgram_eq_success_iff {args : List String} {i : Invocation}
    (read : Invocation.read args = .ok i) {complain : Complaints} {files : Files}
    {output : String} :
    (runProgram complain files args).1 = .success output ↔
      ∃ request s, i.request complain files = .ok request ∧ Selection.parse request = .ok s ∧
        i.command.prints complain files s = .ok output := by
  have succeeds : ∀ result, Outcome.ofResult result = .success output ↔ result = .ok output := by
    intro result
    cases result <;> simp [Outcome.ofResult]
  rw [runProgram_of_read complain files read, succeeds, Invocation.result, bind_eq_ok_iff]
  simp only [Command.answer, bind_eq_ok_iff, mapError_eq_ok_iff, exists_and_left]

/-! ### Files -/

section Loading

variable {α : Type} {complain : Complaints} {files : Files} {document : Document}
  {parse? : String → Option α} {path : String}

/-- A file is loaded when it can be read and holds what it should. -/
theorem outcome_load_eq_ok_iff {a : α} :
    (load complain files document parse? path).outcome = .ok a ↔
      ∃ text, files path = .ok text ∧ parse? text = some a := by
  unfold load
  split
  · next error absent => simp [absent]
  · next text read =>
    split
    · next bad => simp [read, bad]
    · next found good => simp [read, good]

theorem outcome_load_eq_error_iff {e : Failure} :
    (load complain files document parse? path : Session Unit Failure α).outcome = .error e ↔
      (∃ error, files path = .error error ∧ .unreadable document path error = e) ∨
      ∃ text, files path = .ok text ∧ parse? text = none ∧
        .malformed document path (complain document text) = e := by
  unfold load
  split
  · next error absent => simp [absent]
  · next text read =>
    split
    · next bad => simp [read, bad]
    · next found good => simp [read, good]

theorem outcome_loadConfig_some (complain : Complaints) (files : Files) (path : String) :
    (loadConfig complain files (some path)).outcome =
      (load complain files .config Settings.parse? path).outcome := by
  rw [loadConfig, Session.outcome_bind]
  cases (load complain files .config Settings.parse? path :
    Session Unit Failure Settings).outcome <;> rfl

end Loading

end NodeSelection
