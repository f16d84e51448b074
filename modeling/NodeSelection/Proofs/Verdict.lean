import NodeSelection.Proofs.Grouping
import NodeSelection.Proofs.RecordRoundTrip

/-!
How a run ends.

A config file, two texts of selectors and a manifest can all be at fault at once. Which
fault is reported is told by `Ends`, a list of the ways for a run to end, each with all
that must be in order before it comes to that.

* `Invocation.request_eq_ok_iff`: what is asked for comes from a flag, else from the config
  file, else it is empty.
* `Invocation.ends_ofResult`: a run ends in one of these ways.
* `Invocation.Ends.eq_ofResult`: and there is no other.
* `runProgram_ends`: how a run ends, with its exit code and what it writes, and on which
  files this depends.
-/

namespace NodeSelection

/-! ### The ways to end -/

/-- The error is that of the first piece of the text that is no selector. -/
def FailsFirst (text : String) (e : SyntaxError) : Prop :=
  ∃ before piece after, Text.pieces separates text.toList = before ++ piece :: after ∧
    (∀ p ∈ before, ∃ s, Selector.parse (String.ofList p) = .ok s) ∧
    Selector.parse (String.ofList piece) = .error e

/-- A value from the flag, else from the config file, else the default. -/
def chosen {α : Type} (default : α) : Option α → Option α → α
  | some flag, _ => flag
  | none, some config => config
  | none, none => default

namespace Invocation

variable (complain : Complaints) (files : Files) (i : Invocation)

/-- The config file, if one is named, holds these settings. -/
inductive Configured : Settings → Prop where
  | unnamed (none : i.config = none) : Configured .empty
  | read {path text : String} {config : Settings} (named : i.config = some path)
      (found : files path = .ok text) (holds : Settings.parse? text = some config) :
      Configured config

/-- The command line and its config file ask for this. -/
def Asks (request : Request) : Prop :=
  ∃ config, Configured files i config ∧
    request.select = chosen "" i.flags.select config.select ∧
    request.exclude = chosen "" i.flags.exclude config.exclude ∧
    request.hops = chosen 0 i.flags.hops config.hops

/-- What is asked for can be read, and this is the selection. -/
def Selects (selection : Selection) : Prop :=
  ∃ request, Asks files i request ∧ Group.parseAll request.select = .ok selection.included ∧
    Group.parseAll request.exclude = .ok selection.excluded ∧ request.hops = selection.hops

/-- How a run ends. -/
inductive Ends : Outcome → Prop where
  | configUnread {path : String} {error : ReadError} (named : i.config = some path)
      (absent : files path = .error error) :
      Ends (.failure (.unreadable .config path error))
  | configMalformed {path text : String} (named : i.config = some path)
      (found : files path = .ok text) (bad : Settings.parse? text = none) :
      Ends (.failure (.malformed .config path (complain .config text)))
  | badSelect {request : Request} {e : SyntaxError} (asks : Asks files i request)
      (bad : FailsFirst request.select e) : Ends (.failure (.badSelector e))
  | badExclude {request : Request} {e : SyntaxError} (asks : Asks files i request)
      (good : ∃ groups, Group.parseAll request.select = .ok groups)
      (bad : FailsFirst request.exclude e) : Ends (.failure (.badSelector e))
  | manifestUnread {selection : Selection} {path : String} {error : ReadError}
      (selects : Selects files i selection) (command : i.command = .apply path)
      (absent : files path = .error error) :
      Ends (.failure (.unreadable .manifest path error))
  | manifestMalformed {selection : Selection} {path text : String}
      (selects : Selects files i selection) (command : i.command = .apply path)
      (found : files path = .ok text) (bad : Manifest.parse? text = none) :
      Ends (.failure (.malformed .manifest path (complain .manifest text)))
  | parsed {selection : Selection} (selects : Selects files i selection)
      (command : i.command = .parse) : Ends (.success (printed selection.toJson))
  | applied {selection : Selection} {path text : String} {m : Manifest}
      (selects : Selects files i selection) (command : i.command = .apply path)
      (found : files path = .ok text) (holds : Manifest.parse? text = some m) :
      Ends (.success (printed ((selection.hits m.find).toJson .text)))

end Invocation

/-! ### What is asked for -/

theorem failsFirst_iff {text : String} {e : SyntaxError} :
    FailsFirst text e ↔ Group.parseAll text = .error e :=
  (Group.parseAll_eq_error_iff text e).symm

theorem chosen_eq {α : Type} (default : α) (flag config : Option α) :
    chosen default flag config = (flag.or config).getD default := by
  cases flag <;> cases config <;> rfl

namespace Invocation

variable {complain : Complaints} {files : Files} {i : Invocation}

theorem configured_iff (complain : Complaints) {config : Settings} :
    Configured files i config ↔ (loadConfig complain files i.config).outcome = .ok config := by
  constructor
  · intro configured
    cases configured with
    | unnamed none => rw [none]; rfl
    | read named found holds =>
      rw [named, outcome_loadConfig_some, outcome_load_eq_ok_iff]
      exact ⟨_, found, holds⟩
  · intro loaded
    cases named : i.config with
    | none =>
      rw [named] at loaded
      obtain rfl := Except.ok.inj loaded
      exact .unnamed named
    | some path =>
      rw [named, outcome_loadConfig_some, outcome_load_eq_ok_iff] at loaded
      obtain ⟨text, found, holds⟩ := loaded
      exact .read named found holds

/-- What is asked for comes from a flag, else from the config file, else it is empty. -/
theorem request_eq_ok_iff {request : Request} :
    i.request complain files = .ok request ↔ Asks files i request := by
  have laid : ∀ config, (i.flags.orElse config).request = request ↔
      request.select = chosen "" i.flags.select config.select ∧
      request.exclude = chosen "" i.flags.exclude config.exclude ∧
      request.hops = chosen 0 i.flags.hops config.hops := by
    intro config
    obtain ⟨select, exclude, hops⟩ := request
    simp only [chosen_eq, Settings.request, Settings.orElse, Request.mk.injEq, eq_comm]
  simp only [Invocation.request, Asks, configured_iff complain, ← laid]
  cases (loadConfig complain files i.config : Session Unit Failure Settings).outcome <;>
    simp [Except.map]

/-- Nothing is asked for when the config file that is named cannot be loaded. -/
theorem request_eq_error_iff {e : Failure} : i.request complain files = .error e ↔
    ∃ path, i.config = some path ∧ (load complain files .config Settings.parse? path :
      Session Unit Failure Settings).outcome = .error e := by
  rw [request]
  cases i.config with
  | none =>
    constructor
    · intro failed
      cases failed
    · rintro ⟨_, ⟨⟩, _⟩
  | some path =>
    rw [outcome_loadConfig_some]
    cases loaded : (load complain files .config Settings.parse? path :
        Session Unit Failure Settings).outcome <;>
      simp [Except.map, loaded]

end Invocation

/-- A request that cannot be read fails as the text to include does, or else as the one
to exclude. -/
theorem Selection.parse_eq_error_iff {request : Request} {e : SyntaxError} :
    Selection.parse request = .error e ↔ FailsFirst request.select e ∨
      (∃ groups, Group.parseAll request.select = .ok groups) ∧ FailsFirst request.exclude e := by
  rw [Selection.parse_eq, failsFirst_iff, failsFirst_iff]
  cases Group.parseAll request.select with
  | error e' => simp [bind, Except.bind]
  | ok included =>
    cases Group.parseAll request.exclude <;> simp [bind, Except.bind, pure, Except.pure]

/-! ### The end of a run -/

namespace Invocation

variable {complain : Complaints} {files : Files} {i : Invocation}

theorem result_of_asks {request : Request} (asks : Asks files i request) :
    i.result complain files = i.command.answer complain files request := by
  rw [result, request_eq_ok_iff.mpr asks]
  rfl

theorem result_of_selects {s : Selection} (selects : Selects files i s) :
    i.result complain files = i.command.prints complain files s := by
  obtain ⟨request, asks, parsed⟩ := selects
  rw [result_of_asks asks, Command.answer, Selection.parse_eq_ok_iff.mpr parsed]
  rfl

/-- A run ends in one of the ways. -/
theorem ends_ofResult : i.Ends complain files (.ofResult (i.result complain files)) := by
  cases asked : i.request complain files with
  | error e =>
    have failed : Outcome.ofResult (i.result complain files) = .failure e := by
      rw [result, asked]
      rfl
    rw [failed]
    obtain ⟨path, named, unloaded⟩ := request_eq_error_iff.mp asked
    rcases outcome_load_eq_error_iff.mp unloaded with ⟨_, absent, rfl⟩ | ⟨_, found, bad, rfl⟩
    · exact .configUnread named absent
    · exact .configMalformed named found bad
  | ok request =>
    have asks := request_eq_ok_iff.mp asked
    cases parsed : Selection.parse request with
    | error e =>
      rw [result_of_asks asks, Command.answer, parsed]
      rcases Selection.parse_eq_error_iff.mp parsed with bad | ⟨good, bad⟩
      · exact .badSelect asks bad
      · exact .badExclude asks good bad
    | ok s =>
      have selects : Selects files i s := ⟨request, asks, Selection.parse_eq_ok_iff.mp parsed⟩
      rw [result_of_selects selects]
      cases command : i.command with
      | parse => exact .parsed selects command
      | apply path =>
        rw [Command.prints]
        cases loaded : (load complain files .manifest Manifest.parse? path :
            Session Unit Failure Manifest).outcome with
        | error e =>
          rcases outcome_load_eq_error_iff.mp loaded with ⟨_, absent, rfl⟩ | ⟨_, found, bad, rfl⟩
          · exact .manifestUnread selects command absent
          · exact .manifestMalformed selects command found bad
        | ok m =>
          obtain ⟨text, found, holds⟩ := outcome_load_eq_ok_iff.mp loaded
          exact .applied selects command found holds

/-- There is no other way for it to end. -/
theorem Ends.eq_ofResult {outcome : Outcome} (ends : i.Ends complain files outcome) :
    outcome = .ofResult (i.result complain files) := by
  have unasked : ∀ {path e}, i.config = some path →
      (load complain files .config Settings.parse? path : Session Unit Failure Settings).outcome =
        .error e → .failure e = Outcome.ofResult (i.result complain files) := by
    intro path e named unloaded
    rw [result, request_eq_error_iff.mpr ⟨path, named, unloaded⟩]
    rfl
  have unread : ∀ {request e}, Asks files i request → Selection.parse request = .error e →
      .failure (.badSelector e) = Outcome.ofResult (i.result complain files) := by
    intro request e asks bad
    rw [result_of_asks asks, Command.answer, bad]
    rfl
  have unresolved : ∀ {s path e}, Selects files i s → i.command = .apply path →
      (load complain files .manifest Manifest.parse? path : Session Unit Failure Manifest).outcome =
        .error e → .failure e = Outcome.ofResult (i.result complain files) := by
    intro s path e selects command unloaded
    rw [result_of_selects selects, command, Command.prints, unloaded]
    rfl
  cases ends with
  | configUnread named absent =>
    exact unasked named (outcome_load_eq_error_iff.mpr (.inl ⟨_, absent, rfl⟩))
  | configMalformed named found bad =>
    exact unasked named (outcome_load_eq_error_iff.mpr (.inr ⟨_, found, bad, rfl⟩))
  | badSelect asks bad => exact unread asks (Selection.parse_eq_error_iff.mpr (.inl bad))
  | badExclude asks good bad =>
    exact unread asks (Selection.parse_eq_error_iff.mpr (.inr ⟨good, bad⟩))
  | manifestUnread selects command absent =>
    exact unresolved selects command (outcome_load_eq_error_iff.mpr (.inl ⟨_, absent, rfl⟩))
  | manifestMalformed selects command found bad =>
    exact unresolved selects command (outcome_load_eq_error_iff.mpr (.inr ⟨_, found, bad, rfl⟩))
  | parsed selects command =>
    rw [result_of_selects selects, command]
    rfl
  | @applied s path text m selects command found holds =>
    have loaded : (load complain files .manifest Manifest.parse? path :
        Session Unit Failure Manifest).outcome = .ok m :=
      outcome_load_eq_ok_iff.mpr ⟨text, found, holds⟩
    rw [result_of_selects selects, command, Command.prints, loaded]
    rfl

end Invocation

/-! ### What is reported -/

/-- The exit code tells the kind of the end, and standard output holds one JSON document
with a line end behind it if the run succeeded, and nothing if it did not. -/
structure Outcome.Reported (outcome : Outcome) : Prop where
  code_zero : outcome.exitCode = 0 ↔ ∃ output, outcome = .success output
  code_one : outcome.exitCode = 1 ↔ ∃ document path,
    (∃ error, outcome = .failure (.unreadable document path error)) ∨
      ∃ complaint, outcome = .failure (.malformed document path complaint)
  code_two : outcome.exitCode = 2 ↔ ∃ e, outcome = .failure (.badSelector e)
  document : outcome.exitCode = 0 → ∃ record : Json, outcome.stdout = record.pretty ++ "\n" ∧
    Json.read? outcome.stdout = some record
  nothing : outcome.exitCode ≠ 0 → outcome.stdout = ""
  message : ∀ e, outcome = .failure (.badSelector e) → outcome.stderr = e.message ++ "\n"

namespace Outcome

theorem reported_failure (reason : Failure) : (failure reason).Reported where
  code_zero := by cases reason <;> simp [Outcome.exitCode, Failure.exitCode]
  code_one := by cases reason <;> simp [Outcome.exitCode, Failure.exitCode]
  code_two := by cases reason <;> simp [Outcome.exitCode, Failure.exitCode]
  document succeeded := by cases reason <;> cases succeeded
  nothing _ := rfl
  message := by
    rintro e ⟨⟩
    rfl

theorem reported_success {record : Json} (written : record.Written) :
    (success (printed record)).Reported where
  code_zero := by simp [Outcome.exitCode]
  code_one := by simp [Outcome.exitCode]
  code_two := by simp [Outcome.exitCode]
  document _ := ⟨record, rfl, Json.read?_pretty written isBlank_of_mem_lineEnd⟩
  nothing failed := absurd rfl failed
  message := nofun

end Outcome

namespace Invocation

variable {complain : Complaints} {files : Files} {i : Invocation} {outcome : Outcome}

theorem Ends.reported (ends : i.Ends complain files outcome) : outcome.Reported := by
  cases ends with
  | configUnread | configMalformed | badSelect | badExclude | manifestUnread
  | manifestMalformed => exact Outcome.reported_failure _
  | parsed => exact Outcome.reported_success (Selection.written_toJson _)
  | applied => exact Outcome.reported_success (Hits.written_toJson _)

/-- Files that hold the same config file ask for the same. -/
theorem Asks.of_files {others : Files} (same : ∀ path, i.config = some path →
    others path = files path) {request : Request} (asks : Asks files i request) :
    Asks others i request := by
  obtain ⟨config, configured, layered⟩ := asks
  refine ⟨config, ?_, layered⟩
  cases configured with
  | unnamed none => exact .unnamed none
  | read named found holds => exact .read named ((same _ named).trans found) holds

/-- A malformed selector is reported whatever files there are, the config file apart. -/
theorem Ends.badSelector_of_files {others : Files} (same : ∀ path, i.config = some path →
    others path = files path) {e : SyntaxError}
    (ends : i.Ends complain files (.failure (.badSelector e))) :
    i.Ends complain others (.failure (.badSelector e)) := by
  cases ends with
  | badSelect asks bad => exact .badSelect (asks.of_files same) bad
  | badExclude asks good bad => exact .badExclude (asks.of_files same) good bad

/-- A command that parses reads no file but the config file. -/
theorem Ends.parse_of_files {others : Files} (same : ∀ path, i.config = some path →
    others path = files path) (command : i.command = .parse)
    (ends : i.Ends complain files outcome) :
    i.Ends complain others outcome := by
  have other : ∀ {path}, i.command ≠ .apply path := by simp [command]
  cases ends with
  | configUnread named absent => exact .configUnread named ((same _ named).trans absent)
  | configMalformed named found bad => exact .configMalformed named ((same _ named).trans found) bad
  | badSelect asks bad => exact .badSelect (asks.of_files same) bad
  | badExclude asks good bad => exact .badExclude (asks.of_files same) good bad
  | manifestUnread _ applies | manifestMalformed _ applies | applied _ applies =>
    exact absurd applies other
  | parsed selects command =>
    obtain ⟨request, asks, reads⟩ := selects
    exact .parsed ⟨request, asks.of_files same, reads⟩ command

end Invocation

/-! ### Runs of a command line -/

theorem runProgram_eq_iff {args : List String} {i : Invocation}
    (read : Invocation.read args = .ok i) {complain : Complaints} {files : Files}
    {outcome : Outcome} :
    (runProgram complain files args).1 = outcome ↔ i.Ends complain files outcome := by
  rw [runProgram_of_read complain files read]
  constructor
  · rintro rfl
    exact Invocation.ends_ofResult
  · exact fun ends => ends.eq_ofResult.symm

/-- A command line that is understood ends in exactly one of the ways, whatever the files
hold, and reports which. That a selector is malformed shows without the manifest, and
a command that parses never reads one. -/
theorem runProgram_ends {args : List String} {i : Invocation}
    (read : Invocation.read args = .ok i) (complain : Complaints) (files : Files) :
    (∀ outcome, (runProgram complain files args).1 = outcome ↔ i.Ends complain files outcome) ∧
    (runProgram complain files args).1.Reported ∧
    ∀ others : Files, (∀ path, i.config = some path → others path = files path) →
      ((runProgram complain files args).1.exitCode = 2 →
        (runProgram complain others args).1 = (runProgram complain files args).1) ∧
      (i.command = .parse →
        (runProgram complain others args).1 = (runProgram complain files args).1) := by
  have ends := (runProgram_eq_iff read).mp (rfl : (runProgram complain files args).1 = _)
  refine ⟨fun outcome => runProgram_eq_iff read, ends.reported, fun others same => ⟨?_, ?_⟩⟩
  · intro code
    obtain ⟨e, bad⟩ := ends.reported.code_two.mp code
    rw [bad] at ends ⊢
    exact (runProgram_eq_iff read).mpr (ends.badSelector_of_files same)
  · intro command
    exact (runProgram_eq_iff read).mpr (ends.parse_of_files same command)

/-- Both texts are malformed and there is no manifest: the first malformed selector to
include is reported, and with another manifest it would be, too. -/
theorem runProgram_ends_all_at_fault :
    let complain : Complaints := fun _ _ => ""
    let files : Files := fun path =>
      if path = "c" then .ok "selection.select = 'a @b+,tag:'" else .error .notFound
    let others : Files := fun path =>
      if path = "c" then .ok "selection.select = 'a @b+,tag:'" else .ok "[[]]"
    let args := ["--config", "c", "apply", "--manifest=m", "--exclude=+"]
    ∃ i, Invocation.read args = .ok i ∧
      (∀ outcome, (runProgram complain files args).1 = outcome ↔ i.Ends complain files outcome) ∧
      (runProgram complain files args).1.Reported ∧
      (runProgram complain files args).1 = .failure (.badSelector (.exclusiveModifiers "@b+")) ∧
      (runProgram complain others args).1 = (runProgram complain files args).1 := by
  intro complain files others args
  have read : Invocation.read args =
      .ok ⟨.apply "m", some "c", ⟨none, some "+", none⟩⟩ := by decide +kernel
  have config : Settings.parse? "selection.select = 'a @b+,tag:'" =
      some ⟨some "a @b+,tag:", none, none⟩ := by decide +kernel
  have bad : Group.parseAll "a @b+,tag:" = .error (.exclusiveModifiers "@b+") := by
    decide +kernel
  obtain ⟨ends, reported, alone⟩ := runProgram_ends read complain files
  have asks : Invocation.Asks files ⟨.apply "m", some "c", ⟨none, some "+", none⟩⟩
      ⟨"a @b+,tag:", "+", 0⟩ := ⟨_, .read rfl (if_pos rfl) config, rfl, rfl, rfl⟩
  have failed := (ends (.failure (.badSelector (.exclusiveModifiers "@b+")))).mpr
    (.badSelect asks (failsFirst_iff.mpr bad))
  have code : (runProgram complain files args).1.exitCode = 2 := by
    rw [failed]
    rfl
  obtain ⟨same, -⟩ := alone others fun path named => by
    obtain rfl : "c" = path := Option.some.inj named
    rfl
  exact ⟨_, read, ends, reported, failed, same code⟩

end NodeSelection
