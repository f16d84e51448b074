import NodeSelection.Proofs.FormatsApart
import NodeSelection.Proofs.Verdict

/-!
What cannot show in a run: a setting that a flag overrides.

Two runs are compared by what comes of them. They may read different config files, and
the flags of their command lines may differ. A run shows what it asks for, laid out as
flags over config file over defaults, and nothing else of its settings; and one that
resolves against a manifest does not even show the hops.

A run may be told to take its config file for the manifest. That fails whatever the file
sets, but the parser of manifests has read the file by then, and its complaint is printed.

* `Outcome.SameUpToComplaint`: outcomes that differ in no more than that complaint.
* `Command.answer_sees`: the part of a request that shows.
* `Command.answer_of_alike`: no command takes a config file for a manifest.
* `runProgram_congr`: runs that ask for the same come out the same, up to that complaint.
* `overridden_settings_cannot_show`: what is overridden does not show, nor where a setting
  is said, nor how many hops are given for a manifest.
* `complaint_shows_overridden`: the complaint does show the file, whatever is overridden.
-/

namespace NodeSelection

/-! ### Settings of two runs -/

/-- The files differ in nothing but config files, whose settings are related. -/
def Files.AlikeUpTo (R : Settings → Settings → Prop) (files others : Files) : Prop :=
  ∀ path, others path = files path ∨
    ∃ text text' one two, files path = .ok text ∧ others path = .ok text' ∧
      Settings.parse? text = some one ∧ Settings.parse? text' = some two ∧ R one two

/-- Files are alike when they differ in one config file. -/
theorem Files.AlikeUpTo.of_config {R : Settings → Settings → Prop} {files others : Files}
    {path text text' : String} {one two : Settings} (found : files path = .ok text)
    (found' : others path = .ok text') (holds : Settings.parse? text = some one)
    (holds' : Settings.parse? text' = some two) (related : R one two)
    (rest : ∀ other, other ≠ path → others other = files other) : files.AlikeUpTo R others := by
  intro other
  by_cases same : other = path
  · rw [same]
    exact .inr ⟨text, text', one, two, found, found', holds, holds', related⟩
  · exact .inl (rest other same)

/-- A setting is said in two ways that come to the same, each with a flag and a config
file. -/
inductive Restated {α : Type} (default : α) :
    (flag config : Option α) → (flag' config' : Option α) → Prop where
  /-- Nothing is changed. -/
  | kept (flag config : Option α) : Restated default flag config flag config
  /-- The value moves from the config file to the flag, whatever is left in its place. -/
  | toFlag (value : α) (left : Option α) : Restated default none (some value) (some value) left
  /-- The value moves from the flag to the config file, whatever was in its place. -/
  | toConfig (value : α) (former : Option α) :
    Restated default (some value) former none (some value)
  /-- A flag with the default is as if nothing was said in either place. -/
  | cleared (overridden : Option α) : Restated default (some default) overridden none none

namespace Settings

/-- Where the flags leave a setting open, two config files have the same in effect. -/
structure AgreeBelow (flags one two : Settings) : Prop where
  select : flags.select = none → two.select.getD "" = one.select.getD ""
  exclude : flags.exclude = none → two.exclude.getD "" = one.exclude.getD ""
  hops : flags.hops = none → two.hops.getD 0 = one.hops.getD 0

/-- Settings are said in two ways. Hops may be any where only a manifest is searched. -/
structure Restates (command : Command) (flags config flags' config' : Settings) : Prop where
  select : Restated "" flags.select config.select flags'.select config'.select
  exclude : Restated "" flags.exclude config.exclude flags'.exclude config'.exclude
  hops : command = .parse → Restated 0 flags.hops config.hops flags'.hops config'.hops

/-- The same settings, the hops apart. -/
structure SameTexts (one two : Settings) : Prop where
  select : two.select = one.select
  exclude : two.exclude = one.exclude

end Settings

/-! ### What comes of two runs -/

section Complaint

variable (complain : Complaints) (files others : Files) (command : Command)

/-- Two runs of a command come to the same. Or both have found a config file in the place of
the manifest, and what the parser says of the one need not be what it says of the other. -/
inductive Outcome.SameUpToComplaint : Outcome → Outcome → Prop where
  | same (outcome : Outcome) : SameUpToComplaint outcome outcome
  | manifest {path text text' : String} {one two : Settings} (applies : command = .apply path)
      (found : files path = .ok text) (found' : others path = .ok text')
      (holds : Settings.parse? text = some one) (holds' : Settings.parse? text' = some two) :
      SameUpToComplaint (.failure (.malformed .manifest path (complain .manifest text)))
        (.failure (.malformed .manifest path (complain .manifest text')))

end Complaint

namespace Outcome.SameUpToComplaint

variable {complain : Complaints} {files others : Files} {command : Command} {one two : Outcome}

theorem exitCode_eq (alike : SameUpToComplaint complain files others command one two) :
    two.exitCode = one.exitCode := by
  cases alike <;> rfl

theorem stdout_eq (alike : SameUpToComplaint complain files others command one two) :
    two.stdout = one.stdout := by
  cases alike <;> rfl

/-- Where both runs have the same manifest, they come to the same. -/
theorem eq_of_manifest (alike : SameUpToComplaint complain files others command one two)
    (same : ∀ path, command = .apply path → others path = files path) : two = one := by
  cases alike with
  | same => rfl
  | @manifest path text text' _ _ applies found found' =>
    have read : Except.ok text' = (.ok text : Except ReadError String) := by
      rw [← found', same path applies, found]
    rw [Except.ok.inj read]

end Outcome.SameUpToComplaint

/-! ### What a command sees -/

/-- The part of a request that shows. Hops do not show in what is found in a manifest. -/
def Command.sees : Command → Request → Request
  | .parse, request => request
  | .apply _, request => { request with hops := 0 }

theorem Selection.parse_hops (request : Request) (hops : Int64) :
    Selection.parse { request with hops := hops } =
      (Selection.parse request).map fun s => { s with hops := hops } := by
  rw [parse_eq, parse_eq]
  show (Group.parseAll request.select >>= _) = (Group.parseAll request.select >>= _).map _
  cases Group.parseAll request.select with
  | error e => rfl
  | ok included =>
    show (Group.parseAll request.exclude >>= _) = (Group.parseAll request.exclude >>= _).map _
    cases Group.parseAll request.exclude <;> rfl

theorem Command.answer_sees (complain : Complaints) (files : Files) (command : Command)
    (request : Request) : command.answer complain files (command.sees request) =
      command.answer complain files request := by
  cases command with
  | parse => rfl
  | apply path =>
    rw [sees, answer, answer, Selection.parse_hops]
    cases Selection.parse request with
    | error e => rfl
    | ok s =>
      show prints complain files { s with hops := 0 } (.apply path) =
        prints complain files s (.apply path)
      simp only [prints, Selection.hits_eq]

/-- Requests look the same with the same texts, and the same hops where these show. -/
theorem Command.sees_eq {command : Command} {one two : Request}
    (select : two.select = one.select) (exclude : two.exclude = one.exclude)
    (hops : command = .parse → two.hops = one.hops) : command.sees two = command.sees one := by
  obtain ⟨_, _, _⟩ := one
  obtain ⟨_, _, _⟩ := two
  cases command with
  | parse => rw [sees, sees, Request.mk.injEq]; exact ⟨select, exclude, hops rfl⟩
  | apply path => rw [sees, sees, Request.mk.injEq]; exact ⟨select, exclude, rfl⟩

theorem Restated.getD_or {α : Type} {default : α} {flag config flag' config' : Option α}
    (restated : Restated default flag config flag' config') :
    (flag'.or config').getD default = (flag.or config).getD default := by
  cases restated <;> rfl

/-- What a flag overrides does not count. -/
theorem getD_or_of_agree {α : Type} {default : α} {flag one two : Option α}
    (agree : flag = none → two.getD default = one.getD default) :
    (flag.or two).getD default = (flag.or one).getD default := by
  cases flag with
  | none => exact agree rfl
  | some value => rfl

namespace Settings

variable {command : Command} {flags config flags' config' one two : Settings}

theorem AgreeBelow.sees (agree : AgreeBelow flags one two) :
    command.sees (flags.orElse two).request = command.sees (flags.orElse one).request :=
  Command.sees_eq (getD_or_of_agree agree.select) (getD_or_of_agree agree.exclude)
    fun _ => getD_or_of_agree agree.hops

theorem Restates.sees (restates : Restates command flags config flags' config') :
    command.sees (flags'.orElse config').request = command.sees (flags.orElse config).request :=
  Command.sees_eq restates.select.getD_or restates.exclude.getD_or
    fun parse => (restates.hops parse).getD_or

theorem SameTexts.refl (s : Settings) : SameTexts s s :=
  ⟨rfl, rfl⟩

theorem SameTexts.sees {path : String} (flagged : SameTexts flags flags')
    (configured : SameTexts config config') :
    (Command.apply path).sees (flags'.orElse config').request =
      (Command.apply path).sees (flags.orElse config).request := by
  refine Command.sees_eq ?_ ?_ nofun
  · simp only [orElse, request, flagged.select, configured.select]
  · simp only [orElse, request, flagged.exclude, configured.exclude]

end Settings

/-! ### Two runs -/

section TwoRuns

variable {complain : Complaints} {R : Settings → Settings → Prop} {files others : Files}
  {i j : Invocation}

/-- A config file is no manifest, whatever it sets. -/
theorem Command.answer_of_alike (alike : files.AlikeUpTo R others) (command : Command)
    (request : Request) : Outcome.SameUpToComplaint complain files others command
      (.ofResult (command.answer complain files request))
      (.ofResult (command.answer complain others request)) := by
  rw [answer, answer]
  cases Selection.parse request with
  | error e => exact .same _
  | ok s =>
    show Outcome.SameUpToComplaint complain files others command
      (.ofResult (command.prints complain files s)) (.ofResult (command.prints complain others s))
    cases command with
    | parse => exact .same _
    | apply path =>
      rcases alike path with same | ⟨text, text', one, two, found, found', holds, holds', -⟩
      · rw [prints, prints, load, load, same]
        exact .same _
      · have bad := Manifest.parse?_eq_none_of_settings holds
        have bad' := Manifest.parse?_eq_none_of_settings holds'
        simp only [prints, load, found, found', bad, bad']
        exact .manifest rfl found found' holds holds'

theorem Invocation.request_of_configured {config : Settings}
    (configured : i.Configured files config) :
    i.request complain files = .ok (i.flags.orElse config).request := by
  rw [request, (configured_iff complain).mp configured]
  rfl

/-- Files that are alike make for requests that look alike, when related settings do. -/
theorem Invocation.request_of_alike {see : Request → Request} (refl : ∀ config, R config config)
    (alike : files.AlikeUpTo R others) (config : j.config = i.config)
    (related : ∀ one two, R one two →
      see (j.flags.orElse two).request = see (i.flags.orElse one).request) :
    (j.request complain others).map see = (i.request complain files).map see := by
  rw [request, request, config]
  cases i.config with
  | none => exact congrArg Except.ok (related .empty .empty (refl _))
  | some path =>
    rw [outcome_loadConfig_some, outcome_loadConfig_some]
    rcases alike path with same | ⟨text, text', one, two, found, found', holds, holds', layered⟩
    · have loaded : (load complain others .config Settings.parse? path :
          Session Unit Failure Settings) = load complain files .config Settings.parse? path := by
        rw [load, load, same]
      rw [loaded]
      cases (load complain files .config Settings.parse? path :
          Session Unit Failure Settings).outcome with
      | error e => rfl
      | ok config => exact congrArg Except.ok (related config config (refl config))
    · rw [outcome_load_eq_ok_iff.mpr ⟨text, found, holds⟩,
        outcome_load_eq_ok_iff.mpr ⟨text', found', holds'⟩]
      exact congrArg Except.ok (related one two layered)

/-- Runs that ask for the same come out the same, as far as it shows. -/
theorem runProgram_congr {args more : List String} (read : Invocation.read args = .ok i)
    (reread : Invocation.read more = .ok j) (command : j.command = i.command)
    (alike : files.AlikeUpTo R others)
    (asked : (j.request complain others).map i.command.sees =
      (i.request complain files).map i.command.sees) :
    Outcome.SameUpToComplaint complain files others i.command (runProgram complain files args).1
      (runProgram complain others more).1 := by
  have seen : ∀ request : Except Failure Request,
      request >>= i.command.answer complain others =
        request.map i.command.sees >>= i.command.answer complain others := by
    intro request
    cases request with
    | error e => rfl
    | ok request => exact (Command.answer_sees complain others i.command request).symm
  have result : j.result complain others =
      i.request complain files >>= i.command.answer complain others := by
    rw [Invocation.result, command, seen, asked, ← seen]
  rw [runProgram_of_read complain files read, runProgram_of_read complain others reread, result,
    Invocation.result]
  cases i.request complain files with
  | error e => exact .same _
  | ok request => exact Command.answer_of_alike alike i.command request

end TwoRuns

/-- What comes of a run does not show what a flag overrides, not even a malformed text; nor
whether a setting is said by a flag or in the config file, where a flag with an empty text
says that there is none; nor, when a manifest is searched, any hops. Only when a config
file is given as the manifest can its text show, in what the parser complains of. Two such
runs still end with the same code, and with the same message where the file that is given
as the manifest is the same. -/
theorem overridden_settings_cannot_show {args : List String} {i : Invocation}
    (read : Invocation.read args = .ok i) (complain : Complaints) (files others : Files) :
    (files.AlikeUpTo (Settings.AgreeBelow i.flags) others →
      Outcome.SameUpToComplaint complain files others i.command (runProgram complain files args).1
        (runProgram complain others args).1) ∧
    (∀ more j one two, Invocation.read more = .ok j → j.command = i.command →
      i.Configured files one → j.Configured others two →
      Settings.Restates i.command i.flags one j.flags two →
      files.AlikeUpTo (fun _ _ => True) others →
      Outcome.SameUpToComplaint complain files others i.command (runProgram complain files args).1
        (runProgram complain others more).1) ∧
    (∀ more j path, Invocation.read more = .ok j → j.command = i.command →
      i.command = .apply path → j.config = i.config → Settings.SameTexts i.flags j.flags →
      files.AlikeUpTo Settings.SameTexts others →
      Outcome.SameUpToComplaint complain files others i.command (runProgram complain files args).1
        (runProgram complain others more).1) ∧
    ∀ one two, Outcome.SameUpToComplaint complain files others i.command one two →
      two.exitCode = one.exitCode ∧ two.stdout = one.stdout ∧
        ((∀ path, i.command = .apply path → others path = files path) → two = one) := by
  refine ⟨fun alike => ?_, fun more j one two reread command configured configured' restates
    alike => ?_, fun more j path reread command apply config flags alike => ?_,
    fun one two alike => ⟨alike.exitCode_eq, alike.stdout_eq, alike.eq_of_manifest⟩⟩
  · refine runProgram_congr read read rfl alike ?_
    exact Invocation.request_of_alike (fun _ => ⟨fun _ => rfl, fun _ => rfl, fun _ => rfl⟩)
      alike rfl fun one two agree => agree.sees
  · refine runProgram_congr read reread command alike ?_
    rw [Invocation.request_of_configured configured, Invocation.request_of_configured configured']
    exact congrArg Except.ok restates.sees
  · refine runProgram_congr read reread command alike ?_
    rw [apply]
    exact Invocation.request_of_alike .refl alike config fun one two same => flags.sees same

/-- What a flag overrides may be malformed, the flag's value may as well be in the config
file, and that has some number of hops. -/
theorem overridden_settings_cannot_show_malformed :
    let complain : Complaints := fun _ _ => ""
    let files (config : String) : Files := fun path =>
      if path = "c" then .ok config
      else if path = "m" then .ok "[[[\"u\",[\"x\",\"a\"]]]]" else .error .notFound
    let overridden := files "selection.select = 'tag:'"
    let moved := files "selection.select = 'a'"
    let args := ["--config=c", "apply", "--manifest=m", "--select=a"]
    (runProgram complain overridden args).1.exitCode = 0 ∧
      (runProgram complain moved args).1 = (runProgram complain overridden args).1 ∧
      (runProgram complain moved ["apply", "--manifest=m", "--config=c"]).1 =
        (runProgram complain overridden args).1 ∧
      (runProgram complain overridden (args ++ ["--hops=7"])).1 =
        (runProgram complain overridden args).1 := by
  intro complain files overridden moved args
  have read : Invocation.read args = .ok ⟨.apply "m", some "c", ⟨some "a", none, none⟩⟩ := by
    decide +kernel
  have bare : Invocation.read ["apply", "--manifest=m", "--config=c"] =
      .ok ⟨.apply "m", some "c", ⟨none, none, none⟩⟩ := by decide +kernel
  have hops : Invocation.read (args ++ ["--hops=7"]) =
      .ok ⟨.apply "m", some "c", ⟨some "a", none, some 7⟩⟩ := by decide +kernel
  have holds : Settings.parse? "selection.select = 'tag:'" = some ⟨some "tag:", none, none⟩ := by
    decide +kernel
  have holds' : Settings.parse? "selection.select = 'a'" = some ⟨some "a", none, none⟩ := by
    decide +kernel
  have alike : ∀ R : Settings → Settings → Prop,
      R ⟨some "tag:", none, none⟩ ⟨some "a", none, none⟩ → overridden.AlikeUpTo R moved :=
    fun R related => .of_config (if_pos rfl) (if_pos rfl) holds holds' related
      fun _ other => (if_neg other).trans (if_neg other).symm
  obtain ⟨overrides, moves, -, same⟩ :=
    overridden_settings_cannot_show read complain overridden moved
  obtain ⟨-, -, free, same'⟩ :=
    overridden_settings_cannot_show read complain overridden overridden
  have manifest : ∀ path, Command.apply "m" = .apply path → moved path = overridden path := by
    rintro _ ⟨⟩
    rfl
  refine ⟨by decide +kernel, ?_, ?_, ?_⟩
  · have shown := overrides (alike _ ⟨nofun, fun _ => rfl, fun _ => rfl⟩)
    exact (same _ _ shown).2.2 manifest
  · have restates : Settings.Restates (.apply "m") ⟨some "a", none, none⟩
        ⟨some "tag:", none, none⟩ ⟨none, none, none⟩ ⟨some "a", none, none⟩ :=
      ⟨.toConfig "a" (some "tag:"), .kept none none, nofun⟩
    have shown := moves _ _ _ _ bare rfl (.read rfl (if_pos rfl) holds)
      (.read rfl (if_pos rfl) holds') restates (alike _ trivial)
    exact (same _ _ shown).2.2 manifest
  · have shown := free _ _ "m" hops rfl rfl rfl ⟨rfl, rfl⟩ fun _ => .inl rfl
    exact (same' _ _ shown).2.2 fun _ _ => rfl

/-- Neither of two texts sets anything, so both runs ask for the same. But where the config
file is given as the manifest, too, the message shows which of the texts it holds. -/
theorem complaint_shows_overridden :
    let complain : Complaints := fun _ text =>
      if text = "" then "EOF while parsing a value at line 1 column 0"
      else "expected value at line 1 column 2"
    let files (config : String) : Files := fun path =>
      if path = "c" then .ok config else .error .notFound
    let args := ["apply", "--config=c", "--manifest=c"]
    ∃ i, Invocation.read args = .ok i ∧
      (files "").AlikeUpTo (Settings.AgreeBelow i.flags) (files "[selection]") ∧
      (runProgram complain (files "") args).1.stderr =
        "Failed to parse manifest c: EOF while parsing a value at line 1 column 0\n" ∧
      (runProgram complain (files "[selection]") args).1.stderr =
        "Failed to parse manifest c: expected value at line 1 column 2\n" ∧
      (runProgram complain (files "[selection]") args).1.stderr ≠
        (runProgram complain (files "") args).1.stderr := by
  intro complain files args
  have read : Invocation.read args = .ok ⟨.apply "c", some "c", ⟨none, none, none⟩⟩ := by
    decide +kernel
  have holds : Settings.parse? "" = some ⟨none, none, none⟩ := by decide +kernel
  have holds' : Settings.parse? "[selection]" = some ⟨none, none, none⟩ := by decide +kernel
  have alike : (files "").AlikeUpTo (Settings.AgreeBelow ⟨none, none, none⟩)
      (files "[selection]") :=
    .of_config (if_pos rfl) (if_pos rfl) holds holds'
      ⟨fun _ => rfl, fun _ => rfl, fun _ => rfl⟩
      fun _ other => (if_neg other).trans (if_neg other).symm
  have printed : (runProgram complain (files "") args).1.stderr =
      "Failed to parse manifest c: EOF while parsing a value at line 1 column 0\n" := by
    decide +kernel
  have printed' : (runProgram complain (files "[selection]") args).1.stderr =
      "Failed to parse manifest c: expected value at line 1 column 2\n" := by decide +kernel
  refine ⟨_, read, alike, printed, printed', ?_⟩
  rw [printed, printed']
  decide

end NodeSelection
