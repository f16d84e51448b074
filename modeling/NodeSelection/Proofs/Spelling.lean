import NodeSelection.Program
import NodeSelection.Proofs.Keyed

/-!
Writing an invocation as a command line.

An option is written with its value in one argument, `--name=value`. No value can be mistaken
for something else there, and options so written may stand in any order: each sets what it
names and nothing else. The config file may also be named in front of the command.

* `Scan.read_given`: such arguments set their options, one after the other.
* `Options.setAll_of_perm`: in any order they make the same options.
* `Invocation.read_of_spelled`: an invocation that is written so is read back.
* `Invocation.spelled_faithfully`: so all its command lines are one run.
-/

namespace NodeSelection

namespace Flag

/-- All options. -/
def all : List Flag := [.config, .manifest, .select, .exclude, .hops]

theorem mem_all (flag : Flag) : flag ∈ all := by
  cases flag <;> decide

/-- The option with its value, in one argument. -/
def assigned (flag : Flag) (value : String) : String := "--" ++ flag.name ++ "=" ++ value

/-- Options with their values, an argument each. -/
def assignments (given : List (Flag × String)) : List String :=
  given.map fun e => e.1.assigned e.2

end Flag

/-! ### Options as texts -/

namespace Options

/-- A number as the value of an option. -/
def numeral (n : Int64) : String := String.ofList (Text.writeInt n.toInt)

@[simp] theorem number_numeral (n : Int64) : number (numeral n) = .ok n := by
  simp [number, numeral]

/-- The text of an option's value. -/
def text? (o : Options) : Flag → Option String
  | .config => o.config
  | .manifest => o.manifest
  | .select => o.settings.select
  | .exclude => o.settings.exclude
  | .hops => o.settings.hops.map numeral

theorem has_eq (o : Options) (flag : Flag) : o.has flag = (o.text? flag).isSome := by
  cases flag <;> simp [has, text?]

/-- Options with the same texts are the same. -/
theorem eq_of_text? {one two : Options} (same : ∀ flag, one.text? flag = two.text? flag) :
    one = two := by
  have injective : Function.Injective numeral := fun m n eq => by
    simpa using congrArg number eq
  obtain ⟨config, manifest, select, exclude, hops⟩ := one
  obtain ⟨config', manifest', select', exclude', hops'⟩ := two
  obtain rfl : config = config' := same .config
  obtain rfl : manifest = manifest' := same .manifest
  obtain rfl : select = select' := same .select
  obtain rfl : exclude = exclude' := same .exclude
  obtain rfl : hops = hops' := Option.map_injective injective (same .hops)
  rfl

/-- The options that have a value, with its text. -/
def given (o : Options) : List (Flag × String) :=
  Flag.all.filterMap fun flag => (o.text? flag).map fun value => (flag, value)

theorem mem_given {o : Options} {flag : Flag} {value : String} :
    (flag, value) ∈ o.given ↔ o.text? flag = some value := by
  simp only [given, List.mem_filterMap, Option.map_eq_some_iff, Prod.mk.injEq]
  constructor
  · rintro ⟨_, -, _, text, rfl, rfl⟩
    exact text
  · exact fun text => ⟨flag, flag.mem_all, value, text, rfl, rfl⟩

theorem nodup_given (o : Options) : (o.given.map Prod.fst).Nodup := by
  have keys : o.given.map Prod.fst = Flag.all.filter fun flag => (o.text? flag).isSome := by
    rw [given, List.map_filterMap, ← List.filterMap_eq_filter]
    congr 1
    funext flag
    cases text : o.text? flag <;> simp [text, Option.guard]
  rw [keys]
  exact List.Nodup.filter _ (by decide)

/-! ### Setting options one by one -/

/-- The text is a value of the option. -/
def Takes : Flag → String → Prop
  | .config, value => value ≠ ""
  | .manifest, value => value ≠ ""
  | .hops, value => ∃ n, value = numeral n
  | _, _ => True

/-- The options with each of the values. -/
def setAll (o : Options) (given : List (Flag × String)) : Except UsageError Options :=
  given.foldlM (fun o e => o.set e.1 e.2) o

variable {flag : Flag} {value : String} {given : List (Flag × String)}

/-- An option that has no value yet is given one, and nothing else changes. -/
theorem set_of_takes {o : Options} (fresh : o.text? flag = none) (takes : Takes flag value) :
    ∃ o', o.set flag value = .ok o' ∧
      ∀ f, o'.text? f = if f = flag then some value else o.text? f := by
  have unset : ¬ o.has flag := by simp [has_eq, fresh]
  unfold set
  rw [if_neg unset]
  cases flag with
  | config =>
    have ok : path .config value = .ok value := if_neg takes
    exact ⟨{ o with config := some value }, by rw [ok]; rfl, fun f => by cases f <;> rfl⟩
  | manifest =>
    have ok : path .manifest value = .ok value := if_neg takes
    exact ⟨{ o with manifest := some value }, by rw [ok]; rfl, fun f => by cases f <;> rfl⟩
  | select =>
    exact ⟨{ o with settings := { o.settings with select := some value } }, rfl,
      fun f => by cases f <;> rfl⟩
  | exclude =>
    exact ⟨{ o with settings := { o.settings with exclude := some value } }, rfl,
      fun f => by cases f <;> rfl⟩
  | hops =>
    obtain ⟨n, rfl⟩ := takes
    exact ⟨{ o with settings := { o.settings with hops := some n } },
      by rw [number_numeral]; rfl, fun f => by cases f <;> rfl⟩

/-- Options that are set in turn have the values that they are given. -/
theorem setAll_of_takes (o : Options) (distinct : (given.map Prod.fst).Nodup)
    (takes : ∀ e ∈ given, Takes e.1 e.2) (fresh : ∀ e ∈ given, o.text? e.1 = none) :
    ∃ o', o.setAll given = .ok o' ∧ ∀ f, o'.text? f = (given.lookup f).or (o.text? f) := by
  induction given generalizing o with
  | nil => exact ⟨o, rfl, fun f => rfl⟩
  | cons e rest ih =>
    obtain ⟨flag, value⟩ := e
    obtain ⟨new, distinct⟩ := List.nodup_cons.mp distinct
    obtain ⟨takes, takes_rest⟩ := List.forall_mem_cons.mp takes
    obtain ⟨fresh, fresh_rest⟩ := List.forall_mem_cons.mp fresh
    obtain ⟨next, set, texts⟩ := set_of_takes fresh takes
    -- What is still to be set has no value yet, since no option is given twice.
    have others : ∀ e ∈ rest, next.text? e.1 = none := by
      intro e mem
      have ne : e.1 ≠ flag := fun same => new (List.mem_map.mpr ⟨e, mem, same⟩)
      rw [texts, if_neg ne, fresh_rest e mem]
    obtain ⟨last, set_rest, texts_rest⟩ := ih next distinct takes_rest others
    refine ⟨last, ?_, fun f => ?_⟩
    · rw [setAll, List.foldlM_cons, set]
      exact set_rest
    · rw [texts_rest, texts]
      by_cases same : f = flag
      · subst same
        rw [Keyed.lookup_eq_none_iff_notMem.mpr new, Keyed.lookup_cons_self, if_pos rfl]
        rfl
      · rw [Keyed.lookup_cons_of_ne same, if_neg same]

/-- The order in which options are set does not matter. -/
theorem setAll_of_perm {o : Options} (takes : ∀ e ∈ o.given, Takes e.1 e.2)
    (order : given.Perm o.given) : empty.setAll given = .ok o := by
  have distinct : (given.map Prod.fst).Nodup := (order.map Prod.fst).nodup_iff.mpr o.nodup_given
  obtain ⟨last, set, texts⟩ := setAll_of_takes empty distinct
    (fun e mem => takes e (order.mem_iff.mp mem)) fun e _ => by cases e.1 <;> rfl
  have same : last = o := eq_of_text? fun f => by
    have unset : empty.text? f = none := by cases f <;> rfl
    rw [texts, unset, Option.or_none, Keyed.lookup_eq_of_perm distinct order]
    refine Option.ext fun value => ?_
    rw [Keyed.lookup_eq_some_iff_mem o.nodup_given, mem_given]
  rw [set, same]

/-- Options with paths that are not empty can be set. -/
theorem takes_given {o : Options} (config : ∀ path ∈ o.config, path ≠ "")
    (manifest : ∀ path ∈ o.manifest, path ≠ "") : ∀ e ∈ o.given, Takes e.1 e.2 := by
  rintro ⟨flag, value⟩ mem
  have text := mem_given.mp mem
  cases flag with
  | config => exact config value text
  | manifest => exact manifest value text
  | select => trivial
  | exclude => trivial
  | hops =>
    obtain ⟨n, -, rfl⟩ := Option.map_eq_some_iff.mp text
    exact ⟨n, rfl⟩

end Options

/-! ### Scanning what is written -/

variable {flag : Flag} {given : List (Flag × String)}

theorem ofChars_assigned (flag : Flag) (value : String) :
    Argument.ofChars (flag.assigned value).toList = .option (.long flag.name (some value)) := by
  -- The first `=` ends the name, whatever the value holds.
  have free : '=' ∉ flag.name.toList := by cases flag <;> decide
  have cut : Text.cutAt? '=' (flag.name.toList ++ '=' :: value.toList) =
      some (flag.name.toList, value.toList) := Text.cutAt?_eq_some_iff.mpr ⟨rfl, free⟩
  have chars : (flag.assigned value).toList =
      '-' :: '-' :: (flag.name.toList ++ '=' :: value.toList) := by
    simp [Flag.assigned, String.toList_append]
  obtain ⟨c, rest, split⟩ : ∃ c rest, flag.name.toList ++ '=' :: value.toList = c :: rest :=
    List.exists_cons_of_ne_nil (by simp)
  rw [chars, split, Argument.ofChars, ← split, cut]
  · simp
  · simp

namespace Scan

/-- An option with its value in one argument is set at once. -/
theorem read_assigned {known : List Flag} (mem : flag ∈ known) (value : String)
    (rest : List String) (o : Options) :
    read known (flag.assigned value :: rest) ⟨o, none⟩ =
      (o.set flag value).bind fun o => read known rest ⟨o, none⟩ := by
  have kept : (Flag.ofName? flag.name).filter (· ∈ known) = some flag := by simp [mem]
  have no_help : flag.name ≠ "help" := by cases flag <;> decide
  have begins : begin ⟨o, none⟩ flag (some value) =
      (o.set flag value).bind fun o => .ok ⟨o, none⟩ := rfl
  conv_lhs => unfold read
  simp only [ofChars_assigned, option, if_neg no_help, kept, begins]
  cases o.set flag value <;> rfl

/-- Such arguments set their options, one after the other. -/
theorem read_given {known : List Flag} (each : ∀ e ∈ given, e.1 ∈ known) (rest : List String)
    (o : Options) :
    read known (Flag.assignments given ++ rest) ⟨o, none⟩ =
      (o.setAll given).bind fun o => read known rest ⟨o, none⟩ := by
  induction given generalizing o with
  | nil => rfl
  | cons e given ih =>
    obtain ⟨first, each⟩ := List.forall_mem_cons.mp each
    rw [Flag.assignments, List.map_cons, List.cons_append, read_assigned first, Options.setAll,
      List.foldlM_cons]
    cases o.set e.1 e.2 with
    | error => rfl
    | ok next => exact ih each next

/-- A plain word ends the scan. -/
theorem read_plain (known : List Flag) {word : String}
    (plain : Argument.ofChars word.toList = .plain) (rest : List String) (o : Options) :
    read known (word :: rest) ⟨o, none⟩ = .ok (⟨o, none⟩, .word word rest) := by
  unfold read
  simp [plain, awaits]

end Scan

/-- A command whose known options are written behind it has them. -/
theorem commandOptions_given {known : List Flag} {o : Options}
    (takes : ∀ e ∈ o.given, Options.Takes e.1 e.2) (each : ∀ e ∈ o.given, e.1 ∈ known)
    (order : given.Perm o.given) :
    commandOptions known (Flag.assignments given) = .ok o := by
  have scanned := Scan.read_given (fun e mem => each e (order.mem_iff.mp mem)) [] Options.empty
  rw [List.append_nil, Options.setAll_of_perm takes order] at scanned
  rw [commandOptions, Scan.empty, scanned]
  rfl

/-! ### Invocations -/

namespace Command

/-- The word of a command. -/
def word : Command → String
  | parse => "parse"
  | apply _ => "apply"

/-- The path of the manifest, for a command that has one. -/
def manifest? : Command → Option String
  | parse => none
  | apply path => some path

theorem plain_word (command : Command) : Argument.ofChars command.word.toList = .plain := by
  cases command with
  | parse => decide
  | apply path =>
    have plain : Argument.ofChars "apply".toList = .plain := by decide
    exact plain

end Command

theorem readCommand_parse (args : List String) :
    readCommand "parse" args = (commandOptions [.config, .select, .exclude, .hops] args).bind
      fun o => .ok (.parse, o) := rfl

theorem readCommand_apply (args : List String) :
    readCommand "apply" args = (commandOptions Flag.all args).bind fun o =>
      match o.manifest with
      | some manifest => .ok (.apply manifest, o)
      | none => .error (.missing .manifest) := rfl

/-- A command reads its own options. -/
theorem readCommand_word {command : Command} {o : Options}
    (takes : ∀ e ∈ o.given, Options.Takes e.1 e.2) (manifest : o.manifest = command.manifest?)
    (order : given.Perm o.given) :
    readCommand command.word (Flag.assignments given) = .ok (command, o) := by
  cases command with
  | parse =>
    have each : ∀ e ∈ o.given, e.1 ∈ [Flag.config, .select, .exclude, .hops] := by
      rintro ⟨flag, value⟩ mem
      cases flag with
      | manifest => cases manifest.symm.trans (Options.mem_given.mp mem)
      | _ => simp
    rw [Command.word, readCommand_parse, commandOptions_given takes each order]
    rfl
  | apply path =>
    have each : ∀ e ∈ o.given, e.1 ∈ Flag.all := fun e _ => e.1.mem_all
    rw [Command.word, readCommand_apply, commandOptions_given takes each order]
    simp only [Except.bind, manifest, Command.manifest?]

namespace Invocation

/-- All options of an invocation. -/
def options (i : Invocation) : Options := ⟨i.config, i.command.manifest?, i.flags⟩

/-- The command line is one for the invocation: its command with its options in any order
behind it, of which the config file may stand in front of it. -/
inductive Spelled (i : Invocation) : List String → Prop
  | behind {given : List (Flag × String)} (order : given.Perm i.options.given) :
      Spelled i (i.command.word :: Flag.assignments given)
  | front {path : String} {given : List (Flag × String)} (named : i.config = some path)
      (order : given.Perm { i.options with config := none }.given) :
      Spelled i (Flag.config.assigned path :: i.command.word :: Flag.assignments given)

/-- The parts of a command line are put together. -/
theorem read_of_scanned {args rest : List String} {word : String} {front o : Options}
    {command : Command}
    (scanned : Scan.read [.config] args .empty = .ok (⟨front, none⟩, .word word rest))
    (commanded : readCommand word rest = .ok (command, o)) :
    Invocation.read args = .ok ⟨command, o.config.or front.config, o.settings⟩ := by
  rw [Invocation.read, scanned]
  change (readCommand word rest).bind _ = _
  rw [commanded]
  rfl

theorem read_of_spelled {i : Invocation} (config : ∀ path ∈ i.config, path ≠ "")
    (manifest : ∀ path ∈ i.command.manifest?, path ≠ "") {args : List String}
    (spelled : i.Spelled args) : Invocation.read args = .ok i := by
  cases spelled with
  | behind order =>
    have commanded := readCommand_word (Options.takes_given config manifest) rfl order
    rw [read_of_scanned (Scan.read_plain _ i.command.plain_word _ _) commanded]
    simp [options, Options.empty]
  | @front path given named order =>
    have commanded := readCommand_word (Options.takes_given (by simp) manifest) rfl order
    -- In front of the command stand options too, if only the one.
    have front : Options.empty.setAll [(.config, path)] = .ok ⟨some path, none, .empty⟩ :=
      Options.setAll_of_perm (Options.takes_given (named ▸ config) nofun) (.refl _)
    have each : ∀ e ∈ [(Flag.config, path)], e.1 ∈ [Flag.config] := by simp
    have scanned := Scan.read_given each (i.command.word :: Flag.assignments given) Options.empty
    rw [front] at scanned
    have stopped := scanned.trans (Scan.read_plain _ i.command.plain_word _ _)
    refine (read_of_scanned stopped commanded).trans ?_
    simp [options, ← named]

/-- Every way to write an invocation is read as it, and all of them are one run. -/
theorem spelled_faithfully (i : Invocation) (config : ∀ path ∈ i.config, path ≠ "")
    (manifest : ∀ path, i.command = .apply path → path ≠ "") :
    (∀ args, i.Spelled args → Invocation.read args = .ok i) ∧
      ∀ complain files args args', i.Spelled args → i.Spelled args' →
        runProgram complain files args = runProgram complain files args' := by
  have manifest : ∀ path ∈ i.command.manifest?, path ≠ "" := by
    intro path mem
    cases command : i.command with
    | parse => simp [command, Command.manifest?] at mem
    | apply path' =>
      obtain rfl : path' = path := by simpa [command, Command.manifest?] using mem
      exact manifest path' command
  refine ⟨fun args spelled => read_of_spelled config manifest spelled, ?_⟩
  intro complain files args args' spelled spelled'
  rw [runProgram, runProgram, read_of_spelled config manifest spelled,
    read_of_spelled config manifest spelled']

theorem spelled_faithfully_look_alikes :
    let flags : Settings := ⟨some "", some "-s =a", some Int64.minValue⟩
    let i : Invocation := ⟨.apply "m", some "--hops=1", flags⟩
    let one := ["--config=--hops=1", "apply", "--hops=-9223372036854775808", "--select=",
      "--manifest=m", "--exclude=-s =a"]
    let two := ["apply", "--manifest=m", "--exclude=-s =a", "--config=--hops=1",
      "--hops=-9223372036854775808", "--select="]
    Invocation.read one = .ok i ∧ Invocation.read two = .ok i ∧
      ∀ complain files, runProgram complain files one = runProgram complain files two := by
  intro flags i one two
  have front : i.Spelled one :=
    @Spelled.front i "--hops=1" [(.hops, "-9223372036854775808"), (.select, ""), (.manifest, "m"),
      (.exclude, "-s =a")] rfl (by decide)
  have behind : i.Spelled two :=
    @Spelled.behind i [(.manifest, "m"), (.exclude, "-s =a"), (.config, "--hops=1"),
      (.hops, "-9223372036854775808"), (.select, "")] (by decide)
  obtain ⟨reads, same⟩ := spelled_faithfully i (by simp [i]) (by simp [i])
  exact ⟨reads one front, reads two behind,
    fun complain files => same complain files one two front behind⟩

end Invocation

end NodeSelection
