import NodeSelection.Arguments.Basic

/-!
Reading a command line.

Arguments are scanned from the left, those before the command and those after it.
A value in an argument of its own is examined when the next option begins or the
scan ends, so a word without meaning before that is reported first. The scan after
the command is finished before the one in front of it.
-/

namespace NodeSelection

/-- The values that options have been given. -/
structure Options where
  config : Option String
  manifest : Option String
  settings : Settings
deriving DecidableEq, Repr

namespace Options

/-- No option given. -/
def empty : Options := ⟨none, none, .empty⟩

/-- A path, which must not be empty. -/
def path (flag : Flag) (value : String) : Except UsageError String :=
  if value = "" then .error (.noValue flag) else .ok value

/-- A 64-bit number in decimal digits, perhaps with a sign. -/
def number (value : String) : Except UsageError Int64 :=
  match (Text.readInt? value.toList).bind Text.int64? with
  | some n => .ok n
  | none => .error (.noNumber value)

/-- The option has a value. -/
def has (o : Options) : Flag → Bool
  | .config => o.config.isSome
  | .manifest => o.manifest.isSome
  | .select => o.settings.select.isSome
  | .exclude => o.settings.exclude.isSome
  | .hops => o.settings.hops.isSome

/-- The options with one more value. That an option has a value already is reported
before what is wrong with the new one. -/
def set (o : Options) (flag : Flag) (value : String) : Except UsageError Options :=
  if o.has flag then .error (.repeated flag)
  else
    match flag with
    | .config => do return { o with config := some (← path flag value) }
    | .manifest => do return { o with manifest := some (← path flag value) }
    | .select => return { o with settings := { o.settings with select := some value } }
    | .exclude => return { o with settings := { o.settings with exclude := some value } }
    | .hops => do return { o with settings := { o.settings with hops := some (← number value) } }

end Options

/-! ### Scanning options -/

/-- A scan under way: the options examined so far, and one that is yet to be
examined, with its value if that was seen. -/
structure Scan where
  options : Options
  pending : Option (Flag × Option String)
deriving DecidableEq, Repr

/-- Where a scan stops. -/
inductive Stop where
  /-- At the end of the arguments. -/
  | finished
  /-- At a plain word, with the arguments after it. -/
  | word (w : String) (rest : List String)
  /-- At a word after the separator. -/
  | separated (w : String)
deriving DecidableEq, Repr

namespace Scan

/-- A scan that begins. -/
def empty : Scan := ⟨.empty, none⟩

/-- Examines what is pending. -/
def settle (scan : Scan) : Except UsageError Options :=
  match scan.pending with
  | none => .ok scan.options
  | some (flag, none) => .error (.noValue flag)
  | some (flag, some value) => scan.options.set flag value

/-- Begins an option, with a value if one is attached to it. -/
def begin (scan : Scan) (flag : Flag) (attached : Option String) : Except UsageError Scan := do
  let options ← scan.settle
  match attached with
  | none => return ⟨options, some (flag, none)⟩
  | some value => return ⟨← options.set flag value, none⟩

/-- Asks for help, once what is pending is examined. -/
def askHelp (scan : Scan) : Except UsageError Scan := do
  let _ ← scan.settle
  .error .help

/-- The option whose value may be the next argument. -/
def awaits (scan : Scan) : Option Flag :=
  match scan.pending with
  | some (flag, none) => some flag
  | _ => none

/-- The text after the dash is a number: digits, perhaps with a point after the first
of them, and perhaps an exponent after an `e` of either case. -/
def isNumber (text : List Char) : Bool :=
  let (mantissa, exponent) := (Text.cutAt? 'e' (text.map Char.toLower)).getD (text, ['0'])
  let (whole, fraction) := (Text.cutAt? '.' mantissa).getD (mantissa, [])
  [whole, fraction, exponent].all (·.all Char.isDigit) && whole ≠ [] && exponent ≠ []

/-- Reads an option that is one of `known`. -/
def option (known : List Flag) (scan : Scan) (word : String) :
    OptionWord → Except UsageError Scan
  | .long name value =>
    if name = "help" then
      match value with
      | none => scan.askHelp
      | some value => .error (.needlessValue value)
    else
      match (Flag.ofName? name).filter (· ∈ known) with
      | some flag => scan.begin flag value
      | none => .error (.unknownArgument word)
  | .short letter rest =>
    if scan.awaits = some .hops ∧ isNumber (letter :: rest) then
      .ok { scan with pending := some (.hops, some word) }
    else if letter = 'h' then scan.askHelp
    else
      match (Flag.ofLetter? letter).filter (· ∈ known) with
      | some flag =>
        scan.begin flag <|
          match rest with
          | [] => none
          | '=' :: value => some (String.ofList value)
          | value => some (String.ofList value)
      | none => .error (.unknownArgument word)

/-- Scans arguments until something else than an option or its value stands there. -/
def read (known : List Flag) : List String → Scan → Except UsageError (Scan × Stop)
  | [], scan => .ok (scan, .finished)
  | word :: rest, scan =>
    match Argument.ofChars word.toList with
    | .separator =>
      match rest with
      | [] => .ok (scan, .finished)
      | next :: _ => .ok (scan, .separated next)
    | .plain =>
      match scan.awaits with
      | some flag => read known rest { scan with pending := some (flag, some word) }
      | none => .ok (scan, .word word rest)
    | .option o => do read known rest (← scan.option known word o)

end Scan

/-! ### The whole command line -/

/-- The commands, and the word that asks for help. -/
def commandWords : List String := ["parse", "apply", "help"]

/-- The options of a command. -/
def commandOptions (known : List Flag) (args : List String) : Except UsageError Options := do
  match ← Scan.read known args .empty with
  | (scan, .finished) => scan.settle
  | (_, .word w _) => .error (.unknownArgument w)
  | (_, .separated w) => .error (.unknownArgument w)

/-- The command of a word with its options, and the options themselves. -/
def readCommand (word : String) (args : List String) : Except UsageError (Command × Options) :=
  match word with
  | "parse" => do
    let options ← commandOptions [.config, .select, .exclude, .hops] args
    return (.parse, options)
  | "apply" => do
    let options ← commandOptions [.config, .manifest, .select, .exclude, .hops] args
    match options.manifest with
    | some manifest => return (.apply manifest, options)
    | none => .error (.missing .manifest)
  | "help" =>
    match args with
    | [] => .error .help
    | [topic] => .error (if topic ∈ commandWords then .help else .unknownCommand topic)
    | topic :: next :: _ =>
      .error (.unknownCommand (if topic ∈ commandWords then next else topic))
  | _ => .error (.unknownCommand word)

/-- Reads a command line. A config file named after the command counts before one that
is named in front of it. -/
def Invocation.read (args : List String) : Except UsageError Invocation := do
  match ← Scan.read [.config] args .empty with
  | (scan, .finished) =>
    let options ← scan.settle
    .error (if options.config.isSome then .noCommand else .nothing)
  | (_, .separated w) =>
    .error (if w ∈ commandWords then .unknownArgument w else .unknownCommand w)
  | (scan, .word w rest) =>
    let (command, options) ← readCommand w rest
    let front ← scan.settle
    return ⟨command, options.config.or front.config, options.settings⟩

end NodeSelection
