import NodeSelection.Toml.Number
import NodeSelection.Toml.Quoted
import NodeSelection.Toml.Table

/-!
Reading a TOML document: a list of statements, one to a line, and the tree that
they build.

The readers for nested values count down a bound that the length of the text
provides, so `Toml.read?` itself shows no bound. What does show is `depthLimit`:
values and keys that are nested deeper are refused.
-/

namespace NodeSelection.Toml

/-- How many brackets and braces may be open at once, and how many keys may have dots
between them. -/
def depthLimit : Nat := 79

/-! ### Keys -/

/-- A key between quotes or without. -/
def simpleKey (text : List Char) : Option (String × List Char) :=
  match text with
  | '"' :: rest => (basicString 0 rest).map fun (chars, rest) => (String.ofList chars, rest)
  | '\'' :: rest => (literalString rest).map fun (chars, rest) => (String.ofList chars, rest)
  | _ =>
    let (bare, rest) := Text.span isBare text
    if bare = [] then none else some (String.ofList bare, rest)

/-- Keys with dots between them, and blanks around each of them. -/
def dottedKey : Nat → List Char → Option (List String × List Char)
  | 0, _ => none
  | bound + 1, text => do
    let (first, rest) ← simpleKey (skipBlanks text)
    match skipBlanks rest with
    | '.' :: rest =>
      let (others, rest) ← dottedKey bound rest
      return (first :: others, rest)
    | rest => return ([first], rest)

/-- A dotted key that is not too deep. -/
def keyPath (text : List Char) : Option (List String × List Char) :=
  (dottedKey text.length text).filter fun (path, _) => path.length ≤ depthLimit

/-- A dotted key with the equals sign after it. -/
def keyBefore (text : List Char) : Option (List String × List Char) := do
  let (path, rest) ← keyPath text
  match rest with
  | '=' :: rest => return (path, skipBlanks rest)
  | _ => none

/-! ### Values -/

/-- Drops blanks, line ends and comments. -/
def skipFiller (inComment : Bool) : List Char → List Char
  | [] => []
  | '\r' :: '\n' :: rest => skipFiller false rest
  | c :: rest =>
    if c = '\n' then skipFiller false rest
    else if inComment then
      if isPlain c then skipFiller true rest else c :: rest
    else if c = '#' then skipFiller true rest
    else if isBlank c then skipFiller false rest
    else c :: rest

mutual

/-- A value at the front of a text, in which at most `room` more brackets and braces
may be open at once. -/
def value : Nat → Nat → List Char → Option (Toml × List Char)
  | 0, _, _ => none
  | bound + 1, room, text =>
    match text with
    | '"' :: _ => (string text).map fun (chars, rest) => (.str (String.ofList chars), rest)
    | '\'' :: _ => (string text).map fun (chars, rest) => (.str (String.ofList chars), rest)
    | '[' :: rest =>
      if room = 0 then none
      else (items bound (room - 1) rest).map fun (items, rest) => (.arr items, rest)
    | '\x7b' :: rest =>
      if room = 0 then none
      else
        match skipBlanks rest with
        | '\x7d' :: rest => some (.table .inline [], rest)
        | rest => (pairs bound (room - 1) rest []).map fun (entries, rest) =>
          (.table .inline entries, rest)
    | _ => scalar text

/-- The items of an array and the closing bracket. A comma may stand after the last. -/
def items : Nat → Nat → List Char → Option (List Toml × List Char)
  | 0, _, _ => none
  | bound + 1, room, text =>
    match skipFiller false text with
    | ']' :: rest => some ([], rest)
    | text => do
      let (first, rest) ← value bound room text
      match skipFiller false rest with
      | ',' :: rest =>
        let (others, rest) ← items bound room rest
        return (first :: others, rest)
      | ']' :: rest => return ([first], rest)
      | _ => none

/-- The pairs of an inline table, added to `entries`, and the closing brace. All stand
on one line, and no comma after the last. -/
def pairs : Nat → Nat → List Char → Entries → Option (Entries × List Char)
  | 0, _, _, _ => none
  | bound + 1, room, text, entries => do
    let (path, rest) ← keyBefore text
    let (found, rest) ← value bound room rest
    let entries ← entries.assign found path
    match skipBlanks rest with
    | ',' :: rest => pairs bound room rest entries
    | '\x7d' :: rest => return (entries, rest)
    | _ => none

end

/-! ### Statements -/

/-- What a line of a document says. -/
inductive Statement where
  /-- The next values belong to this table. -/
  | header (path : List String)
  /-- The next values belong to a new table of this array. -/
  | element (path : List String)
  /-- A key has a value. -/
  | pair (path : List String) (value : Toml)

/-- The end of a line: blanks, perhaps a comment, and a line end or the end of the text. -/
def lineEnd? (text : List Char) : Option (List Char) :=
  let afterComment :=
    match skipBlanks text with
    | '#' :: rest => rest.dropWhile isPlain
    | rest => rest
  if afterComment = [] then some [] else newLine? afterComment

/-- The statement of a line. -/
def statement (text : List Char) : Option (Statement × List Char) :=
  match text with
  | '[' :: '[' :: rest => do
    let (path, rest) ← keyPath rest
    let rest ← Text.dropLead? [']', ']'] rest
    return (.element path, rest)
  | '[' :: rest => do
    let (path, rest) ← keyPath rest
    let rest ← Text.dropLead? [']'] rest
    return (.header path, rest)
  | _ => do
    let (path, rest) ← keyBefore text
    let (found, rest) ← value (2 * rest.length + 2) depthLimit rest
    return (.pair path found, rest)

/-- The statements of a document, line by line. -/
def statements : Nat → List Char → Option (List Statement)
  | 0, _ => none
  | bound + 1, text =>
    match skipBlanks text with
    | [] => some []
    | text =>
      match lineEnd? text with
      | some rest => statements bound rest
      | none => do
        let (first, rest) ← statement text
        let rest ← lineEnd? rest
        let others ← statements bound rest
        return first :: others

/-- A document while it is read: its tree, and the path of the last header. -/
structure Draft where
  root : Entries
  current : List String

namespace Draft

/-- A draft with one more statement. -/
def add (draft : Draft) : Statement → Option Draft
  | .header path => (draft.root.openAt Entries.openHeader path).map (⟨·, path⟩)
  | .element path => (draft.root.openAt Entries.openElement path).map (⟨·, path⟩)
  | .pair path value =>
    (draft.root.within (·.assign value path) draft.current).map (⟨·, draft.current⟩)

end Draft

/-- The tree that statements build. -/
def ofStatements? (list : List Statement) : Option Entries :=
  (list.foldlM Draft.add ⟨[], []⟩).map Draft.root

/-- The tree of a document. A byte order mark may stand in front of it. -/
def read? (text : String) : Option Entries :=
  let chars := (Text.takeMark '\ufeff' text.toList).2
  (statements (chars.length + 1) chars).bind ofStatements?

end NodeSelection.Toml
