import NodeSelection.Text.Numeral
import NodeSelection.Toml.Basic

/-!
The four kinds of TOML strings: between single or double quotes, on one line or
in a block between three quotes.

Each reader takes the text after the opening quotes and gives the characters of
the string with the rest of the text. In a block every line end counts as a line
feed, and one directly after the opening quotes does not count.
-/

namespace NodeSelection.Toml

/-- The character of a two-character escape. -/
def shortEscape? : Char → Option Char
  | 'b' => some '\x08'
  | 't' => some '\t'
  | 'n' => some '\n'
  | 'f' => some '\x0c'
  | 'r' => some '\r'
  | '"' => some '"'
  | '\\' => some '\\'
  | _ => none

/-- The character with the code point that hexadecimal digits give; surrogates are none. -/
def codePoint? (digits : List Char) : Option Char :=
  (Text.readNat? 16 digits).bind fun n => if n.isValidChar then some (Char.ofNat n) else none

/-- An escape after its backslash: the character and how many characters stand for it. -/
def escape? : List Char → Option (Char × Nat)
  | 'u' :: rest => if rest.length < 4 then none else (codePoint? (rest.take 4)).map (·, 5)
  | 'U' :: rest => if rest.length < 8 then none else (codePoint? (rest.take 8)).map (·, 9)
  | e :: _ => (shortEscape? e).map (·, 1)
  | [] => none

/-- Puts a character in front of what was read. -/
def push (c : Char) : Option (List Char × List Char) → Option (List Char × List Char) :=
  Option.map fun (chars, rest) => (c :: chars, rest)

/-- A string between double quotes. The first `skip` characters belong to an escape
that was read. -/
def basicString (skip : Nat) : List Char → Option (List Char × List Char)
  | [] => none
  | c :: rest =>
    match skip with
    | skip + 1 => basicString skip rest
    | 0 =>
      if c = '"' then some ([], rest)
      else if c = '\\' then do
        let (e, length) ← escape? rest
        push e (basicString length rest)
      else if isPlain c then push c (basicString 0 rest)
      else none

/-- A string between single quotes. -/
def literalString : List Char → Option (List Char × List Char)
  | [] => none
  | c :: rest =>
    if c = '\'' then some ([], rest)
    else if isPlain c then push c (literalString rest)
    else none

/-- The end of a block: three quotes, before which up to two may belong to the string.
There is none where fewer than three quotes stand. -/
def blockEnd? (quote : Char) (text : List Char) : Option (List Char × List Char) :=
  let run := min (text.takeWhile (· == quote)).length 5
  if run < 3 then none else some (List.replicate (run - 3) quote, text.drop run)

/-- A backslash at the end of a line: only blanks stand between it and the line end. -/
def endsLine (text : List Char) : Bool := (newLine? (skipBlanks text)).isSome

/-- A block between double quotes. The first `skip` characters belong to an escape that
was read; with `trim`, blanks and line ends are dropped until another character. -/
def basicBlock (skip : Nat) (trim : Bool) : List Char → Option (List Char × List Char)
  | [] => none
  | '\r' :: '\n' :: rest =>
    if trim then basicBlock 0 true rest else push '\n' (basicBlock 0 false rest)
  | c :: rest =>
    match skip with
    | skip + 1 => basicBlock skip false rest
    | 0 =>
      if trim && (isBlank c || c == '\n') then basicBlock 0 true rest
      else if c = '"' then
        match blockEnd? '"' (c :: rest) with
        | some ended => some ended
        | none => push '"' (basicBlock 0 false rest)
      else if c = '\\' then
        if endsLine rest then basicBlock 0 true rest
        else do
          let (e, length) ← escape? rest
          push e (basicBlock length false rest)
      else if c = '\n' || isPlain c then push c (basicBlock 0 false rest)
      else none

/-- A block between single quotes. -/
def literalBlock : List Char → Option (List Char × List Char)
  | [] => none
  | '\r' :: '\n' :: rest => push '\n' (literalBlock rest)
  | c :: rest =>
    if c = '\'' then
      match blockEnd? '\'' (c :: rest) with
      | some ended => some ended
      | none => push '\'' (literalBlock rest)
    else if c = '\n' || isPlain c then push c (literalBlock rest)
    else none

/-- Drops a line end directly after the opening quotes of a block. -/
def afterOpening (text : List Char) : List Char := (newLine? text).getD text

/-- A string of any kind, with its opening quotes. -/
def string : List Char → Option (List Char × List Char)
  | '"' :: '"' :: '"' :: rest => basicBlock 0 false (afterOpening rest)
  | '"' :: rest => basicString 0 rest
  | '\'' :: '\'' :: '\'' :: rest => literalBlock (afterOpening rest)
  | '\'' :: rest => literalString rest
  | _ => none

end NodeSelection.Toml
