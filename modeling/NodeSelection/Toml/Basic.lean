import NodeSelection.Text.Lead

/-!
TOML documents as trees: tables, arrays and scalars.

The keys of a table stand in the order of the document. A table remembers how it
came to be, since that decides what may still be added to it; and nothing that
reads a finished document looks at it.
-/

namespace NodeSelection

/-- How a table came to be. -/
inductive TableForm where
  /-- Between braces: it is complete. -/
  | inline
  /-- By a header of its own. -/
  | header
  /-- By the header of a table below it. -/
  | implied
  /-- By a dotted key. -/
  | dotted
deriving DecidableEq, Repr

/-- A TOML value. -/
inductive Toml where
  | str (s : String)
  | int (n : Int64)
  | bool (b : Bool)
  /-- A number with a fraction or an exponent, or one that is no number, as written. -/
  | float (literal : String)
  /-- A date, a time or both, as written. -/
  | moment (literal : String)
  | arr (items : List Toml)
  | table (form : TableForm) (entries : List (String × Toml))
  /-- The tables of a repeated header, of which there is at least one. -/
  | tables (elements : List (List (String × Toml)))

namespace Toml

/-- Keys with their values. -/
abbrev Entries := List (String × Toml)

/-! ### Characters -/

/-- A blank within a line: space or tab. -/
def isBlank (c : Char) : Bool := c == ' ' || c == '\t'

/-- A character that may stand in a comment: any but a control, the tab apart. -/
def isPlain (c : Char) : Bool := c == '\t' || (0x20 ≤ c.toNat && c.toNat ≠ 0x7F)

/-- A character of a key without quotes. -/
def isBare (c : Char) : Bool := c.isAlphanum || c == '_' || c == '-'

/-- Drops the blanks at the front. -/
def skipBlanks (text : List Char) : List Char := text.dropWhile isBlank

/-- The rest of a text that begins with a line end. A carriage return ends a line only
before a line feed. -/
def newLine? : List Char → Option (List Char)
  | '\n' :: rest => some rest
  | '\r' :: '\n' :: rest => some rest
  | _ => none

end Toml

end NodeSelection
