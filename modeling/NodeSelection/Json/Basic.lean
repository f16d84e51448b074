/-!
JSON values as trees.

An object keeps its members in the order of the text, with repeated keys: what a
repeated key means is up to the reader of a record. A number keeps its value if
it is written as a whole number, and its text if not.
-/

namespace NodeSelection

/-- A JSON value. -/
inductive Json where
  | null
  | bool (b : Bool)
  /-- A number without fraction and exponent, other than `-0`. -/
  | int (i : Int)
  /-- Any other number, as it is written. -/
  | real (literal : String)
  /-- A string. There is no text when an escape in it stands for half of a
  surrogate pair and the other half is missing. -/
  | str (text : Option String)
  | arr (items : List Json)
  /-- Keys and values; a key has no text where a string has none. -/
  | obj (members : List (Option String × Json))

namespace Json

/-- A string with the given text. -/
def text (s : String) : Json := .str (some s)

/-- A record with the given keys. -/
def record (members : List (String × Json)) : Json :=
  .obj (members.map fun m => (some m.1, m.2))

/-- A JSON blank: space, tab, line feed or carriage return. -/
def isBlank (c : Char) : Bool := c == ' ' || c == '\t' || c == '\n' || c == '\r'

end Json

end NodeSelection
