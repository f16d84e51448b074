import NodeSelection.Json.Basic
import NodeSelection.Text.Numeral

/-!
Printing a JSON value over several lines: two spaces for each level, every item
and member on a line of its own, and brackets that hold nothing side by side.

In strings only quotes, backslashes and the controls below U+0020 are escaped.
-/

namespace NodeSelection.Json

/-- The two digits of a control character in lower-case hexadecimal. -/
def controlDigits (code : Nat) : List Char :=
  [Nat.digitChar (code / 16), Nat.digitChar (code % 16)]

/-- A character as it stands in a string. -/
def escaped : Char → List Char
  | '"' => ['\\', '"']
  | '\\' => ['\\', '\\']
  | '\x08' => ['\\', 'b']
  | '\t' => ['\\', 't']
  | '\n' => ['\\', 'n']
  | '\x0c' => ['\\', 'f']
  | '\r' => ['\\', 'r']
  | c => if c.toNat < 0x20 then ['\\', 'u', '0', '0'] ++ controlDigits c.toNat else [c]

/-- A text between quotes. -/
def quotedText (text : List Char) : List Char :=
  '"' :: text.flatMap escaped ++ ['"']

/-- A new line that begins at the given level. -/
def newLine (level : Nat) : List Char := '\n' :: List.replicate (2 * level) ' '

mutual

/-- A value that begins on a line of the given level. A string without a text is
printed as an empty one. -/
def lines (level : Nat) : Json → List Char
  | .null => "null".toList
  | .bool true => "true".toList
  | .bool false => "false".toList
  | .int i => Text.writeInt i
  | .real literal => literal.toList
  | .str text => quotedText (text.getD "").toList
  | .arr [] => ['[', ']']
  | .arr (first :: others) =>
    '[' :: newLine (level + 1) ++ lines (level + 1) first ++ itemLines (level + 1) others ++
      newLine level ++ [']']
  | .obj [] => ['\x7b', '\x7d']
  | .obj ((key, first) :: others) =>
    '\x7b' :: newLine (level + 1) ++ quotedText (key.getD "").toList ++ [':', ' '] ++
      lines (level + 1) first ++ memberLines (level + 1) others ++ newLine level ++ ['\x7d']

/-- The items after the first. -/
def itemLines (level : Nat) : List Json → List Char
  | [] => []
  | item :: others => ',' :: newLine level ++ lines level item ++ itemLines level others

/-- The members after the first. -/
def memberLines (level : Nat) : List (Option String × Json) → List Char
  | [] => []
  | (key, item) :: others =>
    ',' :: newLine level ++ quotedText (key.getD "").toList ++ [':', ' '] ++ lines level item ++
      memberLines level others

end

/-- The text of a value. -/
def pretty (value : Json) : String := String.ofList (lines 0 value)

end NodeSelection.Json
