import NodeSelection.Text.Hidden

/-!
Quoted text for the log: between double quotes, on one line, with every hidden
character spelt out.

Quotes, backslashes and the four common controls have short escapes; another
hidden character is written as `\u` with its code point in lower-case
hexadecimal between braces.
-/

namespace NodeSelection.Text

/-- The spelling of a hidden character by its code point. -/
def spelled (c : Char) : List Char :=
  ['\\', 'u', '\x7b'] ++ Nat.toDigits 16 c.toNat ++ ['\x7d']

/-- A character as it stands between the quotes. -/
def quotedChar : Char → List Char
  | '"' => ['\\', '"']
  | '\\' => ['\\', '\\']
  | '\n' => ['\\', 'n']
  | '\r' => ['\\', 'r']
  | '\t' => ['\\', 't']
  | '\x00' => ['\\', '0']
  | c => if isHidden c then spelled c else [c]

/-- A text between quotes, with the characters that would not show spelt out. -/
def quoted (text : String) : String :=
  String.ofList ('"' :: text.toList.flatMap quotedChar ++ ['"'])

end NodeSelection.Text
