import NodeSelection.Json.Basic
import NodeSelection.Text.Lead
import NodeSelection.Text.Numeral

/-!
Reading a JSON text, strictly: nothing but blanks may stand around the value, no
comma may trail, and control characters in a string must be escaped.

The readers take a text and give what they read with the rest of the text. Those
for nested values count down a bound on the nesting that the length of the text
provides, so `Json.read?` itself shows no bound.

* `joinUnits_map_toNat`: characters that are written as they are stay so.
-/

namespace NodeSelection.Json

/-- Drops the blanks at the front. -/
def skipBlanks (text : List Char) : List Char := text.dropWhile isBlank

/-! ### Strings -/

/-- The number of a four-digit hexadecimal escape. -/
def hexUnit? (digits : List Char) : Option Nat := Text.readNat? 16 digits

/-- The character of an escape of two characters. -/
def shortEscape? : Char → Option Char
  | '"' => some '"'
  | '\\' => some '\\'
  | '/' => some '/'
  | 'b' => some '\x08'
  | 'f' => some '\x0c'
  | 'n' => some '\n'
  | 'r' => some '\r'
  | 't' => some '\t'
  | _ => none

/-- The string after its opening quote, as a list of code points and of surrogate
units, which only escapes bring in. -/
def stringUnits : List Char → Option (List Nat × List Char)
  | [] => none
  | '"' :: rest => some ([], rest)
  | '\\' :: 'u' :: a :: b :: c :: d :: rest => do
    let unit ← hexUnit? [a, b, c, d]
    let (units, rest) ← stringUnits rest
    return (unit :: units, rest)
  | '\\' :: e :: rest => do
    let c ← shortEscape? e
    let (units, rest) ← stringUnits rest
    return (c.toNat :: units, rest)
  | c :: rest =>
    if c.toNat < 0x20 then none
    else do
      let (units, rest) ← stringUnits rest
      return (c.toNat :: units, rest)

/-- The unit is the first of a surrogate pair. -/
def isHighUnit (unit : Nat) : Bool := 0xD800 ≤ unit && unit < 0xDC00

/-- The unit is the second of a surrogate pair. -/
def isLowUnit (unit : Nat) : Bool := 0xDC00 ≤ unit && unit < 0xE000

/-- The text of code points and surrogate units; none if half of a pair is alone. -/
def joinUnits : List Nat → Option (List Char)
  | [] => some []
  | high :: low :: rest =>
    if isHighUnit high && isLowUnit low then
      (joinUnits rest).map (Char.ofNat (0x10000 + (high - 0xD800) * 0x400 + (low - 0xDC00)) :: ·)
    else if isHighUnit high || isLowUnit high then none
    else (joinUnits (low :: rest)).map (Char.ofNat high :: ·)
  | [unit] => if isHighUnit unit || isLowUnit unit then none else some [Char.ofNat unit]

/-- A string after its opening quote. -/
def string (text : List Char) : Option (Option String × List Char) :=
  (stringUnits text).map fun (units, rest) => ((joinUnits units).map String.ofList, rest)

/-! ### Numbers -/

/-- A fraction: a point and at least one digit. Without a point there is none. -/
def fraction : List Char → Option (List Char × List Char)
  | '.' :: rest =>
    let (digits, rest) := Text.span Char.isDigit rest
    if digits = [] then none else some ('.' :: digits, rest)
  | text => some ([], text)

/-- An exponent: `e`, perhaps a sign, and at least one digit. Without an `e` there is none. -/
def exponent (text : List Char) : Option (List Char × List Char) :=
  match text with
  | [] => some ([], text)
  | e :: rest =>
    if e = 'e' ∨ e = 'E' then
      let (sign, rest) := match rest with
        | '+' :: rest => (['+'], rest)
        | '-' :: rest => (['-'], rest)
        | rest => ([], rest)
      let (digits, rest) := Text.span Char.isDigit rest
      if digits = [] then none else some (e :: sign ++ digits, rest)
    else some ([], text)

/-- A number. The part before the fraction has no leading zero. -/
def number (text : List Char) : Option (Json × List Char) := do
  let (negative, unsigned) := Text.takeMark '-' text
  let (whole, rest) := Text.span Char.isDigit unsigned
  let value ← Text.readNat? 10 whole
  if whole.head? = some '0' ∧ whole ≠ ['0'] then none
  else
    let (fraction, rest) ← fraction rest
    let (exponent, rest) ← exponent rest
    let sign := if negative then ['-'] else []
    if fraction = [] ∧ exponent = [] ∧ ¬ (negative ∧ value = 0) then
      some (.int (if negative then -(value : Int) else value), rest)
    else some (.real (String.ofList (sign ++ whole ++ fraction ++ exponent)), rest)

/-! ### Values -/

/-- The words that stand for values. -/
def keywords : List (String × Json) :=
  [("null", .null), ("true", .bool true), ("false", .bool false)]

/-- A value that is a word or a number. -/
def atom (text : List Char) : Option (Json × List Char) :=
  match keywords.findSome? fun (word, value) =>
      (Text.dropLead? word.toList text).map (value, ·) with
  | some found => some found
  | none => number text

mutual

/-- A value, with blanks in front. -/
def value : Nat → List Char → Option (Json × List Char)
  | 0, _ => none
  | bound + 1, text =>
    match skipBlanks text with
    | '"' :: rest => (string rest).map fun (text, rest) => (.str text, rest)
    | '[' :: rest =>
      match skipBlanks rest with
      | ']' :: rest => some (.arr [], rest)
      | rest => (items bound rest).map fun (items, rest) => (.arr items, rest)
    | '{' :: rest =>
      match skipBlanks rest with
      | '}' :: rest => some (.obj [], rest)
      | rest => (members bound rest).map fun (members, rest) => (.obj members, rest)
    | rest => atom rest

/-- The items of an array, of which there is at least one, and the closing bracket. -/
def items : Nat → List Char → Option (List Json × List Char)
  | 0, _ => none
  | bound + 1, text => do
    let (first, rest) ← value bound text
    match skipBlanks rest with
    | ',' :: rest =>
      let (others, rest) ← items bound rest
      return (first :: others, rest)
    | ']' :: rest => return ([first], rest)
    | _ => none

/-- The members of an object, of which there is at least one, and the closing brace. -/
def members : Nat → List Char → Option (List (Option String × Json) × List Char)
  | 0, _ => none
  | bound + 1, text =>
    match skipBlanks text with
    | '"' :: rest => do
      let (key, rest) ← string rest
      match skipBlanks rest with
      | ':' :: rest =>
        let (first, rest) ← value bound rest
        match skipBlanks rest with
        | ',' :: rest =>
          let (others, rest) ← members bound rest
          return ((key, first) :: others, rest)
        | '}' :: rest => return ([(key, first)], rest)
        | _ => none
      | _ => none
    | _ => none

end

/-- The value that a text holds. -/
def read? (text : String) : Option Json :=
  match value (2 * text.length + 2) text.toList with
  | some (v, rest) => if skipBlanks rest = [] then some v else none
  | none => none

/-! ### Strings without escapes -/

theorem not_isHighUnit_toNat (c : Char) : isHighUnit c.toNat = false := by
  have := c.valid
  simp only [isHighUnit, Bool.and_eq_false_iff, decide_eq_false_iff_not]
  simp only [UInt32.isValidChar, Nat.isValidChar] at this
  have : c.toNat = c.val.toNat := rfl
  omega

theorem not_isLowUnit_toNat (c : Char) : isLowUnit c.toNat = false := by
  have := c.valid
  simp only [isLowUnit, Bool.and_eq_false_iff, decide_eq_false_iff_not]
  simp only [UInt32.isValidChar, Nat.isValidChar] at this
  have : c.toNat = c.val.toNat := rfl
  omega

/-- Characters that are written as they are stay so. -/
@[simp] theorem joinUnits_map_toNat (text : List Char) :
    joinUnits (text.map Char.toNat) = some text := by
  induction text with
  | nil => rfl
  | cons c rest ih =>
    cases rest with
    | nil => simp [joinUnits, not_isHighUnit_toNat, not_isLowUnit_toNat]
    | cons d rest =>
      simp only [List.map_cons] at ih ⊢
      simp [joinUnits, not_isHighUnit_toNat, not_isLowUnit_toNat, ih]

end NodeSelection.Json
