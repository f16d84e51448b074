import NodeSelection.Text.Fields
import NodeSelection.Text.Numeral
import NodeSelection.Toml.Basic

/-!
TOML scalars without quotes: booleans, numbers, dates and times.

Such a scalar is a run of letters, digits and the marks `_ + - . :`; only a date
may be followed by one space and a time.
-/

namespace NodeSelection.Toml

/-! ### Digits -/

/-- The digits of a run in which single underscores may stand between digits. -/
def digitRun? (base : Nat) (text : List Char) : Option (List Char) :=
  let groups := Text.fields (· == '_') text
  if groups.all fun g => g ≠ [] && g.all (Text.isDigitOf base) then some groups.flatten else none

/-- The decimal digits of a whole number, without a leading zero. -/
def wholeDigits? (text : List Char) : Option (List Char) :=
  (digitRun? 10 text).bind fun digits =>
    if digits.head? = some '0' ∧ text ≠ ['0'] then none else some digits

/-- Takes one sign of either kind off the front: whether it is `-`, and the rest. -/
def takeSign : List Char → Bool × List Char
  | '-' :: rest => (true, rest)
  | '+' :: rest => (false, rest)
  | rest => (false, rest)

/-! ### Integers -/

/-- A number in a base other than ten, which has no sign. -/
def basedInt? : List Char → Option Int64
  | '0' :: 'x' :: rest => ofDigits? 16 rest
  | '0' :: 'o' :: rest => ofDigits? 8 rest
  | '0' :: 'b' :: rest => ofDigits? 2 rest
  | _ => none
where
  ofDigits? (base : Nat) (text : List Char) : Option Int64 := do
    let digits ← digitRun? base text
    let n ← Text.readNat? base digits
    Text.int64? n

/-- A decimal number. -/
def decimalInt? (text : List Char) : Option Int64 := do
  let (negative, unsigned) := takeSign text
  let digits ← wholeDigits? unsigned
  let n ← Text.readNat? 10 digits
  Text.int64? (if negative then -(n : Int) else n)

/-! ### Floats -/

/-- A float as it is written: `digits * 10 ^ exponent`, with a sign in front. -/
structure Decimal where
  negative : Bool
  digits : Nat
  exponent : Int

/-- An exponent after its `e`: perhaps a sign, and digits. -/
def exponent? (text : List Char) : Option Int := do
  let (negative, unsigned) := takeSign text
  let n ← Text.readNat? 10 (← digitRun? 10 unsigned)
  return if negative then -(n : Int) else n

/-- The exponent that a run after the digits stands for; it begins with an `e` of
either case. -/
def exponentPart? : List Char → Option Int
  | [] => none
  | e :: rest => if e = 'e' ∨ e = 'E' then exponent? rest else none

/-- A whole number with a fraction, an exponent or both. -/
def decimal? (text : List Char) : Option Decimal := do
  let (negative, unsigned) := takeSign text
  let (whole, rest) := Text.span (fun c => c.isDigit || c == '_') unsigned
  let whole ← wholeDigits? whole
  match rest with
  | '.' :: rest =>
    let (fraction, rest) := Text.span (fun c => c.isDigit || c == '_') rest
    let fraction ← digitRun? 10 fraction
    let exponent ← if rest = [] then some 0 else exponentPart? rest
    let digits ← Text.readNat? 10 (whole ++ fraction)
    return ⟨negative, digits, exponent - fraction.length⟩
  | rest =>
    let exponent ← exponentPart? rest
    let digits ← Text.readNat? 10 whole
    return ⟨negative, digits, exponent⟩

/-- The first number that rounds to infinity: halfway from the largest double of 64 bits
to the power of two above it. -/
def firstInfinite : Nat := Nat.pow 2 1024 - Nat.pow 2 970

/-- The number without its sign rounds to infinity. Exponents that decide this alone are
not computed with. -/
def Decimal.isInfinite (d : Decimal) : Bool :=
  if d.digits = 0 then false
  else if 0 ≤ d.exponent then
    309 ≤ d.exponent || firstInfinite ≤ d.digits * Nat.pow 10 d.exponent.toNat
  else
    let places := d.exponent.natAbs
    places < (Nat.toDigits 10 d.digits).length && firstInfinite * Nat.pow 10 places ≤ d.digits

/-- A float that is written with digits. Above zero it must be in range; below zero any
will do. -/
def isFloat (text : List Char) : Bool :=
  (decimal? text).any fun d => d.negative || !d.isInfinite

/-- Infinity, or what is no number, perhaps with a sign. -/
def isSpecialFloat (text : List Char) : Bool :=
  let word := (takeSign text).2
  word == "inf".toList || word == "nan".toList

/-! ### Dates and times -/

/-- A number of exactly so many digits, between two bounds. -/
def isPadded (width low high : Nat) (text : List Char) : Bool :=
  text.length == width && (Text.readNat? 10 text).any fun n => low ≤ n && n ≤ high

/-- The days of a month. -/
def daysIn (year month : Nat) : Nat :=
  if month = 2 then
    if year % 4 = 0 ∧ (year % 100 ≠ 0 ∨ year % 400 = 0) then 29 else 28
  else if month ∈ [4, 6, 9, 11] then 30 else 31

/-- Year, month and day of the calendar. -/
def isDate (text : List Char) : Bool :=
  match Text.fields (· == '-') text with
  | [year, month, day] =>
    isPadded 4 0 9999 year && isPadded 2 1 12 month &&
      isPadded 2 1
        (daysIn ((Text.readNat? 10 year).getD 0) ((Text.readNat? 10 month).getD 0)) day
  | _ => false

/-- Hours, minutes and seconds, perhaps with a fraction of a second. -/
def isTime (text : List Char) : Bool :=
  let (clock, fraction) := Text.span (· != '.') text
  let fractionFits :=
    match fraction with
    | [] => true
    | _ :: digits => digits ≠ [] && digits.all Char.isDigit
  fractionFits &&
    match Text.fields (· == ':') clock with
    | [hours, minutes, seconds] =>
      isPadded 2 0 23 hours && isPadded 2 0 59 minutes && isPadded 2 0 60 seconds
    | _ => false

/-- Hours and minutes off the universal time. -/
def isOffset : List Char → Bool
  | [] => true
  | ['Z'] => true
  | ['z'] => true
  | sign :: clock =>
    (sign == '+' || sign == '-') &&
      match Text.fields (· == ':') clock with
      | [hours, minutes] => isPadded 2 0 23 hours && isPadded 2 0 59 minutes
      | _ => false

/-- A time with an offset. -/
def isOffsetTime (text : List Char) : Bool :=
  let (clock, offset) := Text.span (fun c => c.isDigit || c == ':' || c == '.') text
  isTime clock && isOffset offset

/-- A date, a time, or a date with a time after a `T` or a space. -/
def isMoment (text : List Char) : Bool :=
  isDate text || isTime text ||
    (isDate (text.take 10) &&
      match text.drop 10 with
      | delimiter :: clock =>
        (delimiter == 'T' || delimiter == 't' || delimiter == ' ') && isOffsetTime clock
      | [] => false)

/-! ### Scalars -/

/-- A character of a scalar without quotes. -/
def isScalarChar (c : Char) : Bool := isBare c || c == '+' || c == '.' || c == ':'

/-- The scalar that a whole run of characters stands for. -/
def scalarOf? (text : List Char) : Option Toml :=
  if text = "true".toList then some (.bool true)
  else if text = "false".toList then some (.bool false)
  else match (basedInt? text).or (decimalInt? text) with
    | some n => some (.int n)
    | none =>
      if isFloat text || isSpecialFloat text then some (.float (String.ofList text))
      else if isMoment text then some (.moment (String.ofList text))
      else none

/-- A scalar without quotes at the front of a text. -/
def scalar (text : List Char) : Option (Toml × List Char) :=
  let (word, rest) := Text.span isScalarChar text
  match rest with
  | ' ' :: after =>
    let (clock, later) := Text.span isScalarChar after
    if isDate word && isOffsetTime clock then
      some (.moment (String.ofList (word ++ ' ' :: clock)), later)
    else (scalarOf? word).map (·, rest)
  | _ => (scalarOf? word).map (·, rest)

end NodeSelection.Toml
