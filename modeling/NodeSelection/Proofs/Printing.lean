import NodeSelection.Json.Printer
import NodeSelection.Json.Reader

/-!
Printed values are read back.

A value is read back from the lines that it is printed on, whatever stands behind them,
as long as no number can go on there. Only values without a broken string and without a
number that is kept as it was written are meant: records hold no others.

* `stringUnits_escaped`: a character is read as itself from the way it stands in a string.
* `number_writeInt`: a whole number is read back from its digits.
* `items_itemLines`, `members_memberLines`: what holds of values holds of lists of them.
* `Written.readsBack`: a value is read back from its lines, at any level of nesting.
* `read?_pretty`: so it is from its text, also with blanks behind it.
-/

namespace NodeSelection

namespace Text

/-- Only zero has a zero as its first decimal digit. -/
theorem toDigits_of_head_zero (n : Nat) (zero : (Nat.toDigits 10 n).head? = some '0') :
    Nat.toDigits 10 n = ['0'] := by
  induction n using Nat.strongRecOn with
  | ind n ih =>
    by_cases small : n < 10
    · rw [Nat.toDigits_of_lt_base small] at zero ⊢
      simpa using zero
    · rw [Nat.toDigits_of_base_le (by decide) (by omega)] at zero
      obtain ⟨c, rest, digits, -⟩ := toDigits_eq_cons (n / 10)
      have shorter : Nat.toDigits 10 (n / 10) = ['0'] := by
        refine ih (n / 10) (by omega) ?_
        rw [digits] at zero ⊢
        exact zero
      have value := readNat?_toDigits (n / 10)
      rw [shorter] at value
      have : n / 10 = 0 := (Option.some.inj value).symm
      omega

/-- A run of a class ends where a character outside of it stands. -/
theorem span_append_of {cls : Char → Bool} {run rest : List Char} (inside : ∀ c ∈ run, cls c = true)
    (outside : ∀ c ∈ rest.head?, cls c = false) : span cls (run ++ rest) = (run, rest) := by
  rw [span, List.takeWhile_append_of_pos inside, List.dropWhile_append_of_pos inside]
  cases rest with
  | nil => simp
  | cons c rest =>
    have := outside c rfl
    simp [this]

end Text

namespace Json

/-- A value whose strings have texts and whose numbers are whole: all that records hold. -/
inductive Written : Json → Prop where
  | null : Written .null
  | bool (b : Bool) : Written (.bool b)
  | int (i : Int) : Written (.int i)
  | str (s : String) : Written (.str (some s))
  | arr {items : List Json} (each : ∀ v ∈ items, Written v) : Written (.arr items)
  | obj {members : List (String × Json)} (each : ∀ m ∈ members, Written m.2) :
      Written (.record members)

/-- Behind the digits of a number, this text does not go on with it. -/
def Ends (rest : List Char) : Prop :=
  ∀ c ∈ rest.head?, c.isDigit = false ∧ c ≠ '.' ∧ c ≠ 'e' ∧ c ≠ 'E'

/-- The value is read back from its lines at any level, with any text behind them. -/
def ReadsBack (v : Json) : Prop :=
  ∀ level bound rest, (lines level v).length < bound → Ends rest →
    value bound (lines level v ++ rest) = some (v, rest)

/-! ### Blanks -/

theorem skipBlanks_append {gap : List Char} (blank : ∀ c ∈ gap, isBlank c = true)
    (text : List Char) : skipBlanks (gap ++ text) = skipBlanks text :=
  List.dropWhile_append_of_pos blank

theorem skipBlanks_cons {c : Char} (blank : isBlank c = false) (rest : List Char) :
    skipBlanks (c :: rest) = c :: rest := by
  rw [skipBlanks, List.dropWhile_cons_of_neg (by simp [blank])]

theorem isBlank_of_mem_newLine {level : Nat} : ∀ c ∈ newLine level, isBlank c = true := by
  intro c mem
  rcases List.mem_cons.mp mem with rfl | mem
  · rfl
  · rw [List.eq_of_mem_replicate mem]
    rfl

section Gap

variable {gap : List Char}

/-- Blanks in front of a value do not count. -/
theorem value_append (blank : ∀ c ∈ gap, isBlank c = true) (bound : Nat) (text : List Char) :
    value bound (gap ++ text) = value bound text := by
  cases bound with
  | zero => rfl
  | succ bound => rw [value, value, skipBlanks_append blank]

theorem items_append (blank : ∀ c ∈ gap, isBlank c = true) (bound : Nat) (text : List Char) :
    items bound (gap ++ text) = items bound text := by
  cases bound with
  | zero => rfl
  | succ bound => rw [items, items, value_append blank]

theorem members_append (blank : ∀ c ∈ gap, isBlank c = true) (bound : Nat) (text : List Char) :
    members bound (gap ++ text) = members bound text := by
  cases bound with
  | zero => rfl
  | succ bound => rw [members, members, skipBlanks_append blank]

end Gap

theorem ends_of_isBlank {rest : List Char} (blank : ∀ c ∈ rest.head?, isBlank c = true) :
    Ends rest := by
  intro c mem
  have := blank c mem
  simp only [isBlank, Bool.or_eq_true, beq_iff_eq] at this
  rcases this with ((rfl | rfl) | rfl) | rfl <;> decide

theorem ends_newLine (level : Nat) (rest : List Char) : Ends (newLine level ++ rest) := by
  refine ends_of_isBlank ?_
  rintro c ⟨⟩
  rfl

theorem ends_comma (rest : List Char) : Ends (',' :: rest) := by
  rintro c ⟨⟩
  decide

/-! ### Strings -/

/-- Puts a unit in front of what was read of a string. -/
def pushUnit (unit : Nat) : Option (List Nat × List Char) → Option (List Nat × List Char) :=
  Option.map fun (units, rest) => (unit :: units, rest)

theorem stringUnits_short {e c : Char} (short : shortEscape? e = some c) (text : List Char) :
    stringUnits ('\\' :: e :: text) = pushUnit c.toNat (stringUnits text) := by
  rw [stringUnits.eq_def]
  split
  case h_3 same =>
    cases same
    cases short
  case h_4 same =>
    cases same
    rw [short]
    cases stringUnits text <;> rfl
  case h_5 noEscape same =>
    cases same
    exact absurd rfl (noEscape e text rfl)
  all_goals simp_all

theorem hexUnit?_controlDigits : ∀ n < 0x20, hexUnit? ('0' :: '0' :: controlDigits n) = some n := by
  decide

theorem stringUnits_control {n : Nat} (control : n < 0x20) (text : List Char) :
    stringUnits ('\\' :: 'u' :: '0' :: '0' :: controlDigits n ++ text) =
      pushUnit n (stringUnits text) := by
  have unit := hexUnit?_controlDigits n control
  rw [controlDigits] at unit ⊢
  simp only [List.cons_append, List.nil_append, stringUnits, unit]
  cases stringUnits text <;> rfl

theorem stringUnits_plain {c : Char} (quote : c ≠ '"') (backslash : c ≠ '\\')
    (control : ¬ c.toNat < 0x20) (text : List Char) :
    stringUnits (c :: text) = pushUnit c.toNat (stringUnits text) := by
  rw [stringUnits.eq_def]
  split
  case h_5 same =>
    cases same
    rw [if_neg control]
    cases stringUnits text <;> rfl
  all_goals simp_all

/-- A character is read as itself from the way it stands in a string. -/
theorem stringUnits_escaped (c : Char) (text : List Char) :
    stringUnits (escaped c ++ text) = pushUnit c.toNat (stringUnits text) := by
  unfold escaped
  split
  case h_8 =>
    by_cases control : c.toNat < 0x20
    · rw [if_pos control]
      exact stringUnits_control control text
    · rw [if_neg control]
      exact stringUnits_plain (by assumption) (by assumption) control text
  all_goals exact stringUnits_short rfl text

theorem string_flatMap_escaped (text rest : List Char) :
    string (text.flatMap escaped ++ '"' :: rest) = some (some (String.ofList text), rest) := by
  have units : stringUnits (text.flatMap escaped ++ '"' :: rest) =
      some (text.map Char.toNat, rest) := by
    induction text with
    | nil => rfl
    | cons c text ih =>
      rw [List.flatMap_cons, List.append_assoc, stringUnits_escaped, ih]
      rfl
  rw [string, units]
  simp

theorem readsBack_str (s : String) : ReadsBack (.str (some s)) := by
  intro level bound rest enough _
  obtain ⟨bound, rfl⟩ := Nat.exists_eq_add_one_of_ne_zero (Nat.ne_zero_of_lt enough)
  rw [lines, Option.getD_some, quotedText, List.append_assoc, List.cons_append, value,
    skipBlanks_cons rfl]
  show (string (s.toList.flatMap escaped ++ '"' :: rest)).map _ = _
  rw [string_flatMap_escaped, String.ofList_toList]
  rfl

/-! ### Numbers -/

theorem fraction_of_ends {rest : List Char} (ends : Ends rest) :
    fraction rest = some ([], rest) := by
  unfold fraction
  split
  · exact absurd rfl (ends '.' rfl).2.1
  · rfl

theorem exponent_of_ends {rest : List Char} (ends : Ends rest) :
    exponent rest = some ([], rest) := by
  cases rest with
  | nil => rfl
  | cons c rest =>
    obtain ⟨-, -, lower, upper⟩ := ends c rfl
    have noMark : ¬ (c = 'e' ∨ c = 'E') := by simp [lower, upper]
    unfold exponent
    exact if_neg noMark

theorem ne_of_isDigit {c d : Char} (digit : c.isDigit = true) (other : d.isDigit = false) :
    c ≠ d := by
  rintro rfl
  rw [digit] at other
  cases other

theorem takeMark_writeInt (i : Int) (rest : List Char) :
    Text.takeMark '-' (Text.writeInt i ++ rest) =
      (decide (i < 0), Nat.toDigits 10 i.natAbs ++ rest) := by
  by_cases negative : i < 0
  · simp [Text.writeInt, negative]
  · obtain ⟨c, others, digits, digit⟩ := Text.toDigits_eq_cons i.natAbs
    rw [Text.writeInt, if_neg negative, digits, List.cons_append,
      Text.takeMark_of_ne (ne_of_isDigit digit rfl)]
    simp [negative]

/-- A whole number is read back from its digits. -/
theorem number_writeInt (i : Int) {rest : List Char} (ends : Ends rest) :
    number (Text.writeInt i ++ rest) = some (.int i, rest) := by
  have digits : Text.span Char.isDigit (Nat.toDigits 10 i.natAbs ++ rest) =
      (Nat.toDigits 10 i.natAbs, rest) :=
    Text.span_append_of
      (fun c mem => Nat.isDigit_of_mem_toDigits (by decide) (by decide) mem)
      (fun c mem => (ends c mem).1)
  have oneZero : ¬ ((Nat.toDigits 10 i.natAbs).head? = some '0' ∧
      Nat.toDigits 10 i.natAbs ≠ ['0']) :=
    fun ⟨zero, more⟩ => more (Text.toDigits_of_head_zero _ zero)
  -- Zero has no sign, so the reader never takes it for a number of another kind.
  have signed : ¬ (i < 0 ∧ i.natAbs = 0) := by omega
  have sign : (if i < 0 then -(i.natAbs : Int) else i.natAbs) = i := by omega
  simp only [number, takeMark_writeInt, digits, Text.readNat?_toDigits, Option.bind_eq_bind,
    Option.bind_some, if_neg oneZero, fraction_of_ends ends, exponent_of_ends ends,
    decide_eq_true_eq, signed, not_false_eq_true, and_self, if_true, sign]

theorem isBlank_of_isDigit {c : Char} (digit : c.isDigit = true) : isBlank c = false := by
  simp [isBlank, ne_of_isDigit digit]

theorem exists_writeInt_eq_cons (i : Int) :
    ∃ c rest, Text.writeInt i = c :: rest ∧ (c = '-' ∨ c.isDigit = true) := by
  by_cases negative : i < 0
  · exact ⟨'-', _, if_pos negative, .inl rfl⟩
  · obtain ⟨c, rest, digits, digit⟩ := Text.toDigits_eq_cons i.natAbs
    exact ⟨c, rest, (if_neg negative).trans digits, .inr digit⟩

theorem value_eq_number {c : Char} (begins : c = '-' ∨ c.isDigit = true) (bound : Nat)
    (rest : List Char) : value (bound + 1) (c :: rest) = number (c :: rest) := by
  have differs : ∀ d : Char, d ≠ '-' → d.isDigit = false → c ≠ d := by
    rintro d mark other rfl
    rcases begins with dash | digit
    · exact mark dash
    · exact ne_of_isDigit digit other rfl
  have atomic : atom (c :: rest) = number (c :: rest) := by
    simp [atom, keywords, Text.dropLead?, (differs 'n' (by decide) rfl).symm,
      (differs 't' (by decide) rfl).symm, (differs 'f' (by decide) rfl).symm]
  have blank : isBlank c = false := by
    rcases begins with rfl | digit
    · rfl
    · exact isBlank_of_isDigit digit
  rw [value, skipBlanks_cons blank]
  split
  · next same => exact absurd (List.cons.inj same).1 (differs '"' (by decide) rfl)
  · next same => exact absurd (List.cons.inj same).1 (differs '[' (by decide) rfl)
  · next same => exact absurd (List.cons.inj same).1 (differs '{' (by decide) rfl)
  · exact atomic

theorem readsBack_int (i : Int) : ReadsBack (.int i) := by
  intro level bound rest enough ends
  obtain ⟨bound, rfl⟩ := Nat.exists_eq_add_one_of_ne_zero (Nat.ne_zero_of_lt enough)
  obtain ⟨c, others, text, begins⟩ := exists_writeInt_eq_cons i
  rw [lines, text, List.cons_append, value_eq_number begins, ← List.cons_append, ← text,
    number_writeInt i ends]

/-! ### Items -/

theorem items_of_comma {bound : Nat} {text rest : List Char} {first : Json}
    (head : value bound text = some (first, ',' :: rest)) :
    items (bound + 1) text =
      (items bound rest).map fun (others, rest) => (first :: others, rest) := by
  rw [items, head]
  show ((items bound rest).bind _ = _)
  cases items bound rest <;> rfl

theorem items_of_close {bound : Nat} {text gap rest : List Char} {first : Json}
    (blank : ∀ c ∈ gap, isBlank c = true)
    (head : value bound text = some (first, gap ++ ']' :: rest)) :
    items (bound + 1) text = some ([first], rest) := by
  rw [items, head, Option.bind_eq_bind, Option.bind_some]
  dsimp only
  rw [skipBlanks_append blank]
  rfl

/-- The items of an array are read back from their lines. -/
theorem items_itemLines (level outer bound : Nat) {first : Json} {others : List Json}
    (back : ∀ v ∈ first :: others, ReadsBack v) (rest : List Char)
    (enough : (lines level first ++ itemLines level others).length + 1 < bound) :
    items bound (lines level first ++ (itemLines level others ++ (newLine outer ++ ']' :: rest))) =
      some (first :: others, rest) := by
  induction others generalizing first bound with
  | nil =>
    obtain ⟨bound, rfl⟩ := Nat.exists_eq_add_one_of_ne_zero (Nat.ne_zero_of_lt enough)
    rw [List.length_append] at enough
    have head := back first List.mem_cons_self level bound (newLine outer ++ ']' :: rest)
      (by omega) (ends_newLine _ _)
    exact items_of_close isBlank_of_mem_newLine head
  | cons v others ih =>
    obtain ⟨bound, rfl⟩ := Nat.exists_eq_add_one_of_ne_zero (Nat.ne_zero_of_lt enough)
    rw [itemLines] at enough ⊢
    simp only [List.length_append, List.length_cons, List.cons_append, List.append_assoc]
      at enough ⊢
    have head := back first List.mem_cons_self level bound (',' :: (newLine level ++
      (lines level v ++ (itemLines level others ++ (newLine outer ++ ']' :: rest)))))
      (by omega) (ends_comma _)
    have behind := ih bound (fun w mem => back w (List.mem_cons_of_mem _ mem))
      (by rw [List.length_append]; omega)
    rw [items_of_comma head, items_append isBlank_of_mem_newLine, behind]
    rfl

theorem value_bracket {bound : Nat} {text after : List Char} {list : List Json}
    (opened : ∀ rest, skipBlanks text ≠ ']' :: rest)
    (read : items bound (skipBlanks text) = some (list, after)) :
    value (bound + 1) ('[' :: text) = some (.arr list, after) := by
  rw [value, skipBlanks_cons rfl]
  split
  · next same => cases same
  · next same =>
    cases same
    split
    · next closed => exact absurd closed (opened _)
    · rw [read]
      rfl
  · next same => cases same
  · next notBracket _ => exact absurd rfl (notBracket _)

/-- The lines of a value begin with a character that is neither a blank nor a bracket
that closes an array. -/
theorem exists_lines_eq_cons {v : Json} (written : Written v) (level : Nat) :
    ∃ c rest, lines level v = c :: rest ∧ isBlank c = false ∧ c ≠ ']' := by
  cases written with
  | null => exact ⟨'n', _, rfl, rfl, by decide⟩
  | bool b => cases b <;> exact ⟨_, _, rfl, rfl, by decide⟩
  | int i =>
    obtain ⟨c, rest, begins, mark⟩ := exists_writeInt_eq_cons i
    refine ⟨c, rest, begins, ?_⟩
    rcases mark with rfl | digit
    · exact ⟨rfl, by decide⟩
    · exact ⟨isBlank_of_isDigit digit, ne_of_isDigit digit rfl⟩
  | str s => exact ⟨'"', _, rfl, rfl, by decide⟩
  | @arr items each => cases items <;> exact ⟨'[', _, rfl, rfl, by decide⟩
  | @obj members each => cases members <;> exact ⟨'{', _, rfl, rfl, by decide⟩

theorem readsBack_arr {items : List Json} (each : ∀ v ∈ items, Written v)
    (back : ∀ v ∈ items, ReadsBack v) : ReadsBack (.arr items) := by
  intro level bound rest enough _
  obtain ⟨bound, rfl⟩ := Nat.exists_eq_add_one_of_ne_zero (Nat.ne_zero_of_lt enough)
  cases items with
  | nil => rfl
  | cons first others =>
    rw [lines] at enough ⊢
    simp only [List.length_append, List.length_cons, List.append_assoc, List.cons_append,
      List.nil_append] at enough ⊢
    have read := items_itemLines (level + 1) level bound back rest
      (by rw [List.length_append]; omega)
    obtain ⟨c, chars, begins, blank, inner⟩ :=
      exists_lines_eq_cons (each first List.mem_cons_self) (level + 1)
    rw [begins, List.cons_append] at read ⊢
    have skipped : ∀ tail, skipBlanks (newLine (level + 1) ++ c :: tail) = c :: tail := by
      intro tail
      rw [skipBlanks_append isBlank_of_mem_newLine, skipBlanks_cons blank]
    refine value_bracket ?_ ?_
    · rw [skipped]
      exact fun rest same => inner (List.cons.inj same).1
    · rw [skipped]
      exact read

/-! ### Members -/

/-- A member as it stands on its line. -/
def memberLine (level : Nat) (m : String × Json) : List Char :=
  quotedText m.1.toList ++ ':' :: ' ' :: lines level m.2

/-- The members of a record. -/
def named (members : List (String × Json)) : List (Option String × Json) :=
  members.map fun m => (some m.1, m.2)

theorem length_lines_lt_memberLine (level : Nat) (m : String × Json) :
    (lines level m.2).length < (memberLine level m).length := by
  simp only [memberLine, List.length_append, List.length_cons]
  omega

/-- A member is read back from its line, and what stands behind it tells how to go on. -/
theorem members_memberLine {level bound : Nat} {m : String × Json} {tail : List Char}
    (back : ReadsBack m.2) (enough : (lines level m.2).length < bound) (ends : Ends tail) :
    members (bound + 1) (memberLine level m ++ tail) =
      match skipBlanks tail with
      | ',' :: rest => (members bound rest).map fun (others, rest) =>
        ((some m.1, m.2) :: others, rest)
      | '}' :: rest => some ([(some m.1, m.2)], rest)
      | _ => none := by
  have key : string (m.1.toList.flatMap escaped ++ '"' :: ':' :: ' ' :: (lines level m.2 ++ tail)) =
      some (some m.1, ':' :: ' ' :: (lines level m.2 ++ tail)) := by
    rw [string_flatMap_escaped, String.ofList_toList]
  have space : ∀ c ∈ [' '], isBlank c = true := by simp [isBlank]
  have behind : value bound (' ' :: (lines level m.2 ++ tail)) = some (m.2, tail) :=
    (value_append space bound _).trans (back level bound tail enough ends)
  have text : memberLine level m ++ tail =
      '"' :: (m.1.toList.flatMap escaped ++ '"' :: ':' :: ' ' :: (lines level m.2 ++ tail)) := by
    simp [memberLine, quotedText]
  rw [text, members, skipBlanks_cons rfl]
  show (string _).bind _ = _
  rw [key, Option.bind_some]
  show (value bound _).bind _ = _
  rw [behind, Option.bind_some]
  show (match skipBlanks tail with | ',' :: rest => _ | '}' :: rest => _ | _ => _) = _
  split
  · cases members bound _ <;> rfl
  · rfl
  · rfl

/-- The members of a record are read back from their lines. -/
theorem members_memberLines (level outer bound : Nat) {first : String × Json}
    {others : List (String × Json)} (back : ∀ m ∈ first :: others, ReadsBack m.2)
    (rest : List Char)
    (enough : (memberLine level first ++ memberLines level (named others)).length < bound) :
    members bound (memberLine level first ++
        (memberLines level (named others) ++ (newLine outer ++ '}' :: rest))) =
      some (named (first :: others), rest) := by
  induction others generalizing first bound with
  | nil =>
    obtain ⟨bound, rfl⟩ := Nat.exists_eq_add_one_of_ne_zero (Nat.ne_zero_of_lt enough)
    rw [List.length_append] at enough
    have shorter := length_lines_lt_memberLine level first
    show members (bound + 1) (memberLine level first ++ (newLine outer ++ '}' :: rest)) = _
    rw [members_memberLine (back first List.mem_cons_self) (by omega) (ends_newLine outer _),
      skipBlanks_append isBlank_of_mem_newLine]
    rfl
  | cons m others ih =>
    obtain ⟨bound, rfl⟩ := Nat.exists_eq_add_one_of_ne_zero (Nat.ne_zero_of_lt enough)
    have line : memberLines level (named (m :: others)) =
        ',' :: (newLine level ++ (memberLine level m ++ memberLines level (named others))) := by
      simp [named, memberLines, memberLine]
    rw [line] at enough ⊢
    simp only [List.length_append, List.length_cons, List.cons_append, List.append_assoc]
      at enough ⊢
    have shorter := length_lines_lt_memberLine level first
    have behind := ih bound (fun w mem => back w (List.mem_cons_of_mem _ mem))
      (by rw [List.length_append]; omega)
    rw [members_memberLine (back first List.mem_cons_self) (by omega) (ends_comma _)]
    show (members bound (newLine level ++ _)).map _ = _
    rw [members_append isBlank_of_mem_newLine, behind]
    rfl

theorem value_brace {bound : Nat} {text after : List Char} {list : List (Option String × Json)}
    (opened : ∀ rest, skipBlanks text ≠ '}' :: rest)
    (read : members bound (skipBlanks text) = some (list, after)) :
    value (bound + 1) ('{' :: text) = some (.obj list, after) := by
  rw [value, skipBlanks_cons rfl]
  split
  · next same => cases same
  · next same => cases same
  · next same =>
    cases same
    split
    · next closed => exact absurd closed (opened _)
    · rw [read]
      rfl
  · next notBrace => exact absurd rfl (notBrace _)

theorem readsBack_record {members : List (String × Json)} (back : ∀ m ∈ members, ReadsBack m.2) :
    ReadsBack (.record members) := by
  intro level bound rest enough _
  obtain ⟨bound, rfl⟩ := Nat.exists_eq_add_one_of_ne_zero (Nat.ne_zero_of_lt enough)
  cases members with
  | nil => rfl
  | cons first others =>
    have text : lines level (.record (first :: others)) =
        '{' :: (newLine (level + 1) ++ (memberLine (level + 1) first ++
          (memberLines (level + 1) (named others) ++ (newLine level ++ ['}'])))) := by
      simp [record, named, lines, memberLine]
    rw [text] at enough ⊢
    simp only [List.length_append, List.length_cons, List.append_assoc, List.cons_append,
      List.nil_append] at enough ⊢
    have read := members_memberLines (level + 1) level bound back rest
      (by rw [List.length_append]; omega)
    have skipped : ∀ tail,
        skipBlanks (newLine (level + 1) ++ (memberLine (level + 1) first ++ tail)) =
          memberLine (level + 1) first ++ tail := by
      intro tail
      rw [skipBlanks_append isBlank_of_mem_newLine]
      rfl
    refine value_brace ?_ ?_
    · rw [skipped]
      exact fun rest same => absurd (List.cons.inj same).1 (by decide)
    · rw [skipped]
      exact read

/-! ### Values -/

/-- A value is read back from its lines. -/
theorem Written.readsBack {v : Json} (written : Written v) : ReadsBack v := by
  induction written with
  | null =>
    rintro level (_ | bound) rest enough -
    · cases enough
    · rfl
  | bool b =>
    rintro level (_ | bound) rest enough -
    · cases enough
    · cases b <;> rfl
  | int i => exact readsBack_int i
  | str s => exact readsBack_str s
  | arr each ih => exact readsBack_arr each ih
  | obj each ih => exact readsBack_record ih

/-- A value is read back from its text, also with blanks behind it. -/
theorem read?_pretty {v : Json} (written : Written v) {gap : String}
    (blank : ∀ c ∈ gap.toList, isBlank c = true) : read? (v.pretty ++ gap) = some v := by
  have chars : (v.pretty ++ gap).toList = lines 0 v ++ gap.toList := by
    simp [pretty]
  have enough : (lines 0 v).length < 2 * (v.pretty ++ gap).length + 2 := by
    rw [← String.length_toList, chars, List.length_append]
    omega
  have ends : Ends gap.toList := ends_of_isBlank fun c mem => blank c (List.mem_of_mem_head? mem)
  have rest : skipBlanks gap.toList = [] := by
    rw [← List.append_nil gap.toList, skipBlanks_append blank]
    rfl
  rw [read?, chars, written.readsBack 0 _ _ enough ends]
  exact if_pos rest

end Json

end NodeSelection
