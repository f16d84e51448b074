/-!
Numerals: whole numbers written with digits, and the 64-bit signed range.

* `readNat?_toDigits`: a number is read back from its decimal digits.
* `readInt?_writeInt`: a signed number is read back from its decimal text.
* `int64?_toInt`: a 64-bit number is read back from its value.
-/

namespace NodeSelection.Text

/-- The value of a digit; letters of either case follow `9`. -/
def digitValue (c : Char) : Nat :=
  if 'a' ≤ c then c.toNat - 'a'.toNat + 10
  else if 'A' ≤ c then c.toNat - 'A'.toNat + 10
  else c.toNat - '0'.toNat

/-- The character is a digit of the base, which is at most sixteen. -/
def isDigitOf (base : Nat) (c : Char) : Bool :=
  (c.isDigit || ('a' ≤ c && c ≤ 'f') || ('A' ≤ c && c ≤ 'F')) && digitValue c < base

/-- The number that a run of digits stands for; leading zeros may stand. -/
def readNat? (base : Nat) (digits : List Char) : Option Nat :=
  if digits ≠ [] ∧ digits.all (isDigitOf base) then
    some (digits.foldl (fun n c => base * n + digitValue c) 0)
  else none

/-- A decimal number with an optional sign of either kind. -/
def readInt? : List Char → Option Int
  | '-' :: digits => (readNat? 10 digits).map fun n : Nat => -(n : Int)
  | '+' :: digits => (readNat? 10 digits).map fun n : Nat => (n : Int)
  | digits => (readNat? 10 digits).map fun n : Nat => (n : Int)

/-- The decimal text of a number: the digits, with `-` before those of a negative one. -/
def writeInt (i : Int) : List Char :=
  if i < 0 then '-' :: Nat.toDigits 10 i.natAbs else Nat.toDigits 10 i.natAbs

/-- The number as a 64-bit signed word, if it is in range. -/
def int64? (i : Int) : Option Int64 :=
  if h : Int64.minValue.toInt ≤ i ∧ i ≤ Int64.maxValue.toInt then
    some (Int64.ofIntLE i h.1 h.2)
  else none

/-! ### Reading back -/

theorem digitValue_of_isDigit {c : Char} (h : c.isDigit) :
    digitValue c = c.toNat - '0'.toNat := by
  obtain ⟨_, high⟩ := Char.isDigit_iff_toNat.mp h
  have low : ∀ d : Char, '9'.toNat < d.toNat → ¬ d ≤ c := fun d hd le =>
    absurd (Nat.lt_of_lt_of_le hd (Char.le_def.mp le)) (Nat.not_lt.mpr high)
  simp [digitValue, low 'a' (by decide), low 'A' (by decide)]

theorem isDigitOf_of_isDigit {c : Char} (h : c.isDigit) : isDigitOf 10 c := by
  have := (Char.isDigit_iff_toNat.mp h).2
  simp only [isDigitOf, h, Bool.true_or, Bool.true_and, digitValue_of_isDigit h,
    decide_eq_true_eq]
  have : '9'.toNat = 57 := rfl
  have : '0'.toNat = 48 := rfl
  omega

theorem readNat?_of_isDigit {digits : List Char} (ne : digits ≠ [])
    (h : ∀ c ∈ digits, c.isDigit) : readNat? 10 digits = some (Nat.ofDigitChars 10 digits 0) := by
  have fold : ∀ start, digits.foldl (fun n c => 10 * n + digitValue c) start =
      Nat.ofDigitChars 10 digits start := by
    clear ne
    induction digits with
    | nil => simp
    | cons c rest ih =>
      intro start
      rw [List.foldl_cons, ih fun d hd => h d (by simp [hd]), Nat.ofDigitChars_cons,
        digitValue_of_isDigit (h c (by simp))]
  rw [readNat?, if_pos ⟨ne, List.all_eq_true.mpr fun c hc => isDigitOf_of_isDigit (h c hc)⟩, fold]

/-- A number is read back from its decimal digits. -/
@[simp] theorem readNat?_toDigits (n : Nat) : readNat? 10 (Nat.toDigits 10 n) = some n := by
  rw [readNat?_of_isDigit Nat.toDigits_ne_nil fun c hc =>
    Nat.isDigit_of_mem_toDigits (by decide) (by decide) hc, Nat.ofDigitChars_ten_toDigits]

/-- The first character of a number's decimal digits is a digit. -/
theorem toDigits_eq_cons (n : Nat) :
    ∃ c rest, Nat.toDigits 10 n = c :: rest ∧ c.isDigit := by
  obtain ⟨c, rest, h⟩ := List.exists_cons_of_ne_nil (Nat.toDigits_ne_nil (n := n) (b := 10))
  exact ⟨c, rest, h, Nat.isDigit_of_mem_toDigits (by decide) (by decide) (h ▸ List.mem_cons_self)⟩

/-- A signed number is read back from its decimal text. -/
@[simp] theorem readInt?_writeInt (i : Int) : readInt? (writeInt i) = some i := by
  by_cases neg : i < 0
  · simp only [writeInt, if_pos neg, readInt?, readNat?_toDigits, Option.map_some]
    congr 1
    omega
  · obtain ⟨c, rest, h, digit⟩ := toDigits_eq_cons i.natAbs
    have minus : c ≠ '-' := by rintro rfl; simp at digit
    have plus : c ≠ '+' := by rintro rfl; simp at digit
    rw [writeInt, if_neg neg]
    have read : readInt? (Nat.toDigits 10 i.natAbs) =
        (readNat? 10 (Nat.toDigits 10 i.natAbs)).map fun n : Nat => (n : Int) := by
      rw [h]
      unfold readInt?
      split <;> simp_all
    rw [read, readNat?_toDigits, Option.map_some]
    congr 1
    omega

/-- A 64-bit number is read back from its value. -/
@[simp] theorem int64?_toInt (n : Int64) : int64? n.toInt = some n := by
  rw [int64?, dif_pos ⟨n.minValue_le_toInt, n.toInt_le⟩, Int64.ofIntLE_toInt]

theorem int64?_eq_some_iff {i : Int} {n : Int64} : int64? i = some n ↔ n.toInt = i := by
  constructor
  · intro h
    rw [int64?] at h
    split at h
    · rw [← Option.some.inj h, Int64.toInt_ofIntLE]
    · cases h
  · rintro rfl
    exact int64?_toInt n

end NodeSelection.Text
