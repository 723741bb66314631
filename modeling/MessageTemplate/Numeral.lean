import MessageTemplate.Text

/-! Decimal numerals of integers. Reading and writing refuse numerals beyond a digit limit. -/
namespace MessageTemplate

def digits (n : Nat) : Text := Nat.toDigits 10 n

/-- The number that a text of ASCII digits denotes; leading zeros do not matter. -/
def digitsValue (t : Text) : Nat := Nat.ofDigitChars 10 t 0

theorem digitsValue_digits (n : Nat) : digitsValue (digits n) = n :=
  Nat.ofDigitChars_toDigits (by decide) (by decide)

theorem digits_ne_nil (n : Nat) : digits n ≠ [] :=
  List.length_pos_iff.mp Nat.length_toDigits_pos

theorem isDigit_of_mem_digits {n : Nat} {c : Char} (h : c ∈ digits n) : c.isDigit = true :=
  Nat.isDigit_of_mem_toDigits (by decide) (by decide) h

/-- The last `width` hexadecimal digits of a number, in lower case. -/
def hexDigits : Nat → Nat → Text
  | 0, _ => []
  | width + 1, n => hexDigits width (n / 16) ++ [Nat.digitChar (n % 16)]

/-- The longest numeral that is read or written. Signs do not count, leading zeros do. -/
def digitLimit : Nat := 4300

inductive NumeralError
  | tooLongToRead (length : Nat)
  | tooLongToWrite
  deriving DecidableEq

namespace NumeralError

/-- What was found, between the limit and the advice. -/
def finding : NumeralError → Text
  | tooLongToRead length => ": value has ".toList ++ digits length ++ " digits".toList
  | tooLongToWrite => []

def message (e : NumeralError) : Text :=
  "Exceeds the limit (".toList ++ digits digitLimit ++
    " digits) for integer string conversion".toList ++ e.finding ++
    "; use sys.set_int_max_str_digits() to increase the limit".toList

end NumeralError

def signed (negative : Bool) (t : Text) : Text := if negative then '-' :: t else t

def numeral (n : Int) : Text := signed (decide (n < 0)) (digits n.natAbs)

/-- Whether a number has at most `limit` digits; counts no further than that. -/
def fits : Nat → Nat → Bool
  | 0, _ => false
  | limit + 1, n => decide (n < 10) || fits limit (n / 10)

theorem fits_iff (limit n : Nat) : fits limit n = true ↔ (digits n).length ≤ limit := by
  induction limit generalizing n with
  | zero =>
    have := List.length_pos_iff.mpr (digits_ne_nil n)
    simp only [fits, Bool.false_eq_true, false_iff]
    omega
  | succ limit ih =>
    simp only [fits, Bool.or_eq_true, decide_eq_true_eq, ih]
    by_cases h : n < 10
    · simp [h, digits, Nat.toDigits_of_lt_base h]
    · have hd : digits n = digits (n / 10) ++ [(n % 10).digitChar] :=
        Nat.toDigits_of_base_le (by decide) (by omega)
      simp [h, hd]

def writeInt (n : Int) : Except NumeralError Text :=
  if fits digitLimit n.natAbs then .ok (numeral n) else .error .tooLongToWrite

def writeNat (n : Nat) : Except NumeralError Text := writeInt n

theorem writeInt_of_le {n : Int} (h : (digits n.natAbs).length ≤ digitLimit) :
    writeInt n = .ok (numeral n) := if_pos ((fits_iff _ _).mpr h)

theorem writeInt_eq_error_iff {n : Int} {e : NumeralError} :
    writeInt n = .error e ↔ digitLimit < (digits n.natAbs).length ∧ e = .tooLongToWrite := by
  have hf := fits_iff digitLimit n.natAbs
  unfold writeInt
  by_cases h : fits digitLimit n.natAbs = true
  · rw [if_pos h]
    exact iff_of_false nofun fun hlong => absurd (hf.mp h) (Nat.not_le_of_lt hlong.1)
  · rw [if_neg h, and_iff_right (Nat.lt_of_not_le (mt hf.mpr h)), Except.error.injEq]
    exact eq_comm

/-- Remove one leading sign; the flag tells whether it was a minus. -/
def splitSign : Text → Bool × Text
  | [] => (false, [])
  | c :: t => if c = '-' then (true, t) else if c = '+' then (false, t) else (false, c :: t)

/-- A non-empty run of ASCII digits. -/
def isDigits (t : Text) : Bool := !t.isEmpty && t.all Char.isDigit

/-- Read at most one sign and then digits; `none` for any other text. -/
def readInt? (t : Text) : Option (Except NumeralError Int) :=
  let (negative, ds) := splitSign t
  if isDigits ds then
    some <|
      if ds.length ≤ digitLimit then
        .ok (if negative then -(digitsValue ds : Int) else digitsValue ds)
      else .error (.tooLongToRead ds.length)
  else none

/-- Digits with the decimal point after the first `point` of them; zeros fill the gap. No point is
written after the last digit. -/
def withPoint (ds : Text) (point : Int) : Text :=
  if point ≤ 0 then '0' :: '.' :: List.replicate (-point).toNat '0' ++ ds
  else if point < ds.length then ds.take point.toNat ++ '.' :: ds.drop point.toNat
  else ds ++ List.replicate (point.toNat - ds.length) '0'

def exponentText (mark : Char) (width : Nat) (exponent : Int) : Text :=
  let ds := digits exponent.natAbs
  mark :: (if exponent < 0 then '-' else '+') :: List.replicate (width - ds.length) '0' ++ ds

def scientific (mark : Char) (width : Nat) (ds : Text) (exponent : Int) : Text :=
  withPoint ds 1 ++ exponentText mark width exponent

end MessageTemplate
