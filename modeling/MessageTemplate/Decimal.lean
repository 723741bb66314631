import MessageTemplate.Numeral

namespace MessageTemplate

/-- A finite decimal is `coefficient * 10 ^ exponent`; equal numbers may differ in both. -/
inductive Decimal
  | finite (negative : Bool) (coefficient : Nat) (exponent : Int)
  | infinite (negative : Bool)
  | nan (negative signaling : Bool) (payload : Nat)
  deriving DecidableEq

namespace Decimal

/-- Positional unless the exponent is positive or the number is below `10 ^ (-6)`. -/
def layout (coefficient : Nat) (exponent : Int) : Text :=
  let ds := digits coefficient
  let point := ds.length + exponent
  if exponent ≤ 0 ∧ -6 < point then withPoint ds point
  else scientific 'E' 1 ds (point - 1)

def toText : Decimal → Text
  | finite negative coefficient exponent => signed negative (layout coefficient exponent)
  | infinite negative => signed negative "Infinity".toList
  | nan negative signaling payload =>
      signed negative ((if signaling then "sNaN".toList else "NaN".toList) ++
        (if payload = 0 then [] else digits payload))

/-- Divide by ten a number of times, as long as that is exact. -/
def dropZeros : Nat → Nat → Option Nat
  | 0, n => some n
  | count + 1, n =>
      if n = 0 then some 0 else if n % 10 = 0 then dropZeros count (n / 10) else none

theorem dropZeros_eq_some_iff {count n m : Nat} :
    dropZeros count n = some m ↔ n = m * Nat.pow 10 count := by
  induction count generalizing n with
  | zero => simp [dropZeros]
  | succ count ih =>
    have hpos : 0 < Nat.pow 10 count := Nat.pow_pos (by decide)
    have hpow : m * Nat.pow 10 (count + 1) = m * Nat.pow 10 count * 10 :=
      (Nat.mul_assoc m (Nat.pow 10 count) 10).symm
    rw [dropZeros, hpow]
    by_cases zero : n = 0
    · have hm : 0 = m * Nat.pow 10 count * 10 ↔ 0 = m := by
        rw [eq_comm, Nat.mul_eq_zero, Nat.mul_eq_zero]
        omega
      rw [if_pos zero, zero, Option.some_inj, hm]
    · rw [if_neg zero]
      by_cases exact : n % 10 = 0
      · rw [if_pos exact, ih]
        omega
      · rw [if_neg exact]
        exact iff_of_false nofun (by omega)

/-- Multiply by ten a number of times. Zero stays zero, however often. -/
def appendZeros (count n : Nat) : Nat := if n = 0 then 0 else n * Nat.pow 10 count

theorem appendZeros_eq (count n : Nat) : appendZeros count n = n * Nat.pow 10 count := by
  unfold appendZeros
  split
  · rename_i h; simp [h]
  · rfl

def integer? : Decimal → Option Int
  | finite negative coefficient exponent =>
      let magnitude? :=
        if exponent < 0 then dropZeros (-exponent).toNat coefficient
        else some (appendZeros exponent.toNat coefficient)
      magnitude?.map fun n => if negative then -(n : Int) else n
  | infinite _ => none
  | nan _ _ _ => none

/-- An exponent mark, an optional sign and digits; the empty text is exponent 0. -/
def readExponent? : Text → Option Int
  | [] => some 0
  | c :: t =>
      let (negative, ds) := splitSign t
      if c.toLower = 'e' ∧ isDigits ds then
        some (if negative then -(digitsValue ds : Int) else digitsValue ds)
      else none

def readFinite? (negative : Bool) (t : Text) : Option Decimal :=
  let whole := t.takeWhile Char.isDigit
  let rest := t.dropWhile Char.isDigit
  let pointed := rest.head? = some '.'
  let fraction := if pointed then rest.tail.takeWhile Char.isDigit else []
  let rest := if pointed then rest.tail.dropWhile Char.isDigit else rest
  if whole ++ fraction = [] then none
  else (readExponent? rest).map fun e =>
    finite negative (digitsValue (whole ++ fraction)) (e - fraction.length)

/-- A word for a number that is not finite, in any case. -/
def readSpecial? (negative : Bool) (t : Text) : Option Decimal :=
  let word := t.map Char.toLower
  let payload? (signaling : Bool) (ds : Text) : Option Decimal :=
    if ds.all Char.isDigit then some (nan negative signaling (digitsValue ds)) else none
  if word = "inf".toList ∨ word = "infinity".toList then some (infinite negative)
  else if "nan".toList.isPrefixOf word then payload? false (word.drop 3)
  else if "snan".toList.isPrefixOf word then payload? true (word.drop 4)
  else none

/-- Read a sign, digits with at most one point, and an exponent; or the word for infinity or for
no number. -/
def read? (t : Text) : Option Decimal :=
  let (negative, t) := splitSign t
  match readSpecial? negative t with
  | some d => some d
  | none => readFinite? negative t

end Decimal

end MessageTemplate
