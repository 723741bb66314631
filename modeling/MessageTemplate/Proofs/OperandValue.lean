import Mathlib.Algebra.Order.Field.Power
import Mathlib.Algebra.Order.Ring.Rat
import Mathlib.Tactic.FieldSimp
import Mathlib.Tactic.Positivity
import Mathlib.Tactic.Ring
import MessageTemplate.Proofs.DigitLimit

/-! The operand of a plural placeholder against the number that a value is. `Value.operand_exact`
says that an integer is the operand exactly of the values equal to it. -/
namespace MessageTemplate

/-- A power is what its positive part gives over what its negative part gives. -/
theorem pow_toNat_eq {b : Nat} (hb : 0 < b) (e : Int) :
    (b : ℚ) ^ e.toNat = (b : ℚ) ^ e * (b : ℚ) ^ (-e).toNat := by
  have hb' : (b : ℚ) ≠ 0 := by exact_mod_cast hb.ne'
  rw [← zpow_natCast, ← zpow_natCast, ← zpow_add₀ hb']
  congr 1
  omega

/-- A number with an exponent is equal to a natural number where it is after the powers are moved to
the sides on which they are natural numbers. -/
theorem mul_zpow_eq_natCast_iff {b : Nat} (hb : 0 < b) (m : Nat) (e : Int) (k : Nat) :
    (m : ℚ) * (b : ℚ) ^ e = k ↔ m * b ^ e.toNat = k * b ^ (-e).toNat := by
  have hpos : (b : ℚ) ^ (-e).toNat ≠ 0 := pow_ne_zero _ (by exact_mod_cast hb.ne')
  have hcast : m * b ^ e.toNat = k * b ^ (-e).toNat ↔
      (m : ℚ) * (b : ℚ) ^ e.toNat = k * (b : ℚ) ^ (-e).toNat := by
    exact_mod_cast Iff.rfl
  rw [hcast, pow_toNat_eq hb, ← mul_assoc]
  exact (mul_left_inj' hpos).symm

def signedRat (negative : Bool) (x : ℚ) : ℚ := if negative then -x else x

theorem signedRat_eq_intCast_iff {negative : Bool} {x : ℚ} (hx : 0 ≤ x) {n : Int} :
    signedRat negative x = n ↔ ∃ k : Nat, x = k ∧ n = Binary64.withSign negative k := by
  have hmagnitude : ∀ z : Int, x = z → ∃ k : Nat, x = k ∧ z = k := by
    intro z hz
    have hz0 : 0 ≤ z := by
      rw [hz] at hx
      exact_mod_cast hx
    obtain ⟨k, rfl⟩ := Int.eq_ofNat_of_zero_le hz0
    exact ⟨k, hz, rfl⟩
  cases negative with
  | false =>
    constructor
    · intro h
      obtain ⟨k, hk, hn⟩ := hmagnitude n h
      exact ⟨k, hk, hn⟩
    · rintro ⟨k, hk, rfl⟩
      exact hk
  | true =>
    constructor
    · intro h
      have hneg : x = ((-n : Int) : ℚ) := by
        rw [Int.cast_neg, ← h]
        exact (neg_neg x).symm
      obtain ⟨k, hk, hn⟩ := hmagnitude (-n) hneg
      refine ⟨k, hk, ?_⟩
      change n = -(k : Int)
      omega
    · rintro ⟨k, hk, rfl⟩
      change -x = ((-(k : Int) : Int) : ℚ)
      rw [hk, Int.cast_neg, Int.cast_natCast]

namespace Binary64

/-- A finite float without its sign: with a hidden bit, or below the least float that has one. -/
def magnitude (exponent : Fin 2047) (fraction : Fin 4503599627370496) : ℚ :=
  if exponent.val = 0 then (fraction.val : ℚ) / 2 ^ 52 * 2 ^ (-1022 : Int)
  else (1 + (fraction.val : ℚ) / 2 ^ 52) * 2 ^ ((exponent.val : Int) - 1023)

def value? : Binary64 → Option ℚ
  | finite negative exponent fraction => some (signedRat negative (magnitude exponent fraction))
  | infinite _ => none
  | nan => none

theorem magnitude_eq (exponent : Fin 2047) (fraction : Fin 4503599627370496) :
    magnitude exponent fraction =
      significand exponent fraction * ((2 : Nat) : ℚ) ^ scale exponent := by
  have hplaces : ∀ e : Int, ((2 : Nat) : ℚ) ^ (e - 52) = 2 ^ e / 2 ^ 52 := by
    intro e
    exact_mod_cast zpow_sub₀ (two_ne_zero (α := ℚ)) e 52
  unfold magnitude significand scale
  split
  · have he : (-1074 : Int) = -1022 - 52 := rfl
    rw [he, hplaces]
    ring
  · have he : (exponent.val : Int) - 1075 = exponent.val - 1023 - 52 := by omega
    have hbit : ((4503599627370496 + fraction.val : Nat) : ℚ) = 2 ^ 52 + fraction.val := by
      norm_num
    rw [he, hplaces, hbit]
    field_simp

theorem integer?_finite_iff {negative : Bool} {exponent : Fin 2047}
    {fraction : Fin 4503599627370496} {n : Int} :
    (finite negative exponent fraction).integer? = some n ↔
      ∃ k : Nat, significand exponent fraction * 2 ^ (scale exponent).toNat =
        k * 2 ^ (-scale exponent).toNat ∧ n = withSign negative k := by
  generalize hm : significand exponent fraction = m
  generalize hs : scale exponent = s
  simp only [integer?, hm, hs]
  by_cases hneg : s < 0
  · have hpos : 0 < 2 ^ (-s).toNat := Nat.two_pow_pos _
    have hz : s.toNat = 0 := by omega
    rw [if_pos hneg, hz, Nat.pow_zero, Nat.mul_one]
    change (if m % 2 ^ (-s).toNat = 0 then some (withSign negative (m / 2 ^ (-s).toNat))
      else none) = some n ↔ _
    constructor
    · intro h
      split at h
      · rename_i hmod
        cases h
        exact ⟨_, (Nat.div_mul_cancel (Nat.dvd_of_mod_eq_zero hmod)).symm, rfl⟩
      · cases h
    · rintro ⟨k, rfl, rfl⟩
      rw [if_pos (Nat.mul_mod_left k _), Nat.mul_div_cancel k hpos]
  · have hz : (-s).toNat = 0 := by omega
    rw [if_neg hneg, hz, Nat.pow_zero]
    simp only [Nat.mul_one, Option.some.injEq]
    constructor
    · rintro rfl
      exact ⟨_, rfl, rfl⟩
    · rintro ⟨k, rfl, rfl⟩
      rfl

/-- A float is equal to the integer that is found for it. -/
theorem integer?_eq_some_iff {x : Binary64} {n : Int} :
    x.integer? = some n ↔ x.value? = some (n : ℚ) := by
  cases x with
  | infinite negative => exact iff_of_false nofun nofun
  | nan => exact iff_of_false nofun nofun
  | finite negative exponent fraction =>
    rw [integer?_finite_iff, value?, magnitude_eq, Option.some.injEq,
      signedRat_eq_intCast_iff (by positivity)]
    simp only [mul_zpow_eq_natCast_iff (show 0 < 2 by decide)]

end Binary64

namespace Decimal

def value? : Decimal → Option ℚ
  | finite negative coefficient exponent =>
      some (signedRat negative (coefficient * 10 ^ exponent))
  | infinite _ => none
  | nan _ _ _ => none

theorem integer?_finite_iff {negative : Bool} {coefficient : Nat} {exponent n : Int} :
    (finite negative coefficient exponent).integer? = some n ↔
      ∃ k : Nat, coefficient * 10 ^ exponent.toNat = k * 10 ^ (-exponent).toNat ∧
        n = Binary64.withSign negative k := by
  have hform : (finite negative coefficient exponent).integer? =
      (if exponent < 0 then dropZeros (-exponent).toNat coefficient
        else some (appendZeros exponent.toNat coefficient)).map (Binary64.withSign negative) := by
    simp only [integer?]
    generalize (if exponent < 0 then dropZeros (-exponent).toNat coefficient
      else some (appendZeros exponent.toNat coefficient)) = magnitude?
    cases magnitude? <;> rfl
  rw [hform, Option.map_eq_some_iff]
  refine exists_congr fun k => ?_
  by_cases hneg : exponent < 0
  · have hz : exponent.toNat = 0 := by omega
    rw [if_pos hneg, dropZeros_eq_some_iff, hz, Nat.pow_zero, Nat.mul_one]
    exact and_congr Iff.rfl eq_comm
  · have hz : (-exponent).toNat = 0 := by omega
    rw [if_neg hneg, appendZeros_eq, hz, Nat.pow_zero, Nat.mul_one, Option.some.injEq]
    exact and_congr Iff.rfl eq_comm

/-- A decimal is equal to the integer that is found for it. -/
theorem integer?_eq_some_iff {d : Decimal} {n : Int} :
    d.integer? = some n ↔ d.value? = some (n : ℚ) := by
  cases d with
  | infinite negative => exact iff_of_false nofun nofun
  | nan negative signaling payload => exact iff_of_false nofun nofun
  | finite negative coefficient exponent =>
    have hten : (10 : ℚ) = ((10 : Nat) : ℚ) := by norm_num
    rw [integer?_finite_iff, value?, hten, Option.some.injEq,
      signedRat_eq_intCast_iff (by positivity)]
    simp only [mul_zpow_eq_natCast_iff (show 0 < 10 by decide)]

end Decimal

namespace Value

/-- The integer that a value is or writes out in ASCII digits, as many as are read. -/
inductive Denotes : Value → Int → Prop
  | integer (n : Int) : Denotes (integer n) n
  | float {x : Binary64} {n : Int} (h : x.value? = some (n : ℚ)) : Denotes (float x) n
  | decimal {d : Decimal} {n : Int} (h : d.value? = some (n : ℚ)) : Denotes (decimal d) n
  | text {sign ds : Text} (hs : sign ∈ signs) (hd : isDigits ds = true)
      (hl : ds.length ≤ digitLimit) :
      Denotes (text (sign ++ ds)) (if sign = ['-'] then -(digitsValue ds : Int) else digitsValue ds)

theorem operand?_eq_ok_iff {v : Value} {n : Int} : v.operand? = some (.ok n) ↔ v.Denotes n := by
  constructor
  · intro h
    cases v with
    | integer m =>
      cases h
      exact .integer n
    | float x =>
      obtain ⟨m, hm, hn⟩ := Option.map_eq_some_iff.mp h
      cases hn
      exact .float (Binary64.integer?_eq_some_iff.mp hm)
    | decimal d =>
      obtain ⟨m, hm, hn⟩ := Option.map_eq_some_iff.mp h
      cases hn
      exact .decimal (Decimal.integer?_eq_some_iff.mp hm)
    | text t =>
      change readInt? t = some (.ok n) at h
      obtain ⟨sign, ds, hs, hd, rfl⟩ := exists_numeral_of_readInt? h
      rw [readInt?_append hs hd] at h
      split at h
      · rename_i hl
        cases h
        exact .text hs hd hl
      · cases h
    | null => cases h
    | boolean b => cases h
    | collection kind items => cases h
    | map entries => cases h
    | bytes data => cases h
    | foreign => cases h
  · intro h
    cases h with
    | integer => rfl
    | float h => exact congrArg (Option.map Except.ok) (Binary64.integer?_eq_some_iff.mpr h)
    | decimal h => exact congrArg (Option.map Except.ok) (Decimal.integer?_eq_some_iff.mpr h)
    | text hs hd hl => exact (readInt?_append hs hd).trans (by rw [if_pos hl])

theorem operand?_eq_none_iff {v : Value} :
    v.operand? = none ↔ (∀ n, ¬ v.Denotes n) ∧ ¬ v.IsLongNumeral := by
  simp only [← operand?_eq_ok_iff, isLongNumeral_iff, not_exists]
  constructor
  · intro h
    simp [h]
  · rintro ⟨hok, herror⟩
    rcases hv : v.operand? with - | ⟨e | n⟩
    · rfl
    · exact absurd hv (herror e)
    · exact absurd hv (hok n)

end Value

/-- Only the operand of a value counts for the choice. -/
theorem choosePlural_congr {v w : Value} {n : Int} {name : Option Text} {span : Option Span}
    (hv : v.operand name span = .ok n) (hw : w.operand name span = .ok n) (table : PluralTable) :
    choosePlural v table name span = choosePlural w table name span := by
  unfold choosePlural
  rw [hv, hw]

open Value in
/-- An integer is the operand of the values that are equal to it or write it out. A numeral that is
too long fails as such, and every other value is rejected with itself and its type. So values that
denote the same integer choose the same category text. -/
theorem Value.operand_exact (v : Value) (name : Option Text) (span : Option Span) :
    (∀ n, v.operand name span = .ok n ↔ v.Denotes n) ∧
    (∀ e, v.operand name span = .error (.numeral e) ↔
      ∃ sign ds, sign ∈ signs ∧ isDigits ds = true ∧ v = text (sign ++ ds) ∧
        digitLimit < ds.length ∧ e = .tooLongToRead ds.length) ∧
    ((∃ r, v.operand name span = .error (.rejected r)) ↔
      (∀ n, ¬ v.Denotes n) ∧ ¬ v.IsLongNumeral) ∧
    (∀ r, v.operand name span = .error (.rejected r) →
      r.cause = .pluralValue v ∧ r.diagnostic?.bind Diagnostic.receivedType = some v.typeName) ∧
    ∀ w n table, v.Denotes n → w.Denotes n →
      choosePlural v table name span = choosePlural w table name span := by
  have hok : ∀ (x : Value) n, x.operand name span = .ok n ↔ x.Denotes n := by
    intro x n
    rw [operand_eq_ok_iff, operand?_eq_ok_iff]
  refine ⟨hok v, ?_, ?_, ?_, ?_⟩
  · intro e
    rw [operand_eq_numeral_iff, operand?_eq_error_iff]
  · simp only [operand_eq_rejected_iff, exists_and_left, exists_eq, and_true]
    exact operand?_eq_none_iff
  · intro r hr
    obtain ⟨-, rfl⟩ := operand_eq_rejected_iff.mp hr
    exact ⟨rfl, rfl⟩
  · intro w n table hv hw
    exact choosePlural_congr ((hok v n).mpr hv) ((hok w n).mpr hw) table

def tenTenths : Value := .decimal (.finite false 10 (-1))

def plusOne : Value := .text "+0001".toList

def signalingNaN : Value := .decimal (.nan false true 0)

def itemTable : PluralTable :=
  .ofList [("one".toList, "item".toList), ("other".toList, "items".toList)]

/-- Two spellings of one number, and a number that is none. -/
theorem Value.operand_exact_tenTenths :
    tenTenths.Denotes 1 ∧ plusOne.Denotes 1 ∧ tenTenths.operand none none = .ok 1 ∧
      choosePlural tenTenths itemTable none none = choosePlural plusOne itemTable none none ∧
      choosePlural plusOne itemTable none none = .ok "item".toList ∧
      signalingNaN.operand none none =
        .error (.rejected (.ofPluralValue signalingNaN none none)) ∧
      (FormatError.ofPluralValue signalingNaN none none).cause = .pluralValue signalingNaN ∧
      (FormatError.ofPluralValue signalingNaN none none).diagnostic?.bind Diagnostic.receivedType =
        some "Decimal".toList := by
  have hten : tenTenths.Denotes 1 := .decimal (Decimal.integer?_eq_some_iff.mp rfl)
  have hplus : plusOne.Denotes 1 := operand?_eq_ok_iff.mp rfl
  obtain ⟨hok, -, -, -, hsame⟩ := operand_exact tenTenths none none
  obtain ⟨-, -, -, hcarries, -⟩ := operand_exact signalingNaN none none
  exact ⟨hten, hplus, (hok 1).mpr hten, hsame plusOne 1 itemTable hten hplus, rfl, rfl,
    hcarries _ rfl⟩

end MessageTemplate
