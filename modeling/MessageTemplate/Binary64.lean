import MessageTemplate.ShortestDigits

namespace MessageTemplate

/-- A finite float is `significand * 2 ^ scale`; exponent 0 has no hidden bit. -/
inductive Binary64
  | finite (negative : Bool) (exponent : Fin 2047) (fraction : Fin 4503599627370496)
  | infinite (negative : Bool)
  | nan
  deriving DecidableEq

namespace Binary64

/-- Sign, eleven exponent bits and fifty-two fraction bits. -/
def ofBits (bits : UInt64) : Binary64 :=
  let n := bits.toNat
  let negative := n / 9223372036854775808 == 1
  let exponent := n / 4503599627370496 % 2048
  let fraction := n % 4503599627370496
  if h : exponent < 2047 then
    finite negative ⟨exponent, h⟩ ⟨fraction, Nat.mod_lt _ (by decide)⟩
  else if fraction = 0 then infinite negative
  else nan

def significand (exponent : Fin 2047) (fraction : Fin 4503599627370496) : Nat :=
  if exponent.val = 0 then fraction.val else 4503599627370496 + fraction.val

def scale (exponent : Fin 2047) : Int :=
  if exponent.val = 0 then -1074 else exponent.val - 1075

def withSign (negative : Bool) (n : Nat) : Int := if negative then -(n : Int) else n

def integer? : Binary64 → Option Int
  | finite negative exponent fraction =>
      let m := significand exponent fraction
      let s := scale exponent
      if s < 0 then
        let d := Nat.pow 2 (-s).toNat
        if m % d = 0 then some (withSign negative (m / d)) else none
      else some (withSign negative (m * Nat.pow 2 s.toNat))
  | infinite _ => none
  | nan => none

/-- The numbers that round to a float, in quarters of its last place. Below a power of two the next
float is half as far; the ends round to the float when its significand is even. -/
def roundingInterval (exponent : Fin 2047) (fraction : Fin 4503599627370496) : RoundingInterval :=
  let m := significand exponent fraction
  let s := scale exponent - 2
  let up := Nat.pow 2 s.toNat
  let below := if fraction.val = 0 ∧ 1 < exponent.val then 1 else 2
  ⟨(4 * m - below) * up, 4 * m * up, (4 * m + 2) * up, Nat.pow 2 (-s).toNat, m % 2 == 0⟩

/-- Coefficient and power of ten of the shortest decimal that rounds to a float. The grids from
`10 ^ 309` to `10 ^ (-343)` hold seventeen digits of every float. -/
def shortest (exponent : Fin 2047) (fraction : Fin 4503599627370496) : Nat × Int :=
  if significand exponent fraction = 0 then (0, 0)
  else (roundingInterval exponent fraction).searchGrid (-343) 652

/-- Positional when the exponent of the first digit is -4 to 15, and then with at least one digit
after the point; else with an exponent of at least two digits. -/
def layout (coefficient : Nat) (power : Int) : Text :=
  let ds := digits coefficient
  let point := ds.length + power
  if -4 < point ∧ point ≤ 16 then
    withPoint ds point ++ (if ds.length ≤ point then ".0".toList else [])
  else scientific 'e' 2 ds (point - 1)

def toText : Binary64 → Text
  | finite negative exponent fraction =>
      let (coefficient, power) := shortest exponent fraction
      signed negative (layout coefficient power)
  | infinite negative => signed negative "inf".toList
  | nan => "nan".toList

end Binary64

end MessageTemplate
