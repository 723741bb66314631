import MessageTemplate.Numeral

/-! The shortest decimal in an interval around a value. The coarsest decimal grid with a point in
the interval is taken, and of its points the nearest to the value. -/
namespace MessageTemplate

/-- The numbers that a value stands for, as multiples of `1 / unit`. -/
structure RoundingInterval where
  low : Nat
  value : Nat
  high : Nat
  unit : Nat
  closed : Bool

namespace RoundingInterval

/-- The interval with all numbers multiplied by the power of ten that makes the grid of `exponent`
the integers. -/
def rescale (exponent : Int) (v : RoundingInterval) : RoundingInterval :=
  let up := Nat.pow 10 (-exponent).toNat
  ⟨v.low * up, v.value * up, v.high * up, v.unit * Nat.pow 10 exponent.toNat, v.closed⟩

def contains (v : RoundingInterval) (n : Nat) : Bool :=
  let x := n * v.unit
  if v.closed then decide (v.low ≤ x) && decide (x ≤ v.high)
  else decide (v.low < x) && decide (x < v.high)

/-- Of the two integers around the value, one in the interval: the nearer if both are, and the even
one if they are equally near. -/
def nearestInteger? (v : RoundingInterval) : Option Nat :=
  let below := v.value / v.unit
  let above := below + 1
  match v.contains below, v.contains above with
  | false, false => none
  | true, false => some below
  | false, true => some above
  | true, true =>
      let fromBelow := v.value - below * v.unit
      let toAbove := above * v.unit - v.value
      if fromBelow < toAbove then some below
      else if toAbove < fromBelow then some above
      else if below % 2 = 0 then some below else some above

/-- Search `steps` grids from coarse to fine, down to the one above `finest`; when none has a point
in the interval, cut the value to the grid of `finest`. -/
def searchGrid (finest : Int) (v : RoundingInterval) : Nat → Nat × Int
  | 0 => ((v.rescale finest).value / (v.rescale finest).unit, finest)
  | steps + 1 =>
      match (v.rescale (finest + (steps + 1 : Nat))).nearestInteger? with
      | some coefficient => (coefficient, finest + (steps + 1 : Nat))
      | none => searchGrid finest v steps

end RoundingInterval

end MessageTemplate
