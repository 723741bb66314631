import MessageTemplate.Value

/-! Maps of values. Equal keys are one key, and numbers of different types may be equal: a finite
number that is an integer times powers of two and of five has one normal form. -/
namespace MessageTemplate

structure ExactNumber where
  negative : Bool
  magnitude : Nat
  twos : Int
  fives : Int
  deriving DecidableEq

namespace ExactNumber

/-- Divide by `p` as often as it goes, at most `limit` times, and count. -/
def divideOut (p : Nat) : Nat → Nat → Nat × Nat
  | 0, n => (n, 0)
  | limit + 1, n =>
      if n % p = 0 then
        let (m, count) := divideOut p limit (n / p)
        (m, count + 1)
      else (n, 0)

/-- The form whose magnitude is odd and no multiple of five; zero has one form. -/
def normalize (x : ExactNumber) : ExactNumber :=
  if x.magnitude = 0 then ⟨false, 0, 0, 0⟩
  else
    let limit := Nat.log2 x.magnitude + 1
    let (m, a) := divideOut 2 limit x.magnitude
    let (m, b) := divideOut 5 limit m
    ⟨x.negative, m, x.twos + a, x.fives + b⟩

def ofInt (n : Int) : ExactNumber := normalize ⟨decide (n < 0), n.natAbs, 0, 0⟩

end ExactNumber

/-- A number on the extended line, in the form in which equal numbers are equal. -/
inductive LinePoint
  | finite (x : ExactNumber)
  | infinite (negative : Bool)
  deriving DecidableEq

namespace Binary64

def linePoint? : Binary64 → Option LinePoint
  | finite negative exponent fraction =>
      some (.finite (ExactNumber.normalize
        ⟨negative, significand exponent fraction, scale exponent, 0⟩))
  | infinite negative => some (.infinite negative)
  | nan => none

end Binary64

namespace Decimal

def linePoint? : Decimal → Option LinePoint
  | finite negative coefficient exponent =>
      some (.finite (ExactNumber.normalize ⟨negative, coefficient, exponent, exponent⟩))
  | infinite negative => some (.infinite negative)
  | nan _ _ _ => none

end Decimal

namespace Value

/-- Booleans count as 0 and 1. -/
def linePoint? : Value → Option LinePoint
  | boolean b => some (.finite (.ofInt (if b then 1 else 0)))
  | integer n => some (.finite (.ofInt n))
  | float x => x.linePoint?
  | decimal d => d.linePoint?
  | null => none
  | text _ => none
  | collection _ _ => none
  | map _ => none
  | bytes _ => none
  | foreign => none

mutual

/-- Equality of map keys. Numbers are compared by value; what is no number, a foreign value or a
composite that can change equals nothing. -/
def sameKey : Value → Value → Bool
  | null, null => true
  | text s, text t => s == t
  | bytes s, bytes t => s == t
  | collection .tuple xs, collection .tuple ys => sameKeys xs ys
  | collection .frozenset xs, collection .frozenset ys => sameKeys xs ys
  | x, y =>
      match x.linePoint?, y.linePoint? with
      | some p, some q => decide (p = q)
      | _, _ => false

def sameKeys : List Value → List Value → Bool
  | [], [] => true
  | x :: xs, y :: ys => sameKey x y && sameKeys xs ys
  | _, _ => false

end

def setEntry (key value : Value) : List (Value × Value) → List (Value × Value)
  | [] => [(key, value)]
  | e :: es => if sameKey e.1 key then (e.1, value) :: es else e :: setEntry key value es

/-- The map with the given entries, set in order. -/
def mapOf (entries : List (Value × Value)) : Value :=
  map (entries.foldl (fun es e => setEntry e.1 e.2 es) [])

end Value

end MessageTemplate
