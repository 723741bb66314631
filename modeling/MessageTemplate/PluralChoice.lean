import MessageTemplate.FormatError
import MessageTemplate.PluralTable

namespace MessageTemplate

/-- The categories that a plural body must declare, and the only ones that are chosen. -/
inductive PluralCategory
  | one
  | other
  deriving DecidableEq

namespace PluralCategory

def all : List PluralCategory := [one, other]

def key : PluralCategory → Text
  | one => "one".toList
  | other => "other".toList

/-- Exactly 1 is singular. -/
def ofInt (n : Int) : PluralCategory := if n = 1 then one else other

end PluralCategory

structure PluralChoices where
  one : Text
  other : Text
  deriving DecidableEq

namespace PluralChoices

def text (c : PluralChoices) : PluralCategory → Text
  | .one => c.one
  | .other => c.other

end PluralChoices

namespace PluralTable

def missingKeys (t : PluralTable) : List Text :=
  (PluralCategory.all.map PluralCategory.key).filter fun k => (t.find? k).isNone

def choices (t : PluralTable) (name : Option Text) (span : Option Span) :
    Except FormatError PluralChoices :=
  match t.find? PluralCategory.one.key, t.find? PluralCategory.other.key with
  | some one, some other => .ok ⟨one, other⟩
  | _, _ => .error (.ofMissingKeys t.missingKeys name span)

theorem missingKeys_eq_nil_iff (t : PluralTable) :
    t.missingKeys = [] ↔ ∀ c : PluralCategory, (t.find? c.key).isSome = true := by
  have h : (∀ c : PluralCategory, (t.find? c.key).isSome = true) ↔
      (t.find? PluralCategory.one.key).isSome = true ∧
        (t.find? PluralCategory.other.key).isSome = true :=
    ⟨fun h => ⟨h .one, h .other⟩, fun h c => by cases c <;> simp [h]⟩
  rw [h]
  simp [missingKeys, PluralCategory.all, Option.isSome_iff_ne_none]

end PluralTable

namespace Value

/-- The integer that a value denotes exactly. Booleans and all that is no number or numeral have
none; a numeral may be too long to be read. -/
def operand? : Value → Option (Except NumeralError Int)
  | integer n => some (.ok n)
  | float x => x.integer?.map .ok
  | decimal d => d.integer?.map .ok
  | text t => readInt? t
  | _ => none

def operand (v : Value) (name : Option Text) (span : Option Span) : Except Failure Int :=
  match v.operand? with
  | some (.ok n) => .ok n
  | some (.error e) => .error (.numeral e)
  | none => .error (.rejected (.ofPluralValue v name span))

end Value

def choosePlural (v : Value) (table : PluralTable) (name : Option Text) (span : Option Span) :
    Except Failure Text := do
  let n ← v.operand name span
  let choices ← (table.choices name span).mapError .rejected
  return choices.text (.ofInt n)

end MessageTemplate
