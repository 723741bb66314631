import MessageTemplate.Numeral

namespace MessageTemplate

/-- Offsets of the opening brace and of the end of the closing brace. -/
structure Span where
  start : Nat
  stop : Nat
  start_le_stop : start ≤ stop := by omega
  deriving DecidableEq

inductive SpanError
  | negativeStart (start : Int)
  | stopBeforeStart (start stop : Int)
  deriving DecidableEq

namespace SpanError

def message : SpanError → Except NumeralError Text
  | negativeStart start => do
      let s ← writeInt start
      return "SourceSpan.start must be >= 0, got ".toList ++ s
  | stopBeforeStart start stop => do
      let e ← writeInt stop
      let s ← writeInt start
      return "SourceSpan.end (".toList ++ e ++ ") must be >= start (".toList ++ s ++ ")".toList

end SpanError

namespace Span

/-- Check two bounds, the start first. -/
def ofBounds (start stop : Int) : Except SpanError Span :=
  if hs : start < 0 then .error (.negativeStart start)
  else if he : stop < start then .error (.stopBeforeStart start stop)
  else .ok ⟨start.toNat, stop.toNat, by omega⟩

theorem ofBounds_natCast (s : Span) : ofBounds s.start s.stop = .ok s := by
  have h := s.start_le_stop
  have h1 : ¬ (s.start : Int) < 0 := by omega
  have h2 : ¬ (s.stop : Int) < s.start := by omega
  simp [ofBounds, h1, h2]

/-- The same place in a template that has more text in front. -/
def shift (offset : Nat) (s : Span) : Span :=
  ⟨offset + s.start, offset + s.stop, Nat.add_le_add_left s.start_le_stop offset⟩

end Span

end MessageTemplate
