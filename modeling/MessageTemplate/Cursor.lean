import MessageTemplate.Numeral

/-! A position in a source that moves by steps. A negative position counts from the end of the
source, and moving on from there comes to its start. -/
namespace MessageTemplate

structure Cursor where
  source : Text
  pos : Int
  deriving DecidableEq

inductive CursorError
  | atEnd (pos : Int)
  | outOfRange
  | noIndex
  deriving DecidableEq

namespace CursorError

def message : CursorError → Except NumeralError Text
  | atEnd pos => (writeInt pos).map fun p => "Unexpected EOF at position ".toList ++ p
  | outOfRange => .ok "string index out of range".toList
  | noIndex => .ok "cannot fit 'int' into an index-sized integer".toList

end CursorError

namespace Cursor

def isAtEnd (c : Cursor) : Bool := c.source.length ≤ c.pos

/-- The source from an index on, where it is before the end. A negative index has the end of the
source in front of the whole source; below its start it is out of range, and below 64 bits it is no
index. -/
def textFrom (source : Text) (index : Int) : Except CursorError Text :=
  if 0 ≤ index then .ok (source.drop index.toNat)
  else if 0 ≤ source.length + index then
    .ok (source.drop (source.length + index).toNat ++ source)
  else if index < -9223372036854775808 then .error .noIndex
  else .error .outOfRange

def ahead (c : Cursor) : Except CursorError Text := textFrom c.source c.pos

def current (c : Cursor) : Except CursorError Char :=
  match c.ahead with
  | .error e => .error e
  | .ok [] => .error (.atEnd c.pos)
  | .ok (a :: _) => .ok a

/-- The code point at an offset from the cursor; `none` at the end of the source and beyond. -/
def peek (c : Cursor) (offset : Int) : Except CursorError (Option Char) :=
  (textFrom c.source (c.pos + offset)).map List.head?

/-- Move on, but not beyond the end of the source. -/
def advance (c : Cursor) (count : Int) : Cursor :=
  let target := c.pos + count
  ⟨c.source, if target < c.source.length then target else c.source.length⟩

def sliceTo (c : Cursor) (stop : Int) : Text := cut c.source c.pos stop

def skipWhile (p : Char → Bool) (c : Cursor) : Except CursorError Cursor :=
  if c.isAtEnd then .ok c
  else c.ahead.map fun t => c.advance (t.takeWhile p).length

def skipBlank (c : Cursor) : Except CursorError Cursor := c.skipWhile isBlank

/-- The length of a text as far as the first closing brace that makes the depth zero. A closing
brace may make the depth negative. -/
def lengthToDepthZero (depth : Int) : Text → Option Nat
  | [] => none
  | a :: t =>
      if a = openBrace then (lengthToDepthZero (depth + 1) t).map (· + 1)
      else if a = closeBrace then
        if depth = 1 then some 1 else (lengthToDepthZero (depth - 1) t).map (· + 1)
      else (lengthToDepthZero depth t).map (· + 1)

/-- Move past the end of the groups that are open at some depth; `none` if they are never closed. -/
def skipToDepthZero (depth : Int) (c : Cursor) : Except CursorError (Option Cursor) :=
  c.ahead.map fun t => (lengthToDepthZero depth t).map fun n => c.advance n

/-- Move past the group at the cursor; `none` if it is never closed. -/
def skipGroup (c : Cursor) : Except CursorError (Option Cursor) := c.skipToDepthZero 0

end Cursor

/-- What one round of a loop comes to: a state to go on from, or an answer. -/
inductive Round (σ ρ : Type)
  | next (state : σ)
  | done (answer : ρ)

/-- A loop that goes on while its cursor is not at the end. -/
structure ScanLoop (ε σ ρ : Type) where
  cursor : σ → Cursor
  round : σ → Except ε (Round σ ρ)
  atEnd : σ → ρ

namespace ScanLoop

/-- The loop goes round a number of times and ends with an answer. -/
inductive Ends {ε σ ρ : Type} (l : ScanLoop ε σ ρ) : σ → Nat → ρ → Prop
  | atEnd {s : σ} (hend : (l.cursor s).isAtEnd = true) : Ends l s 0 (l.atEnd s)
  | done {s : σ} {answer : ρ} (hend : (l.cursor s).isAtEnd = false)
      (hround : l.round s = .ok (.done answer)) : Ends l s 1 answer
  | next {s s' : σ} {n : Nat} {answer : ρ} (hend : (l.cursor s).isAtEnd = false)
      (hround : l.round s = .ok (.next s')) (hrest : Ends l s' n answer) : Ends l s (n + 1) answer

end ScanLoop

def whileLoop (p : Char → Bool) : ScanLoop CursorError Cursor Cursor where
  cursor c := c
  round c := c.current.map fun a => if p a then .next (c.advance 1) else .done c
  atEnd c := c

/-- Move past a group from a place in it, with the number of groups that are open there. -/
def groupLoop : ScanLoop CursorError (Cursor × Int) (Option Cursor) where
  cursor := Prod.fst
  round s := s.1.current.map fun a =>
    let c := s.1.advance 1
    if a = openBrace then .next (c, s.2 + 1)
    else if a = closeBrace then
      if s.2 = 1 then .done (some c) else .next (c, s.2 - 1)
    else .next (c, s.2)
  atEnd _ := none

end MessageTemplate
