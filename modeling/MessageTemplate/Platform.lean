import MessageTemplate.Formatting

/-! Formatting where there is not room for everything. How much room there is belongs to the
interpreter and not to the program, so it is a parameter of the run. -/
namespace MessageTemplate

/-- What an interpreter has room for: the values that it can write, the decimals of which it can
form the integer, the texts that it can hold. -/
structure Platform where
  writes : Value → Bool
  expands : Decimal → Bool
  holds : Text → Bool

inductive Stop
  | failure (e : Failure)
  | exhausted

namespace Value

mutual

def depth : Value → Nat
  | collection _ items => depths items + 1
  | map entries => entryDepths entries + 1
  | _ => 0

def depths : List Value → Nat
  | [] => 0
  | x :: xs => Nat.max x.depth (depths xs)

def entryDepths : List (Value × Value) → Nat
  | [] => 0
  | (k, x) :: es => Nat.max (Nat.max k.depth x.depth) (entryDepths es)

end

/-- There is no room for what a format type makes of a value. -/
def exceeds (i : Platform) (v : Value) : FormatType → Bool
  | .untyped => decide (v.kind ≠ .nonScalar) && !i.writes v
  | .number => !i.writes v
  | .unknown _ => !i.writes v
  | .plural =>
      match v with
      | decimal d => d.integer?.isSome && !i.expands d
      | _ => false

end Value

namespace Platform

def unlimited : Platform := ⟨fun _ => true, fun _ => true, fun _ => true⟩

/-- Room for a depth of composites, for decimals below a power of ten and for a length of texts. -/
def ofLimits (depth : Nat) (exponent : Int) (length : Nat) : Platform where
  writes v := v.depth ≤ depth
  expands
    | .finite _ coefficient e => coefficient = 0 ∨ e ≤ exponent
    | _ => true
  holds t := t.length ≤ length

end Platform

namespace Placeholder

def exceeds (i : Platform) (p : Placeholder) (ps : Parameters) : Bool :=
  decide (p.name ≠ []) && (ps p.name).any fun v => v.exceeds i p.formatType

end Placeholder

namespace Segment

def exceeds (i : Platform) (ps : Parameters) : Segment → Bool
  | text _ => false
  | placeholder content span => (Placeholder.read content (some span)).exceeds i ps

/-- Render segments in order, as far as the first that fails or for which there is no room. -/
def renderWithin (i : Platform) (ps : Parameters) : List Segment → Except Stop Text
  | [] => .ok []
  | s :: rest =>
      if s.exceeds i ps then .error .exhausted
      else
        match (s.render ps).outcome with
        | .error e => .error (.failure e)
        | .ok t => (renderWithin i ps rest).map (t ++ ·)

end Segment

def Platform.format (i : Platform) (template : Text) (ps : Parameters) : Except Stop Text :=
  match Segment.renderWithin i ps (segments template) with
  | .error stop => .error stop
  | .ok t => if i.holds t then .ok t else .error .exhausted

end MessageTemplate
