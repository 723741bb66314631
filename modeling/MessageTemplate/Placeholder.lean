import MessageTemplate.Segment

namespace MessageTemplate

/-- The brace depth after one more code point; a closing brace at depth 0 leaves it there. -/
def nesting (depth : Nat) (c : Char) : Nat :=
  if c = openBrace then depth + 1 else if c = closeBrace then depth - 1 else depth

@[simp] theorem nesting_separator (depth : Nat) : nesting depth separator = depth := rfl

/-- The first argument and the others, reading from a brace depth on. -/
def splitFrom : Nat → Text → Text × List Text
  | _, [] => ([], [])
  | depth, c :: t =>
      let (first, others) := splitFrom (nesting depth c) t
      if c = separator ∧ depth = 0 then ([], first :: others) else (c :: first, others)

/-- The arguments of a placeholder, untrimmed: only commas at brace depth 0 split. -/
def splitArguments (content : Text) : List Text :=
  let (first, others) := splitFrom 0 content
  first :: others

def joinArguments (args : List Text) : Text := [separator].intercalate args

theorem joinArguments_singleton (arg : Text) : joinArguments [arg] = arg :=
  List.intercalate_singleton

theorem joinArguments_cons (arg : Text) {others : List Text} (h : others ≠ []) :
    joinArguments (arg :: others) = arg ++ separator :: joinArguments others := by
  rw [joinArguments, List.intercalate_cons_of_ne_nil h, List.append_assoc]
  rfl

theorem joinArguments_splitFrom (depth : Nat) (t : Text) :
    joinArguments ((splitFrom depth t).1 :: (splitFrom depth t).2) = t := by
  induction t generalizing depth with
  | nil => rfl
  | cons c t ih =>
    simp only [splitFrom]
    split
    · rename_i h
      rw [joinArguments_cons _ (List.cons_ne_nil _ _), ih, h.1]
      rfl
    · rw [joinArguments, List.intercalate_cons_cons_left, ← joinArguments, ih]

theorem joinArguments_splitArguments (content : Text) :
    joinArguments (splitArguments content) = content :=
  joinArguments_splitFrom 0 content

inductive FormatType
  | untyped
  | number
  | plural
  | unknown (name : Text)
  deriving DecidableEq

namespace FormatType

def numberName : Text := "number".toList
def pluralName : Text := "plural".toList

/-- An absent and an empty name mean the same. -/
def ofName : Option Text → FormatType
  | none => untyped
  | some name =>
      if name = [] then untyped
      else if name = numberName then number
      else if name = pluralName then plural
      else unknown name

theorem ofName_eq_plural_iff (name : Option Text) :
    ofName name = plural ↔ name = some pluralName := by
  cases name with
  | none => simp [ofName]
  | some name =>
    simp only [ofName, Option.some.injEq]
    constructor
    · intro h
      split at h
      · cases h
      · split at h
        · cases h
        · split at h
          · assumption
          · cases h
    · rintro rfl; decide

end FormatType

/-- Name and format type are trimmed, the body is not. -/
structure Placeholder where
  name : Text
  formatName : Option Text := none
  body : Option Text := none
  source : Text := []
  span : Option Span := none
  deriving DecidableEq

namespace Placeholder

/-- Read the content of a placeholder. What follows the second comma is the body. -/
def read (content : Text) (span : Option Span) : Placeholder :=
  let (name, others) := splitFrom 0 content
  { name := trim name
    formatName := others.head?.map trim
    body := if others.length ≤ 1 then none else some (joinArguments others.tail)
    source := braced content
    span := span }

def formatType (p : Placeholder) : FormatType := .ofName p.formatName

end Placeholder

namespace Segment

def placeholder? : Segment → Option Placeholder
  | text _ => none
  | placeholder content span => some (.read content (some span))

end Segment

def placeholders (template : Text) : List Placeholder :=
  (segments template).filterMap Segment.placeholder?

end MessageTemplate
