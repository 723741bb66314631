import MessageTemplate.Cursor
import MessageTemplate.Braces
import MessageTemplate.PluralTable

namespace MessageTemplate

/-- A key consists of code points that are neither white space nor braces. -/
def isKeyChar (c : Char) : Bool := !(isBlank c || c == openBrace || c == closeBrace)

theorem isKeyChar_eq_true_iff {c : Char} :
    isKeyChar c = true ↔ isBlank c = false ∧ c ≠ openBrace ∧ c ≠ closeBrace := by
  simp [isKeyChar, and_assoc]

theorem bodyChar_cases (c : Char) :
    isBlank c = true ∨ c = closeBrace ∨ c = openBrace ∨ isKeyChar c = true := by
  rcases brace_cases c with rfl | rfl | ⟨ho, hc⟩
  · exact .inr (.inr (.inl rfl))
  · exact .inr (.inl rfl)
  · cases hb : isBlank c with
    | true => exact .inl rfl
    | false => exact .inr (.inr (.inr (isKeyChar_eq_true_iff.mpr ⟨hb, ho, hc⟩)))

/-- What a body is made of. Only entries count. -/
inductive Piece
  | blank (c : Char)
  | stray
  | keyless (content : Text)
  | word (key : Text)
  | entry (key content : Text)
  deriving DecidableEq

namespace Piece

def source : Piece → Text
  | blank c => [c]
  | stray => [closeBrace]
  | keyless content => braced content
  | word key => key
  | entry key content => key ++ braced content

def readGroup : Text → Option (Text × Text)
  | [] => none
  | c :: t => if c = openBrace then closeGroup 0 t else none

/-- The first piece of a text and the text after it; `none` at the end of the text and at a group
that is never closed. -/
def read : Text → Option (Piece × Text)
  | [] => none
  | c :: t =>
      if isBlank c then some (blank c, t)
      else if c = closeBrace then some (stray, t)
      else if c = openBrace then (closeGroup 0 t).map fun g => (keyless g.1, g.2)
      else
        let key := c :: t.takeWhile isKeyChar
        let rest := t.dropWhile isKeyChar
        if rest.head? = some openBrace then (readGroup rest).map fun g => (entry key g.1, g.2)
        else some (word key, rest)

section Read

variable {c : Char} {t : Text}

theorem read_blank (h : isBlank c = true) (t : Text) : read (c :: t) = some (blank c, t) := by
  rw [read, if_pos h]

theorem read_stray (t : Text) : read (closeBrace :: t) = some (stray, t) := by
  simp [read, isBlank_closeBrace]

theorem read_openBrace (t : Text) :
    read (openBrace :: t) = (closeGroup 0 t).map fun g => (keyless g.1, g.2) := by
  simp [read, isBlank_openBrace]

theorem read_key_of_group {u : Text} (h : isKeyChar c = true)
    (hu : t.dropWhile isKeyChar = openBrace :: u) :
    read (c :: t) =
      (closeGroup 0 u).map fun g => (entry (c :: t.takeWhile isKeyChar) g.1, g.2) := by
  obtain ⟨hblank, hopen, hclose⟩ := isKeyChar_eq_true_iff.mp h
  simp [read, hblank, hopen, hclose, hu, readGroup]

theorem read_key_of_word (h : isKeyChar c = true)
    (hu : (t.dropWhile isKeyChar).head? ≠ some openBrace) :
    read (c :: t) = some (word (c :: t.takeWhile isKeyChar), t.dropWhile isKeyChar) := by
  obtain ⟨hblank, hopen, hclose⟩ := isKeyChar_eq_true_iff.mp h
  simp [read, hblank, hopen, hclose, hu]

end Read

theorem length_lt_of_closeGroup {t : Text} {depth : Nat} {g : Text × Text}
    (h : closeGroup depth t = some g) : g.2.length < t.length := by
  have := closeGroup_length h
  omega

/-- Reading makes progress. -/
theorem length_lt_of_read {t rest : Text} {p : Piece} (h : read t = some (p, rest)) :
    rest.length < t.length := by
  cases t with
  | nil => cases h
  | cons c t =>
    have hdrop := (List.dropWhile_sublist isKeyChar (l := t)).length_le
    rw [List.length_cons]
    rcases bodyChar_cases c with blank | rfl | rfl | key
    · rw [read_blank blank] at h
      cases h
      exact Nat.lt_succ_self _
    · rw [read_stray] at h
      cases h
      exact Nat.lt_succ_self _
    · rw [read_openBrace] at h
      obtain ⟨g, hg, he⟩ := Option.map_eq_some_iff.mp h
      cases he
      have := length_lt_of_closeGroup hg
      omega
    · by_cases hgroup : (t.dropWhile isKeyChar).head? = some openBrace
      · obtain ⟨u, hu⟩ := List.head?_eq_some_iff.mp hgroup
        rw [read_key_of_group key hu] at h
        obtain ⟨g, hg, he⟩ := Option.map_eq_some_iff.mp h
        cases he
        have := length_lt_of_closeGroup hg
        rw [hu, List.length_cons] at hdrop
        omega
      · rw [read_key_of_word key hgroup] at h
        cases h
        omega

end Piece

/-- The pieces of a body, as far as its first group that is never closed. -/
def pieces (body : Text) : List Piece :=
  match _h : Piece.read body with
  | none => []
  | some (p, rest) => p :: pieces rest
termination_by body.length
decreasing_by exact Piece.length_lt_of_read (by assumption)

theorem pieces_of_read_eq_none {body : Text} (h : Piece.read body = none) : pieces body = [] := by
  rw [pieces]
  split
  · rfl
  · simp_all

theorem pieces_of_read_eq_some {body rest : Text} {p : Piece}
    (h : Piece.read body = some (p, rest)) : pieces body = p :: pieces rest := by
  rw [pieces]
  split <;> simp_all

namespace Piece

def addTo (t : PluralTable) : Piece → PluralTable
  | entry key content => t.insert key content
  | _ => t

end Piece

namespace PluralTable

def ofPieces (ps : List Piece) : PluralTable := ps.foldl Piece.addTo empty

/-- The table that a body declares; an absent body declares nothing. -/
def ofBody (body : Option Text) : PluralTable := ofPieces (pieces (body.getD []))

end PluralTable

abbrev BodyScan := Cursor × PluralTable

/-- The end of a round that has come to a key: the key is read, and the group behind it, if there is
one. -/
def keyRound (start : Cursor) (table : PluralTable) :
    Except CursorError (Round BodyScan PluralTable) := do
  let c ← start.skipWhile isKeyChar
  if c.isAtEnd then return .next (c, table)
  if (← c.current) ≠ openBrace then return .next (c, table)
  match ← c.skipGroup with
  | none => return .done table
  | some stop =>
      let content := (c.advance 1).sliceTo (stop.pos - 1)
      return .next (stop, table.insert (start.sliceTo c.pos) content)

/-- The round from a place that is not white space. -/
def pieceRound (c : Cursor) (table : PluralTable) :
    Except CursorError (Round BodyScan PluralTable) := do
  if (← c.current) = closeBrace then return .next (c.advance 1, table)
  if (← c.current) = openBrace then
    match ← c.skipGroup with
    | none => return .done table
    | some stop => return .next (stop, table)
  else keyRound c table

/-- Read a plural body: the texts of keys are put into a table, all else is passed over, and reading
stops at a group that is never closed. -/
def bodyLoop : ScanLoop CursorError BodyScan PluralTable where
  cursor := Prod.fst
  round s := do
    let c ← s.1.skipBlank
    if c.isAtEnd then return .done s.2
    pieceRound c s.2
  atEnd := Prod.snd

end MessageTemplate
