namespace MessageTemplate

/-- Every length, offset and cut of a text counts code points. -/
abbrev Text := List Char

abbrev openBrace : Char := '{'

abbrev closeBrace : Char := '}'

/-- Separates the arguments of a placeholder. -/
abbrev separator : Char := ','

@[simp] theorem openBrace_ne_closeBrace : openBrace ≠ closeBrace := by decide

@[simp] theorem closeBrace_ne_openBrace : closeBrace ≠ openBrace := by decide

def braced (content : Text) : Text := openBrace :: content ++ [closeBrace]

theorem braced_length (content : Text) : (braced content).length = content.length + 2 := by
  simp [braced]

theorem braced_append (content rest : Text) :
    braced content ++ rest = openBrace :: (content ++ closeBrace :: rest) := by
  simp [braced]

structure CodePointRange where
  first : Nat
  last : Nat

namespace CodePointRange

def contains (r : CodePointRange) (c : Char) : Bool := r.first ≤ c.toNat && c.toNat ≤ r.last

end CodePointRange

def inRanges (table : List CodePointRange) (c : Char) : Bool := table.any (·.contains c)

/-- White space: controls 9 to 13, the separators 1C to 1F, next line and the space characters. -/
def blankRanges : List CodePointRange :=
  [⟨0x09, 0x0D⟩, ⟨0x1C, 0x20⟩, ⟨0x85, 0x85⟩, ⟨0xA0, 0xA0⟩, ⟨0x1680, 0x1680⟩, ⟨0x2000, 0x200A⟩,
    ⟨0x2028, 0x2029⟩, ⟨0x202F, 0x202F⟩, ⟨0x205F, 0x205F⟩, ⟨0x3000, 0x3000⟩]

def isBlank (c : Char) : Bool := inRanges blankRanges c

theorem isBlank_openBrace : isBlank openBrace = false := by decide

theorem isBlank_closeBrace : isBlank closeBrace = false := by decide

def dropBlank (t : Text) : Text := t.dropWhile isBlank

def trim (t : Text) : Text := (dropBlank (dropBlank t).reverse).reverse

/-- Code-point order of texts. -/
def precedes : Text → Text → Bool
  | _, [] => false
  | [], _ :: _ => true
  | a :: s, b :: t => decide (a.toNat < b.toNat) || (decide (a = b) && precedes s t)

theorem precedes_irrefl (t : Text) : precedes t t = false := by
  induction t with
  | nil => rfl
  | cons c t ih => simp [precedes, ih]

theorem precedes_trans {r s t : Text} (hrs : precedes r s = true) (hst : precedes s t = true) :
    precedes r t = true := by
  induction r generalizing s t with
  | nil =>
    cases s with
    | nil => simp [precedes] at hrs
    | cons b s => cases t <;> simp_all [precedes]
  | cons a r ih =>
    cases s with
    | nil => simp [precedes] at hrs
    | cons b s =>
      cases t with
      | nil => simp [precedes] at hst
      | cons c t =>
        simp only [precedes, Bool.or_eq_true, Bool.and_eq_true, decide_eq_true_eq] at *
        rcases hrs with h | ⟨rfl, h⟩ <;> rcases hst with h' | ⟨rfl, h'⟩
        · exact .inl (by omega)
        · exact .inl h
        · exact .inl h'
        · exact .inr ⟨rfl, ih h h'⟩

theorem precedes_of_ne {s t : Text} (hne : s ≠ t) (hts : precedes t s = false) :
    precedes s t = true := by
  induction s generalizing t with
  | nil => cases t <;> simp_all [precedes]
  | cons a s ih =>
    cases t with
    | nil => simp [precedes] at hts
    | cons b t =>
      simp only [precedes, Bool.or_eq_false_iff, Bool.and_eq_false_iff, decide_eq_false_iff_not,
        Bool.or_eq_true, Bool.and_eq_true, decide_eq_true_eq] at *
      by_cases hab : a = b
      · subst hab
        refine .inr ⟨rfl, ih (fun h => hne (h ▸ rfl)) ?_⟩
        simpa using hts.2
      · have : a.toNat ≠ b.toNat := fun h => hab (Char.toNat_inj.mp h)
        exact .inl (by omega)

theorem ne_of_precedes {s t : Text} (h : precedes s t = true) : s ≠ t := by
  rintro rfl
  rw [precedes_irrefl] at h
  cases h

theorem precedes_asymm {s t : Text} (h : precedes s t = true) : ¬ precedes t s = true := fun h' =>
  ne_of_precedes (precedes_trans h h') rfl

theorem precedes_trichotomy (s t : Text) : s = t ∨ precedes s t = true ∨ precedes t s = true := by
  by_cases hst : s = t
  · exact .inl hst
  · cases h : precedes t s with
    | true => exact .inr (.inr rfl)
    | false => exact .inr (.inl (precedes_of_ne hst h))

/-- Insert into a strictly increasing list; a text that is present is not repeated. -/
def insertText (t : Text) : List Text → List Text
  | [] => [t]
  | u :: us =>
      if t = u then u :: us
      else if precedes t u then t :: u :: us
      else u :: insertText t us

/-- The distinct texts of a list in code-point order. -/
def sortTexts (ts : List Text) : List Text := ts.foldr insertText []

theorem mem_insertText {s t : Text} {us : List Text} : s ∈ insertText t us ↔ s = t ∨ s ∈ us := by
  induction us with
  | nil => simp [insertText]
  | cons u us ih =>
    rw [insertText]
    by_cases same : t = u
    · rw [if_pos same, same, List.mem_cons, or_self_left]
    · rw [if_neg same]
      by_cases before : precedes t u = true
      · rw [if_pos before, List.mem_cons]
      · rw [if_neg before, List.mem_cons, ih, List.mem_cons, or_left_comm]

theorem mem_sortTexts {s : Text} {ts : List Text} : s ∈ sortTexts ts ↔ s ∈ ts := by
  induction ts with
  | nil => simp [sortTexts]
  | cons t ts ih =>
    have : sortTexts (t :: ts) = insertText t (sortTexts ts) := rfl
    simp [this, mem_insertText, ih]

/-- The offset that an index names in a text of `size` code points: a negative index counts from
the end, and an index beyond an end is that end. -/
def offsetOf (size : Nat) (index : Int) : Nat :=
  if index < 0 then (size + index).toNat else Nat.min index.toNat size

theorem offsetOf_natCast (size n : Nat) : offsetOf size n = Nat.min n size := by
  have : ¬ (n : Int) < 0 := by omega
  simp [offsetOf, this]

/-- The code points from one index to another; none where the second is not after the first. -/
def cut (t : Text) (start stop : Int) : Text :=
  (t.take (offsetOf t.length stop)).drop (offsetOf t.length start)

theorem cut_natCast (t : Text) (start stop : Nat) :
    cut t start stop = (t.take stop).drop start := by
  rw [cut, offsetOf_natCast, offsetOf_natCast]
  change (t.take (min stop t.length)).drop (min start t.length) = _
  rw [← List.take_eq_take_min, List.drop_eq_drop_iff, List.length_take]
  omega

end MessageTemplate
