import Mathlib.Data.List.TakeWhile
import MessageTemplate.Placeholder
import MessageTemplate.Proofs.OpenGroups

/-! The fields of a placeholder from its content. `Placeholder.read_fields` says that a name and a
format type without commas of their own are read back, and that any body is. -/
namespace MessageTemplate

/-- A comma that splits, where the text stands at a brace depth. -/
def HasComma (depth : Nat) (t : Text) : Prop :=
  ∃ p q, t = p ++ separator :: q ∧ p.foldl nesting depth = 0

theorem hasComma_cons {depth : Nat} {c : Char} {t : Text} :
    HasComma depth (c :: t) ↔ (c = separator ∧ depth = 0) ∨ HasComma (nesting depth c) t := by
  constructor
  · intro h
    obtain ⟨p, q, he, hp⟩ := h
    rcases List.cons_eq_append_iff.mp he with ⟨rfl, hq⟩ | ⟨p, rfl, ht⟩
    · exact .inl ⟨(List.cons.inj hq).1.symm, hp⟩
    · exact .inr ⟨p, q, ht, hp⟩
  · intro h
    rcases h with ⟨rfl, rfl⟩ | ⟨p, q, rfl, hp⟩
    · exact ⟨[], t, rfl, rfl⟩
    · exact ⟨c :: p, q, rfl, hp⟩

theorem not_hasComma_of_notMem {depth : Nat} {t : Text} (h : separator ∉ t) :
    ¬ HasComma depth t := by
  intro hc
  obtain ⟨p, q, rfl, -⟩ := hc
  simp at h

theorem hasComma_iff {depth : Nat} {t : Text} : HasComma depth t ↔ (splitFrom depth t).2 ≠ [] := by
  induction t generalizing depth with
  | nil => simp [HasComma, splitFrom]
  | cons c t ih =>
    rw [hasComma_cons, ih]
    by_cases h : c = separator ∧ depth = 0 <;> simp [splitFrom, h]

instance (depth : Nat) (t : Text) : Decidable (HasComma depth t) := decidable_of_iff' _ hasComma_iff

/-- A text closes the open groups where its rest closes those at the next depth; a closing brace
needs a group to close. -/
theorem closes_cons_iff {depth : Nat} {c : Char} {t : Text} :
    closes depth (c :: t) = true ↔
      (c = closeBrace → depth ≠ 0) ∧ closes (nesting depth c) t = true := by
  rcases brace_cases c with rfl | rfl | ⟨ho, hc⟩
  · simp [closes_openBrace, nesting]
  · cases depth with
    | zero => simp [closes_zero_closeBrace]
    | succ depth => simp [closes_succ_closeBrace, nesting]
  · simp [closes_cons_of_ne ho hc, nesting, ho, hc]

/-- The depth after the first part of a text is the number of groups that the rest closes. -/
theorem closes_foldl_nesting {depth : Nat} {s t : Text} (h : closes depth (s ++ t) = true) :
    closes (s.foldl nesting depth) t = true := by
  induction s generalizing depth with
  | nil => exact h
  | cons c s ih => exact ih (closes_cons_iff.mp h).2

/-- The depth after a text that closes what is open and all that it opens. -/
theorem foldl_nesting_of_closes {depth : Nat} {t : Text} (h : closes depth t = true) :
    t.foldl nesting depth = 0 := by
  have hend := closes_foldl_nesting (s := t) (t := []) (by rwa [List.append_nil])
  simpa [closes] using hend

theorem Balanced.foldl_nesting {t : Text} (h : Balanced t) : t.foldl nesting 0 = 0 :=
  foldl_nesting_of_closes ((balanced_iff t).mp h)

theorem splitFrom_append_comma {depth : Nat} {s : Text} (hs : ¬ HasComma depth s)
    (hd : s.foldl nesting depth = 0) (t : Text) :
    splitFrom depth (s ++ separator :: t) = (s, (splitFrom 0 t).1 :: (splitFrom 0 t).2) := by
  induction s generalizing depth with
  | nil =>
    have h0 : depth = 0 := hd
    subst h0
    simp [splitFrom]
  | cons c s ih =>
    rw [hasComma_cons, not_or] at hs
    rw [List.foldl_cons] at hd
    simp [splitFrom, ih hs.2 hd, hs.1]

/-- White space around a text does not matter. -/
theorem trim_append {l r : Text} (hl : ∀ c ∈ l, isBlank c = true) (hr : ∀ c ∈ r, isBlank c = true)
    (t : Text) : trim (l ++ (t ++ r)) = trim t := by
  have hfront : dropBlank (l ++ (t ++ r)) = dropBlank (t ++ r) := List.dropWhile_append_of_pos hl
  have hback : ∀ u, dropBlank (u ++ r).reverse = dropBlank u.reverse := by
    intro u
    rw [List.reverse_append]
    apply List.dropWhile_append_of_pos
    intro c hc
    exact hr c (List.mem_reverse.mp hc)
  have hempty : dropBlank r = [] := List.dropWhile_eq_nil_iff.mpr hr
  unfold trim
  rw [hfront]
  change (dropBlank (List.dropWhile isBlank (t ++ r)).reverse).reverse = _
  rw [List.dropWhile_append]
  split
  · rename_i h
    have ht : dropBlank t = [] := List.isEmpty_iff.mp h
    change (dropBlank (dropBlank r).reverse).reverse = _
    rw [hempty, ht]
  · rw [hback]
    rfl

/-- Name and format type are read without the white space around them, the body as it is. -/
theorem Placeholder.read_fields {name formatName : Text} (hn : ¬ HasComma 0 name)
    (hnd : name.foldl nesting 0 = 0) (hf : ¬ HasComma 0 formatName)
    (hfd : formatName.foldl nesting 0 = 0) (body : Text) (span : Option Span) :
    Placeholder.read (name ++ separator :: (formatName ++ separator :: body)) span =
      { name := trim name
        formatName := some (trim formatName)
        body := some body
        source := braced (name ++ separator :: (formatName ++ separator :: body))
        span := span } := by
  have hj := joinArguments_splitFrom 0 body
  unfold Placeholder.read
  rw [splitFrom_append_comma hn hnd, splitFrom_append_comma hf hfd]
  simp [hj]

end MessageTemplate
