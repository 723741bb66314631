import MessageTemplate.Proofs.BracePairs

/-! A cursor between the text it has read and the text ahead of it. Every cursor within its source
is of this form, and each of its operations is a cut of the text ahead. -/
namespace MessageTemplate

namespace Cursor

/-- The position is in the source or at its end. -/
def InSource (c : Cursor) : Prop := 0 ≤ c.pos ∧ c.pos ≤ c.source.length

instance (c : Cursor) : Decidable c.InSource := inferInstanceAs (Decidable (_ ∧ _))

/-- The cursor that has read one text and has another ahead. -/
def between (done rest : Text) : Cursor := ⟨done ++ rest, done.length⟩

variable {s t u : Text} {c d e : Cursor}

theorem inSource_between (s t : Text) : (between s t).InSource := by
  simp only [InSource, between, List.length_append]
  omega

theorem InSource.exists_between (h : c.InSource) : ∃ s t, c = between s t := by
  obtain ⟨hpos, hle⟩ := h
  have hlength : ((c.source.take c.pos.toNat).length : Int) = c.pos := by
    rw [List.length_take]
    omega
  refine ⟨c.source.take c.pos.toNat, c.source.drop c.pos.toNat, ?_⟩
  rw [between, List.take_append_drop, hlength]

theorem isAtEnd_eq_true_iff : c.isAtEnd = true ↔ (c.source.length : Int) ≤ c.pos := by
  simp [isAtEnd]

theorem pos_lt_of_isAtEnd_eq_false (h : c.isAtEnd = false) : c.pos < c.source.length := by
  rw [← Int.not_le, ← isAtEnd_eq_true_iff, h]
  exact Bool.false_ne_true

@[simp]
theorem isAtEnd_between : (between s t).isAtEnd = t.isEmpty := by
  rw [Bool.eq_iff_iff, isAtEnd_eq_true_iff, List.isEmpty_iff, ← List.length_eq_zero_iff]
  simp only [between, List.length_append]
  omega

/-- A cursor that is not at the end has a code point ahead. -/
theorem exists_between_cons (hpos : 0 ≤ c.pos) (h : c.isAtEnd = false) :
    ∃ s a t, c = between s (a :: t) := by
  have hlt := pos_lt_of_isAtEnd_eq_false h
  obtain ⟨s, t, rfl⟩ := InSource.exists_between ⟨hpos, by omega⟩
  rw [isAtEnd_between, List.isEmpty_eq_false_iff] at h
  obtain ⟨a, t, rfl⟩ := List.exists_cons_of_ne_nil h
  exact ⟨s, a, t, rfl⟩

@[simp]
theorem ahead_between : (between s t).ahead = .ok t := by
  rw [between, ahead_natCast, List.drop_left]

@[simp]
theorem current_between_nil : (between s []).current = .error (.atEnd s.length) := by
  rw [current, ahead_between]
  rfl

@[simp]
theorem current_between_cons {a : Char} : (between s (a :: t)).current = .ok a := by
  rw [current, ahead_between]

theorem peek_between (k : Nat) : (between s t).peek k = .ok t[k]? := by
  have hahead : textFrom (s ++ t) (s.length + k : Nat) = .ok (t.drop k) := by
    have h := ahead_natCast (s ++ t) (s.length + k)
    rwa [List.drop_append, List.drop_eq_nil_of_le (by omega), Nat.add_sub_cancel_left] at h
  change (textFrom (s ++ t) (s.length + k : Nat)).map List.head? = _
  rw [hahead, ← List.head?_drop]
  rfl

theorem advance_between (n : Nat) :
    (between s t).advance n = between (s ++ t.take n) (t.drop n) := by
  have hpos : (if (s.length : Int) + n < (s ++ t).length then (s.length : Int) + n
      else (s ++ t).length) = (s ++ t.take n).length := by
    rw [List.length_append, List.length_append, List.length_take]
    split <;> omega
  unfold between
  rw [List.append_assoc, List.take_append_drop, ← hpos]
  rfl

/-- The text that a cursor advances over is what it then has read more. -/
theorem advance_between_append :
    (between s (t ++ u)).advance t.length = between (s ++ t) u := by
  rw [advance_between, List.take_left, List.drop_left]

@[simp]
theorem advance_between_cons {a : Char} :
    (between s (a :: t)).advance 1 = between (s ++ [a]) t := advance_between_append (t := [a])

theorem sliceTo_between_append :
    (between s (t ++ u)).sliceTo (between (s ++ t) u).pos = t := by
  change cut (s ++ (t ++ u)) s.length (s ++ t).length = t
  rw [cut_natCast, ← List.append_assoc, List.take_left, List.drop_left]

structure Reaches (c d : Cursor) : Prop where
  source : d.source = c.source
  le : c.pos ≤ d.pos
  le_length : d.pos ≤ c.source.length

theorem Reaches.refl (hc : c.InSource) : c.Reaches c := ⟨rfl, Int.le_refl _, hc.2⟩

theorem Reaches.trans (hcd : c.Reaches d) (hde : d.Reaches e) : c.Reaches e :=
  ⟨hde.source.trans hcd.source, Int.le_trans hcd.le hde.le, hcd.source ▸ hde.le_length⟩

theorem Reaches.inSource (h : c.Reaches d) (hc : c.InSource) : d.InSource :=
  ⟨Int.le_trans hc.1 h.le, h.source ▸ h.le_length⟩

theorem reaches_between (s t u : Text) : (between s (t ++ u)).Reaches (between (s ++ t) u) := by
  refine ⟨List.append_assoc s t u, ?_, ?_⟩
  · simp only [between, List.length_append]
    omega
  · simp only [between, List.length_append]
    omega

theorem pos_between_lt (ht : t ≠ []) : (between s (t ++ u)).pos < (between (s ++ t) u).pos := by
  have hlength := List.length_pos_iff.mpr ht
  simp only [between, List.length_append]
  omega

theorem ahead_of_isAtEnd (hpos : 0 ≤ c.pos) (h : c.isAtEnd = true) : c.ahead = .ok [] := by
  obtain ⟨source, pos⟩ := c
  obtain ⟨i, rfl⟩ := Int.eq_ofNat_of_zero_le hpos
  have hle : (source.length : Int) ≤ i := isAtEnd_eq_true_iff.mp h
  exact (ahead_natCast source i).trans (congrArg Except.ok (List.drop_eq_nil_of_le (by omega)))

theorem exists_between_of_current {a : Char} (hpos : 0 ≤ c.pos) (h : c.current = .ok a) :
    ∃ s t, c = between s (a :: t) := by
  cases hend : c.isAtEnd with
  | true =>
    rw [current, ahead_of_isAtEnd hpos hend] at h
    cases h
  | false =>
    obtain ⟨s, b, t, rfl⟩ := exists_between_cons hpos hend
    rw [current_between_cons] at h
    cases h
    exact ⟨s, t, rfl⟩

theorem skipWhile_of_isAtEnd {p : Char → Bool} (h : c.isAtEnd = true) : c.skipWhile p = .ok c :=
  if_pos h

@[simp]
theorem skipWhile_between {p : Char → Bool} :
    (between s t).skipWhile p = .ok (between (s ++ t.takeWhile p) (t.dropWhile p)) := by
  have hadvance : (between s t).advance (t.takeWhile p).length =
      between (s ++ t.takeWhile p) (t.dropWhile p) := by
    have h := advance_between_append (s := s) (t := t.takeWhile p) (u := t.dropWhile p)
    rwa [List.takeWhile_append_dropWhile] at h
  unfold skipWhile
  split
  · rename_i hend
    rw [isAtEnd_between, List.isEmpty_iff] at hend
    rw [hend, List.takeWhile_nil, List.dropWhile_nil, List.append_nil]
  · rw [ahead_between, ← hadvance]
    rfl

theorem skipToDepthZero_between (depth : Int) :
    (between s t).skipToDepthZero depth =
      .ok ((lengthToDepthZero depth t).map fun n => between (s ++ t.take n) (t.drop n)) := by
  unfold skipToDepthZero
  rw [ahead_between, Except.map]
  cases lengthToDepthZero depth t with
  | none => rfl
  | some n => exact congrArg (fun c => Except.ok (some c)) (advance_between n)

theorem skipGroup_between :
    (between s t).skipGroup =
      .ok ((lengthToDepthZero 0 t).map fun n => between (s ++ t.take n) (t.drop n)) :=
  skipToDepthZero_between 0

/-- At an opening brace a cursor skips the group that is opened there. -/
theorem skipGroup_between_open :
    (between s (openBrace :: t)).skipGroup =
      .ok ((closeGroup 0 t).map fun g => between (s ++ braced g.1) g.2) := by
  have hopen : (s ++ openBrace :: t)[s.length]? = some openBrace := by simp
  have hahead : (s ++ openBrace :: t).drop (s.length + 1) = t := by simp
  rw [between, skipGroup_eq hopen, hahead, closerFrom]
  cases hg : closeGroup 0 t with
  | none => rfl
  | some g =>
    have hsource := (closeGroup_eq_some_iff.mp hg).1
    have hpos : s.length + 1 + g.1.length + 1 = (s ++ braced g.1).length := by
      rw [List.length_append, braced_length]
      omega
    simp only [Option.map_some, hpos, hsource, between, braced, List.append_assoc,
      List.cons_append, List.nil_append]

end Cursor

end MessageTemplate
