import MessageTemplate.Numeral

namespace MessageTemplate

/-- What may stand in front of the digits of a numeral. -/
def signs : List Text := [[], ['+'], ['-']]

theorem splitSign_append {sign ds : Text} (hs : sign ∈ signs) (hd : isDigits ds = true) :
    splitSign (sign ++ ds) = (decide (sign = ['-']), ds) := by
  have hfirst : ∀ c t, ds = c :: t → c ≠ '-' ∧ c ≠ '+' := by
    rintro c t rfl
    have hc : c.isDigit = true := by
      simp only [isDigits, Bool.and_eq_true, List.all_cons] at hd
      exact hd.2.1
    constructor
    · rintro rfl
      exact absurd hc (by decide)
    · rintro rfl
      exact absurd hc (by decide)
  simp only [signs, List.mem_cons, List.not_mem_nil, or_false] at hs
  rcases hs with rfl | rfl | rfl
  · cases ds with
    | nil => rfl
    | cons c t =>
      obtain ⟨hm, hp⟩ := hfirst c t rfl
      simp [splitSign, hm, hp]
  · rfl
  · rfl

theorem exists_sign (t : Text) : ∃ sign ∈ signs, t = sign ++ (splitSign t).2 := by
  cases t with
  | nil => exact ⟨[], by simp [signs], rfl⟩
  | cons c t =>
    by_cases hm : c = '-'
    · exact ⟨['-'], by simp [signs], by simp [splitSign, hm]⟩
    · by_cases hp : c = '+'
      · exact ⟨['+'], by simp [signs], by simp [splitSign, hp]⟩
      · exact ⟨[], by simp [signs], by simp [splitSign, hm, hp]⟩

/-- A numeral is read as the integer that it denotes, unless it has too many digits. -/
theorem readInt?_append {sign ds : Text} (hs : sign ∈ signs) (hd : isDigits ds = true) :
    readInt? (sign ++ ds) = some (if ds.length ≤ digitLimit then
      .ok (if sign = ['-'] then -(digitsValue ds : Int) else digitsValue ds)
      else .error (.tooLongToRead ds.length)) := by
  unfold readInt?
  rw [splitSign_append hs hd]
  simp [hd]

/-- Only numerals are read. -/
theorem exists_numeral_of_readInt? {t : Text} {r : Except NumeralError Int}
    (h : readInt? t = some r) :
    ∃ sign ds, sign ∈ signs ∧ isDigits ds = true ∧ t = sign ++ ds := by
  obtain ⟨sign, hs, ht⟩ := exists_sign t
  refine ⟨sign, (splitSign t).2, hs, ?_, ht⟩
  unfold readInt? at h
  dsimp only at h
  split at h
  · assumption
  · cases h

/-- What is too long to be read is a numeral, and its digits are counted. -/
theorem readInt?_eq_error_iff {t : Text} {e : NumeralError} :
    readInt? t = some (.error e) ↔
      ∃ sign ds, sign ∈ signs ∧ isDigits ds = true ∧ t = sign ++ ds ∧ digitLimit < ds.length ∧
        e = .tooLongToRead ds.length := by
  constructor
  · intro h
    obtain ⟨sign, ds, hs, hd, rfl⟩ := exists_numeral_of_readInt? h
    rw [readInt?_append hs hd] at h
    split at h
    · cases h
    · rename_i hl
      cases h
      exact ⟨sign, ds, hs, hd, rfl, Nat.lt_of_not_le hl, rfl⟩
  · rintro ⟨sign, ds, hs, hd, rfl, hl, rfl⟩
    rw [readInt?_append hs hd, if_neg (Nat.not_le_of_lt hl)]

end MessageTemplate
