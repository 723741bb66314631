import Mathlib.Logic.Basic
import MessageTemplate.Cursor
import MessageTemplate.Proofs.OpenGroups

/-! The brace that closes a group, found in three ways: by the pass from the end of a text, by a
pass from its start with a stack of open groups, and by a cursor that counts the depth from the
opening brace on. Each finds the brace after a balanced content. -/
namespace MessageTemplate

theorem drop_of_getElem? {t : Text} {i : Nat} {c : Char} (h : t[i]? = some c) :
    t.drop i = c :: t.drop (i + 1) := by
  rw [List.drop_eq_getElem?_toList_append, h]
  rfl

/-- The offset of the brace that closes the outermost of `depth + 1` open groups, in a text that
starts at an offset. -/
def closerFrom (offset depth : Nat) (t : Text) : Option Nat :=
  (closeGroup depth t).map fun g => offset + g.1.length

theorem closerFrom_nil (offset depth : Nat) : closerFrom offset depth [] = none := rfl

theorem closerFrom_push (offset depth : Nat) (c : Char) (t : Text) :
    ((closeGroup depth t).map (pushFirst c)).map (fun g => offset + g.1.length) =
      closerFrom (offset + 1) depth t := by
  rw [closerFrom, Option.map_map]
  congr 1
  funext g
  simp only [Function.comp, pushFirst, List.length_cons]
  omega

theorem closerFrom_openBrace (offset depth : Nat) (t : Text) :
    closerFrom offset depth (openBrace :: t) = closerFrom (offset + 1) (depth + 1) t :=
  closerFrom_push offset (depth + 1) openBrace t

theorem closerFrom_zero_closeBrace (offset : Nat) (t : Text) :
    closerFrom offset 0 (closeBrace :: t) = some offset := rfl

theorem closerFrom_succ_closeBrace (offset depth : Nat) (t : Text) :
    closerFrom offset (depth + 1) (closeBrace :: t) = closerFrom (offset + 1) depth t :=
  closerFrom_push offset depth closeBrace t

theorem closerFrom_cons_of_ne {c : Char} (ho : c ≠ openBrace) (hc : c ≠ closeBrace)
    (offset depth : Nat) (t : Text) :
    closerFrom offset depth (c :: t) = closerFrom (offset + 1) depth t := by
  rw [← closerFrom_push offset depth c t]
  simp [closerFrom, closeGroup, ho, hc]

theorem closerFrom_succ (offset depth : Nat) (t : Text) :
    closerFrom (offset + 1) depth t = (closerFrom offset depth t).map (· + 1) := by
  rw [closerFrom, closerFrom, Option.map_map]
  congr 1
  funext g
  simp only [Function.comp]
  omega

/-- A group between two offsets, where an opening brace stands at the first. -/
def IsGroup (t : Text) (i j : Nat) : Prop :=
  i < j ∧ t[j]? = some closeBrace ∧ Balanced (cut t (i + 1 : Nat) j)

theorem IsGroup.length_cut {t : Text} {i j : Nat} (h : IsGroup t i j) :
    (cut t (i + 1 : Nat) j).length = j - (i + 1) := by
  have hj := (List.getElem?_eq_some_iff.mp h.2.1).1
  rw [cut_natCast, List.length_drop, List.length_take]
  omega

theorem IsGroup.closeGroup_drop {t : Text} {i j : Nat} (h : IsGroup t i j) :
    closeGroup 0 (t.drop (i + 1)) = some (cut t (i + 1 : Nat) j, t.drop (j + 1)) := by
  obtain ⟨hlt, hclose, hb⟩ := h
  refine closeGroup_eq_some_iff.mpr ⟨?_, (balanced_iff _).mp hb⟩
  have hdrop : (t.drop (i + 1)).drop (j - (i + 1)) = closeBrace :: t.drop (j + 1) := by
    rw [List.drop_drop, Nat.add_sub_cancel' hlt, drop_of_getElem? hclose]
  rw [← hdrop, cut_natCast, List.drop_take, List.take_append_drop]

theorem closerFrom_drop_iff {t : Text} {i j : Nat} :
    closerFrom (i + 1) 0 (t.drop (i + 1)) = some j ↔ IsGroup t i j := by
  unfold closerFrom
  rw [Option.map_eq_some_iff]
  constructor
  · intro h
    obtain ⟨⟨content, rest⟩, hg, rfl⟩ := h
    obtain ⟨ht, hc⟩ := closeGroup_eq_some_iff.mp hg
    refine ⟨by omega, ?_, ?_⟩
    · rw [← List.getElem?_drop, ht]
      simp
    · rw [cut_natCast, List.drop_take, ht, Nat.add_sub_cancel_left, List.take_left]
      exact (balanced_iff content).mpr hc
  · intro h
    exact ⟨_, h.closeGroup_drop, by rw [h.length_cut, Nat.add_sub_cancel' h.1]⟩

/-- The offset of the brace that closes the group opened at an offset, by the pass over all groups
from the end of the text. -/
def closerOf (t : Text) (i : Nat) : Option Nat :=
  ((contentLengths t)[i]?.join).map (i + 1 + ·)

theorem contentLengths_of_getElem? {t : Text} {i : Nat} (h : t[i]? = some openBrace) :
    (contentLengths t)[i]? = some ((closeGroup 0 (t.drop (i + 1))).map (·.1.length)) := by
  rw [← List.head?_drop, drop_contentLengths, drop_of_getElem? h, contentLengths_cons, if_pos rfl]
  rfl

theorem closerOf_eq_closerFrom {t : Text} {i : Nat} (h : t[i]? = some openBrace) :
    closerOf t i = closerFrom (i + 1) 0 (t.drop (i + 1)) := by
  rw [closerOf, contentLengths_of_getElem? h, Option.join_some, Option.map_map]
  rfl

theorem closerOf_eq_some_iff {t : Text} {i j : Nat} (h : t[i]? = some openBrace) :
    closerOf t i = some j ↔ IsGroup t i j := by
  rw [closerOf_eq_closerFrom h, closerFrom_drop_iff]

theorem closerOf_eq_none_iff {t : Text} {i : Nat} (h : t[i]? = some openBrace) :
    closerOf t i = none ↔ ∀ j, ¬ IsGroup t i j := by
  simp only [← closerOf_eq_some_iff h]
  exact Option.eq_none_iff_forall_ne_some

namespace PairingPass

theorem step_openBrace (m : PairingPass) :
    m.step openBrace = ⟨m.offset + 1, m.offset :: m.opened, m.pairs⟩ := rfl

theorem step_closeBrace_of_nil {m : PairingPass} (h : m.opened = []) :
    m.step closeBrace = ⟨m.offset + 1, [], m.pairs⟩ := by
  simp [step, h]

theorem step_closeBrace_of_cons {m : PairingPass} {i : Nat} {opened : List Nat}
    (h : m.opened = i :: opened) :
    m.step closeBrace = ⟨m.offset + 1, opened, (i, m.offset) :: m.pairs⟩ := by
  simp [step, h]

theorem step_of_ne {c : Char} (ho : c ≠ openBrace) (hc : c ≠ closeBrace) (m : PairingPass) :
    m.step c = ⟨m.offset + 1, m.opened, m.pairs⟩ := by
  simp [step, ho, hc]

theorem step_offset (m : PairingPass) (c : Char) : (m.step c).offset = m.offset + 1 := by
  unfold step
  split
  · rfl
  · split
    · split <;> rfl
    · rfl

/-- A group that is open at this point is closed in the text that follows. -/
def ClosesOpen (m : PairingPass) (t : Text) (i j : Nat) : Prop :=
  ∃ depth, m.opened[depth]? = some i ∧ closerFrom m.offset depth t = some j

/-- A group is opened and closed in the text that follows. -/
def ClosesNew (m : PairingPass) (t : Text) (i j : Nat) : Prop :=
  ∃ k, i = m.offset + k ∧ t[k]? = some openBrace ∧ closerFrom (i + 1) 0 (t.drop (k + 1)) = some j

/-- The groups that the pass will have closed at the end of the text that follows. -/
def Finds (m : PairingPass) (t : Text) (i j : Nat) : Prop :=
  (i, j) ∈ m.pairs ∨ m.ClosesOpen t i j ∨ m.ClosesNew t i j

theorem finds_nil {m : PairingPass} {i j : Nat} : m.Finds [] i j ↔ (i, j) ∈ m.pairs := by
  simp [Finds, ClosesOpen, ClosesNew, closerFrom_nil]

theorem exists_getElem?_cons {o i : Nat} {opened : List Nat} {P : Nat → Prop} :
    (∃ depth, (o :: opened)[depth]? = some i ∧ P depth) ↔
      (i = o ∧ P 0) ∨ ∃ depth, opened[depth]? = some i ∧ P (depth + 1) := by
  rw [← Nat.or_exists_add_one]
  simp [eq_comm]

theorem closesNew_cons {m : PairingPass} {c : Char} {t : Text} {i j : Nat} :
    m.ClosesNew (c :: t) i j ↔
      (i = m.offset ∧ c = openBrace ∧ closerFrom (m.offset + 1) 0 t = some j) ∨
        (m.step c).ClosesNew t i j := by
  have hsucc : ∀ k, m.offset + (k + 1) = (m.step c).offset + k := fun k => by
    rw [step_offset, Nat.add_assoc, Nat.add_comm 1]
  unfold ClosesNew
  rw [← Nat.or_exists_add_one]
  simp only [hsucc, Nat.add_zero, List.getElem?_cons_zero, List.getElem?_cons_succ,
    List.drop_succ_cons, List.drop_zero, Option.some.injEq]
  apply or_congr_left
  apply and_congr_right
  rintro rfl
  rw [step_offset]

/-- What the pass will have found does not change from one code point to the next. -/
theorem finds_step {m : PairingPass} {c : Char} {t : Text} {i j : Nat} :
    (m.step c).Finds t i j ↔ m.Finds (c :: t) i j := by
  unfold Finds
  rw [closesNew_cons]
  unfold ClosesOpen
  by_cases ho : c = openBrace
  · subst ho
    simp only [step_openBrace, exists_getElem?_cons, closerFrom_openBrace, true_and]
    rw [or_assoc, or_left_comm (a := i = m.offset ∧ _)]
  · by_cases hc : c = closeBrace
    · subst hc
      cases hm : m.opened with
      | nil => simp [step_closeBrace_of_nil hm]
      | cons o opened =>
        simp only [step_closeBrace_of_cons hm, exists_getElem?_cons, closerFrom_zero_closeBrace,
          closerFrom_succ_closeBrace, List.mem_cons, Prod.mk.injEq, ho, false_and, and_false,
          false_or, Option.some.injEq, eq_comm (a := m.offset)]
        rw [or_assoc, or_assoc, or_left_comm]
    · simp only [step_of_ne ho hc, closerFrom_cons_of_ne ho hc, ho, false_and, and_false, false_or]

/-- A pass over a text finds what it would find from any point on. -/
theorem mem_pairs_foldl_iff {m : PairingPass} {t : Text} {i j : Nat} :
    (i, j) ∈ (t.foldl step m).pairs ↔ m.Finds t i j := by
  induction t generalizing m with
  | nil => exact finds_nil.symm
  | cons c t ih => rw [List.foldl_cons, ih, finds_step]

end PairingPass

theorem mem_bracePairs_iff {t : Text} {i j : Nat} :
    (i, j) ∈ bracePairs t ↔ t[i]? = some openBrace ∧ IsGroup t i j := by
  unfold bracePairs
  rw [PairingPass.mem_pairs_foldl_iff, ← closerFrom_drop_iff]
  simp [PairingPass.Finds, PairingPass.ClosesOpen, PairingPass.ClosesNew, PairingPass.start]

/-- An opening brace that the pass from left to right pairs with none. -/
def IsUnclosed (t : Text) (i : Nat) : Prop :=
  t[i]? = some openBrace ∧ i ∉ (bracePairs t).map Prod.fst

instance (t : Text) (i : Nat) : Decidable (IsUnclosed t i) := inferInstanceAs (Decidable (_ ∧ _))

/-- A closing brace that the pass from left to right pairs with none. -/
def IsUnopened (t : Text) (j : Nat) : Prop :=
  t[j]? = some closeBrace ∧ j ∉ (bracePairs t).map Prod.snd

theorem isUnclosed_iff {t : Text} {i : Nat} :
    IsUnclosed t i ↔ t[i]? = some openBrace ∧ closeGroup 0 (t.drop (i + 1)) = none := by
  refine and_congr_right fun h => ?_
  have hpaired : i ∈ (bracePairs t).map Prod.fst ↔
      ∃ j, closerFrom (i + 1) 0 (t.drop (i + 1)) = some j := by
    simp only [closerFrom_drop_iff]
    constructor
    · intro hm
      obtain ⟨⟨k, j⟩, hp, rfl⟩ := List.mem_map.mp hm
      exact ⟨j, (mem_bracePairs_iff.mp hp).2⟩
    · intro hg
      obtain ⟨j, hj⟩ := hg
      exact List.mem_map.mpr ⟨(i, j), mem_bracePairs_iff.mpr ⟨h, hj⟩, rfl⟩
  rw [hpaired, ← Option.isSome_iff_exists, closerFrom, Option.isSome_map]
  simp

theorem isUnopened_iff {t : Text} {j : Nat} :
    IsUnopened t j ↔ t[j]? = some closeBrace ∧ ∀ i, t[i]? = some openBrace → ¬ IsGroup t i j := by
  refine and_congr_right fun _ => ?_
  simp only [List.mem_map, Prod.exists, exists_eq_right, mem_bracePairs_iff, not_exists, not_and]

namespace Cursor

theorem lengthToDepthZero_succ (depth : Nat) (t : Text) :
    lengthToDepthZero (depth + 1 : Nat) t = closerFrom 1 depth t := by
  induction t generalizing depth with
  | nil => rfl
  | cons c t ih =>
    by_cases ho : c = openBrace
    · subst ho
      rw [closerFrom_openBrace, closerFrom_succ, ← ih]
      rfl
    · by_cases hc : c = closeBrace
      · subst hc
        cases depth with
        | zero => rfl
        | succ depth =>
          have hne : ((depth + 1 + 1 : Nat) : Int) ≠ 1 := by omega
          have hsub : ((depth + 1 + 1 : Nat) : Int) - 1 = (depth + 1 : Nat) := by omega
          rw [closerFrom_succ_closeBrace, closerFrom_succ, ← ih, lengthToDepthZero, if_neg ho,
            if_pos rfl, if_neg hne, hsub]
      · rw [closerFrom_cons_of_ne ho hc, closerFrom_succ, ← ih]
        simp [lengthToDepthZero, ho, hc]

theorem ahead_natCast (t : Text) (i : Nat) : (⟨t, i⟩ : Cursor).ahead = .ok (t.drop i) := by
  have hi : (0 : Int) ≤ i := Int.natCast_nonneg i
  simp [ahead, textFrom, hi]

theorem advance_of_le {t : Text} {i n : Nat} (h : i + n ≤ t.length) :
    (⟨t, i⟩ : Cursor).advance n = ⟨t, (i + n : Nat)⟩ := by
  have hpos : (if (i : Int) + n < t.length then (i : Int) + n else t.length) = (i + n : Nat) := by
    split <;> omega
  exact congrArg (Cursor.mk t) hpos

/-- From an opening brace on, a cursor comes to a stop behind the brace that closes the group. -/
theorem skipGroup_eq {t : Text} {i : Nat} (h : t[i]? = some openBrace) :
    (⟨t, i⟩ : Cursor).skipGroup =
      .ok ((closerFrom (i + 1) 0 (t.drop (i + 1))).map fun j => ⟨t, (j + 1 : Nat)⟩) := by
  have hopen : lengthToDepthZero 0 (openBrace :: t.drop (i + 1)) =
      (closerFrom 1 0 (t.drop (i + 1))).map (· + 1) :=
    congrArg (Option.map (· + 1)) (lengthToDepthZero_succ 0 _)
  unfold skipGroup skipToDepthZero
  rw [ahead_natCast, drop_of_getElem? h]
  simp only [Except.map, hopen]
  cases hg : closeGroup 0 (t.drop (i + 1)) with
  | none => simp [closerFrom, hg]
  | some g =>
    have hlength := closeGroup_length hg
    have hle : i + (1 + g.1.length + 1) ≤ t.length := by
      rw [List.length_drop] at hlength
      omega
    have hstop : i + (1 + g.1.length + 1) = i + 1 + g.1.length + 1 := by omega
    simp only [closerFrom, hg, Option.map_some, Option.bind_eq_bind, Option.bind_some,
      Option.pure_def, advance_of_le hle, hstop]

theorem skipGroup_eq_some_iff {t : Text} {i j : Nat} (h : t[i]? = some openBrace) :
    (⟨t, i⟩ : Cursor).skipGroup = .ok (some ⟨t, (j + 1 : Nat)⟩) ↔ IsGroup t i j := by
  rw [skipGroup_eq h, ← closerFrom_drop_iff]
  cases closerFrom (i + 1) 0 (t.drop (i + 1)) with
  | none => simp
  | some k =>
    simp only [Option.map_some, Except.ok.injEq, Option.some.injEq, Cursor.mk.injEq, true_and]
    omega

theorem exists_of_skipGroup {t : Text} {i : Nat} (h : t[i]? = some openBrace) {stop : Cursor}
    (hs : (⟨t, i⟩ : Cursor).skipGroup = .ok (some stop)) :
    ∃ j, IsGroup t i j ∧ stop = ⟨t, (j + 1 : Nat)⟩ := by
  rw [skipGroup_eq h] at hs
  obtain ⟨j, hj, rfl⟩ := Option.map_eq_some_iff.mp (Except.ok.inj hs)
  exact ⟨j, closerFrom_drop_iff.mp hj, rfl⟩

theorem skipGroup_eq_none_iff {t : Text} {i : Nat} (h : t[i]? = some openBrace) :
    (⟨t, i⟩ : Cursor).skipGroup = .ok none ↔ ∀ j, ¬ IsGroup t i j := by
  simp only [skipGroup_eq h, ← closerFrom_drop_iff]
  cases closerFrom (i + 1) 0 (t.drop (i + 1)) <;> simp

end Cursor

/-- All ways of finding the group that opens at an offset agree with what a group is: the pass from
the end, the pass from the start, and the cursor. -/
structure FindersAgree (t : Text) (i : Nat) : Prop where
  closer : ∀ j, closerOf t i = some j ↔ IsGroup t i j
  pair : ∀ j, (i, j) ∈ bracePairs t ↔ IsGroup t i j
  skip : ∀ j, (⟨t, i⟩ : Cursor).skipGroup = .ok (some ⟨t, (j + 1 : Nat)⟩) ↔ IsGroup t i j
  no_closer : closerOf t i = none ↔ ∀ j, ¬ IsGroup t i j
  no_pair : (∀ j, (i, j) ∉ bracePairs t) ↔ ∀ j, ¬ IsGroup t i j
  no_skip : (⟨t, i⟩ : Cursor).skipGroup = .ok none ↔ ∀ j, ¬ IsGroup t i j

theorem findersAgree {t : Text} {i : Nat} (h : t[i]? = some openBrace) : FindersAgree t i := by
  have hpair : ∀ j, (i, j) ∈ bracePairs t ↔ IsGroup t i j := fun j => by
    rw [mem_bracePairs_iff, and_iff_right h]
  exact {
    closer := fun _ => closerOf_eq_some_iff h
    pair := hpair
    skip := fun _ => Cursor.skipGroup_eq_some_iff h
    no_closer := closerOf_eq_none_iff h
    no_pair := forall_congr' fun j => not_congr (hpair j)
    no_skip := Cursor.skipGroup_eq_none_iff h }

end MessageTemplate
