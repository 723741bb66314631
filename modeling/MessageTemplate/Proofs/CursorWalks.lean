import Mathlib.Data.List.Chain
import Mathlib.Data.List.TakeWhile
import MessageTemplate.Proofs.CursorReading
import MessageTemplate.Proofs.PlainScan

/-! Cursors that are moved again and again. `Cursor.walk_loses_nothing` says that a walk stays in
its source, never goes back and reads all that lies between its ends. -/
namespace MessageTemplate

theorem cut_append_cut {t : Text} {i j k : Nat} (hij : i ≤ j) (hjk : j ≤ k) :
    cut t i j ++ cut t j k = cut t i k := by
  have hlength : k - i = (j - i) + (k - j) := by omega
  have hdrop : i + (j - i) = j := by omega
  rw [cut_natCast, cut_natCast, cut_natCast, List.drop_take, List.drop_take, List.drop_take,
    hlength, List.take_add, List.drop_drop, hdrop]

namespace Cursor

variable {s t u : Text} {c d e : Cursor}

/-- A cursor moves on: by a count, over white space, or over a group. -/
inductive Moves (c : Cursor) : Cursor → Prop
  | advance (count : Nat) : Moves c (c.advance count)
  | skipBlank {d : Cursor} (h : c.skipBlank = .ok d) : Moves c d
  | skipGroup {d : Cursor} (h : c.skipGroup = .ok (some d)) : Moves c d

/-- No move leaves the source or goes back. -/
theorem Moves.reaches (hc : c.InSource) (h : c.Moves d) : c.Reaches d := by
  obtain ⟨s, t, rfl⟩ := hc.exists_between
  have htake : ∀ n, (between s t).Reaches (between (s ++ t.take n) (t.drop n)) := by
    intro n
    have hreaches := reaches_between s (t.take n) (t.drop n)
    rwa [List.take_append_drop] at hreaches
  cases h with
  | advance count =>
    rw [advance_between]
    exact htake count
  | skipBlank h =>
    rw [Cursor.skipBlank, skipWhile_between] at h
    cases h
    have hreaches := reaches_between s (t.takeWhile isBlank) (t.dropWhile isBlank)
    rwa [List.takeWhile_append_dropWhile] at hreaches
  | skipGroup h =>
    rw [skipGroup_between] at h
    obtain ⟨n, -, rfl⟩ := Option.map_eq_some_iff.mp (Except.ok.inj h)
    exact htake n

/-- The cursor moves to a place in front of which there is nothing but white space. -/
structure StopsBehindBlank (c d : Cursor) : Prop where
  reaches : c.Reaches d
  blank : ∀ i : Nat, c.pos ≤ i → i < d.pos → ∃ a, c.source[i]? = some a ∧ isBlank a = true
  stop : d.pos = d.source.length ∨ ∃ a, d.current = .ok a ∧ isBlank a = false

theorem stopsBehindBlank_between (s t : Text) :
    (between s t).StopsBehindBlank (between (s ++ t.takeWhile isBlank) (t.dropWhile isBlank)) := by
  refine ⟨Moves.reaches (inSource_between s t) (.skipBlank skipWhile_between), ?_, ?_⟩
  · intro i hle hlt
    obtain ⟨k, rfl⟩ : ∃ k, i = s.length + k := ⟨i - s.length, by simp only [between] at hle; omega⟩
    have hk : k < (t.takeWhile isBlank).length := by
      simp only [between, List.length_append] at hlt
      omega
    refine ⟨(t.takeWhile isBlank)[k], ?_, List.mem_takeWhile_imp (List.getElem_mem hk)⟩
    have hsource : (between s t).source =
        s ++ (t.takeWhile isBlank ++ t.dropWhile isBlank) := by
      rw [List.takeWhile_append_dropWhile]
      rfl
    rw [hsource, List.getElem?_append_right (Nat.le_add_right _ _), Nat.add_sub_cancel_left,
      List.getElem?_append_left hk, List.getElem?_eq_getElem hk]
  · have hstop := List.head?_dropWhile_not isBlank t
    cases hrest : t.dropWhile isBlank with
    | nil =>
      left
      simp [between]
    | cons a rest =>
      rw [hrest] at hstop
      exact .inr ⟨a, current_between_cons, hstop⟩

structure PositionLaws (c : Cursor) : Prop where
  current_error : ∀ e, c.current = .error e ↔ e = .atEnd c.pos ∧ c.pos = c.source.length
  current_ok : ∀ a, c.current = .ok a ↔ c.source[c.pos.toNat]? = some a
  advance_advance : ∀ m n : Nat, (c.advance m).advance n = c.advance (m + n)
  peek : ∀ k : Nat, ∃ ahead, c.peek k = .ok ahead ∧
    (ahead = none ↔ (c.advance k).isAtEnd = true) ∧
    ∀ a, ahead = some a ↔ (c.advance k).current = .ok a
  skipBlank : ∃ d, c.skipBlank = .ok d ∧ c.StopsBehindBlank d ∧ d.skipBlank = .ok d

theorem current_eq_ok_iff {a : Char} : (between s t).current = .ok a ↔ t.head? = some a := by
  cases t with
  | nil => simp
  | cons b t => simp

theorem current_eq_error_iff {e : CursorError} :
    (between s t).current = .error e ↔ e = .atEnd s.length ∧ t = [] := by
  cases t with
  | nil => simp [eq_comm]
  | cons b t => simp

theorem InSource.positionLaws (hc : c.InSource) : c.PositionLaws := by
  obtain ⟨s, t, rfl⟩ := hc.exists_between
  refine ⟨?_, ?_, ?_, ?_, ?_⟩
  · intro e
    have hend : ((between s t).pos = (between s t).source.length) ↔ t = [] := by
      simp only [between, List.length_append, ← List.length_eq_zero_iff]
      omega
    rw [current_eq_error_iff, hend]
    rfl
  · intro a
    have hahead : (between s t).source[(between s t).pos.toNat]? = t.head? := by
      change (s ++ t)[s.length]? = t.head?
      rw [List.getElem?_append_right le_rfl, Nat.sub_self, List.head?_eq_getElem?]
    rw [current_eq_ok_iff, hahead]
  · intro m n
    rw [advance_between, advance_between, ← Int.natCast_add, advance_between, List.take_add,
      List.drop_drop, List.append_assoc]
  · intro k
    refine ⟨t[k]?, peek_between k, ?_, ?_⟩
    · rw [advance_between, isAtEnd_between, List.isEmpty_iff, List.drop_eq_nil_iff,
        List.getElem?_eq_none_iff]
    · intro a
      rw [advance_between, current_eq_ok_iff, List.head?_drop]
  · have hskip : (between s t).skipBlank =
        .ok (between (s ++ t.takeWhile isBlank) (t.dropWhile isBlank)) := skipWhile_between
    -- White space does not go on where it has ended.
    have hended : (t.dropWhile isBlank).takeWhile isBlank = [] := by
      have hstop := List.head?_dropWhile_not isBlank t
      cases hrest : t.dropWhile isBlank with
      | nil => rfl
      | cons a rest =>
        rw [hrest] at hstop
        exact List.takeWhile_cons_of_neg (by simpa using hstop)
    have hrest : (t.dropWhile isBlank).dropWhile isBlank = t.dropWhile isBlank := by
      have happend := List.takeWhile_append_dropWhile (p := isBlank) (l := t.dropWhile isBlank)
      rwa [hended, List.nil_append] at happend
    refine ⟨_, hskip, stopsBehindBlank_between s t, ?_⟩
    rw [skipBlank, skipWhile_between, hended, hrest, List.append_nil]

def slices : List Cursor → List Text
  | c :: d :: ds => c.sliceTo d.pos :: slices (d :: ds)
  | _ => []

theorem Reaches.cut_append (hc : 0 ≤ c.pos) (hcd : c.Reaches d) (hde : d.Reaches e) :
    cut c.source c.pos d.pos ++ cut c.source d.pos e.pos = cut c.source c.pos e.pos := by
  have hd := Int.le_trans hc hcd.le
  obtain ⟨i, hi⟩ := Int.eq_ofNat_of_zero_le hc
  obtain ⟨j, hj⟩ := Int.eq_ofNat_of_zero_le hd
  obtain ⟨k, hk⟩ := Int.eq_ofNat_of_zero_le (Int.le_trans hd hde.le)
  have hij := hcd.le
  have hjk := hde.le
  rw [hi, hj] at hij
  rw [hj, hk] at hjk
  rw [hi, hj, hk]
  exact cut_append_cut (Int.ofNat_le.mp hij) (Int.ofNat_le.mp hjk)

/-- A walk stays in its source. -/
theorem walk_reaches {ds : List Cursor} (hc : c.InSource) (hw : (c :: ds).IsChain Moves) :
    (c :: ds).IsChain Reaches ∧ ∀ d ∈ c :: ds, c.Reaches d := by
  induction ds generalizing c with
  | nil => exact ⟨List.isChain_singleton c, List.forall_mem_singleton.mpr (.refl hc)⟩
  | cons d ds ih =>
    obtain ⟨hmove, hrest⟩ := List.isChain_cons_cons.mp hw
    have hd := hmove.reaches hc
    obtain ⟨hchain, hall⟩ := ih (hd.inSource hc) hrest
    refine ⟨List.isChain_cons_cons.mpr ⟨hd, hchain⟩, List.forall_mem_cons.mpr ⟨.refl hc, ?_⟩⟩
    exact fun e he => hd.trans (hall e he)

/-- A walk reads all that lies between its ends. -/
theorem flatten_slices {ds : List Cursor} (hc : c.InSource) (hw : (c :: ds).IsChain Moves) :
    (slices (c :: ds)).flatten = cut c.source c.pos (ds.getLastD c).pos := by
  induction ds generalizing c with
  | nil =>
    obtain ⟨i, hi⟩ := Int.eq_ofNat_of_zero_le hc.1
    change [] = cut c.source c.pos c.pos
    rw [hi, cut_self]
  | cons d ds ih =>
    obtain ⟨hmove, hrest⟩ := List.isChain_cons_cons.mp hw
    have hd := hmove.reaches hc
    have hlast : d.Reaches (ds.getLastD d) :=
      (walk_reaches (hd.inSource hc) hrest).2 _ List.getLastD_mem_cons
    rw [slices, List.flatten_cons, ih (hd.inSource hc) hrest, List.getLastD_cons, hd.source]
    exact hd.cut_append hc.1 hlast

/-- Whatever moves a cursor makes within its source: it stays there and does not go back, the slices
from each place to the next are the source from the first place to the last, and in each place the
operations agree on what is ahead. -/
theorem walk_loses_nothing {ds : List Cursor} (hc : c.InSource) (hw : (c :: ds).IsChain Moves) :
    (∀ d ∈ c :: ds, d.source = c.source ∧ d.InSource ∧ d.PositionLaws) ∧
      (c :: ds).IsChain (fun a b => a.pos ≤ b.pos) ∧
      (slices (c :: ds)).flatten = cut c.source c.pos (ds.getLastD c).pos := by
  obtain ⟨hchain, hall⟩ := walk_reaches hc hw
  refine ⟨?_, hchain.imp fun _ _ h => h.le, flatten_slices hc hw⟩
  intro d hd
  have hreaches := hall d hd
  exact ⟨hreaches.source, hreaches.inSource hc, (hreaches.inSource hc).positionLaws⟩

/-- Over white space, over a group, and on by more than is left. -/
theorem walk_loses_nothing_group :
    let place (pos : Nat) : Cursor := ⟨" \t\x7ba\x7db".toList, pos⟩
    let walk : List Cursor := [place 2, place 5, place 6]
    (place 0).InSource ∧ (place 0 :: walk).IsChain Moves ∧
      (∀ d ∈ place 0 :: walk, d.InSource ∧ d.PositionLaws) ∧
      (slices (place 0 :: walk)).flatten = " \t\x7ba\x7db".toList := by
  intro place walk
  have hc : (place 0).InSource := by decide
  have hw : (place 0 :: walk).IsChain Moves := by
    have hgroup : (place 2).Moves (place 5) := .skipGroup rfl
    have hend : (place 5).Moves (place 6) := .advance 9
    exact .cons_cons (.skipBlank rfl) (.cons_cons hgroup (.cons_cons hend (.singleton _)))
  obtain ⟨hall, -, hslices⟩ := walk_loses_nothing hc hw
  exact ⟨hc, hw, fun d hd => (hall d hd).2, hslices⟩

end Cursor

end MessageTemplate
