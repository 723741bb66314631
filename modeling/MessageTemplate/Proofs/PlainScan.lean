import MessageTemplate.Proofs.BracePairs
import MessageTemplate.Proofs.SegmentJoin

/-! A template read with a cursor that skips one group after another. `walk_eq_segments` says that
it gives the segments that the pass over all groups gives. -/
namespace MessageTemplate

theorem cut_self (t : Text) (start : Nat) : cut t start start = [] := by
  rw [cut_natCast, List.drop_eq_nil_iff, List.length_take]
  exact Nat.min_le_left start t.length

theorem cut_eq_nil_iff {t : Text} {start stop : Nat} (h : stop ≤ t.length) :
    cut t start stop = [] ↔ stop ≤ start := by
  rw [cut_natCast, List.drop_eq_nil_iff, List.length_take, Nat.min_eq_left h]

theorem cut_succ {t : Text} {start stop : Nat} {c : Char} (hle : start ≤ stop)
    (hc : t[stop]? = some c) : cut t start (stop + 1 : Nat) = cut t start stop ++ [c] := by
  have hstop := (List.getElem?_eq_some_iff.mp hc).1
  have htake : start ≤ (t.take stop).length := by
    rw [List.length_take]
    omega
  rw [cut_natCast, cut_natCast, List.take_add_one, hc, Option.toList_some,
    List.drop_append_of_le_length htake]

theorem IsGroup.stop_eq {t : Text} {i j : Nat} (h : IsGroup t i j) :
    i + (cut t (i + 1 : Nat) j).length + 2 = j + 1 := by
  have hlt := h.1
  rw [h.length_cut]
  omega

theorem Cursor.lt_of_skipGroup {t : Text} {i : Nat} (h : t[i]? = some openBrace) {stop : Cursor}
    (hs : (⟨t, i⟩ : Cursor).skipGroup = .ok (some stop)) : i < stop.pos.toNat := by
  obtain ⟨j, hj, rfl⟩ := exists_of_skipGroup h hs
  have hlt := hj.1
  simp only [Int.toNat_natCast]
  omega

namespace Segment

/-- Read a template on from an offset, where the literal text before it is not yet written: a group
that a cursor can skip is a placeholder, and any other brace is literal text. -/
def walk (t : Text) (textStart pos : Nat) : Except CursorError (List Segment) :=
  if pos < t.length then
    if ho : t[pos]? = some openBrace then
      match hs : (⟨t, pos⟩ : Cursor).skipGroup with
      | .error e => .error e
      | .ok none => walk t textStart (pos + 1)
      | .ok (some stop) =>
          let content := cut t (pos + 1 : Nat) (stop.pos - 1)
          let span := ⟨pos, stop.pos.toNat, Nat.le_of_lt (Cursor.lt_of_skipGroup ho hs)⟩
          (walk t stop.pos.toNat stop.pos.toNat).map fun ss =>
            textBetween t textStart pos ++ placeholder content span :: ss
    else walk t textStart (pos + 1)
  else .ok (textBetween t textStart t.length)
termination_by t.length - pos
decreasing_by
  · omega
  · have := Cursor.lt_of_skipGroup ho hs
    omega
  · omega

def behind (s : Text) (ss : List Segment) : List Segment :=
  if s = [] then ss else merge (text s) ss

theorem behind_nil (ss : List Segment) : behind [] ss = ss := rfl

theorem behind_merge (s : Text) (c : Char) (ss : List Segment) :
    behind s (merge (text [c]) ss) = behind (s ++ [c]) ss := by
  have hne : s ++ [c] ≠ [] := by simp
  rw [behind, behind, if_neg hne]
  split
  · rename_i hs
    rw [hs, List.nil_append]
  · exact merge_text_merge s [c] ss

theorem textBetween_append {t : Text} {start stop : Nat} (h : stop ≤ t.length) (ss : List Segment)
    (hs : ∀ s, merge (text s) ss = text s :: ss) :
    textBetween t start stop ++ ss = behind (cut t start stop) ss := by
  unfold textBetween behind
  simp only [cut_eq_nil_iff h]
  split
  · rw [if_neg (by omega), hs]
    rfl
  · rw [if_pos (by omega)]
    rfl

/-- What is left to read is scanned, and the text that is not yet written stands in front of it. -/
theorem walk_eq_behind {t : Text} {textStart pos : Nat} (hle : textStart ≤ pos)
    (hpos : pos ≤ t.length) :
    walk t textStart pos = .ok (behind (cut t textStart pos) (scan pos (t.drop pos))) := by
  fun_induction walk t textStart pos with
  | case1 textStart pos hlt ho e hs =>
    rw [Cursor.skipGroup_eq ho] at hs
    cases hs
  | case2 textStart pos hlt ho hs ih =>
    have hopen : closeGroup 0 (t.drop (pos + 1)) = none := by
      rw [Cursor.skipGroup_eq ho] at hs
      simpa [closerFrom] using hs
    rw [ih (by omega) hlt, drop_of_getElem? ho, scan_open hopen, behind_merge, cut_succ hle ho]
  | case3 textStart pos hlt ho stop hs content span ih =>
    obtain ⟨j, hj, rfl⟩ := Cursor.exists_of_skipGroup ho hs
    have hj_lt := (List.getElem?_eq_some_iff.mp hj.2.1).1
    have hgroup : placeholder content span = group pos (cut t (pos + 1 : Nat) j) := by
      have hlast : ((j + 1 : Nat) : Int) - 1 = j := by omega
      simp only [group, content, span, hlast, hj.stop_eq, Int.toNat_natCast]
    -- No text is pending behind a group.
    have hrest : walk t (j + 1) (j + 1) = .ok (scan (j + 1) (t.drop (j + 1))) := by
      have hafter := ih (Nat.le_refl _) hj_lt
      rwa [cut_self, behind_nil] at hafter
    change (walk t (j + 1) (j + 1)).map _ = _
    rw [hrest, drop_of_getElem? ho, scan_group hj.closeGroup_drop, hj.stop_eq, hgroup,
      ← textBetween_append hpos _ (fun _ => rfl)]
    rfl
  | case4 textStart pos hlt ho ih =>
    obtain ⟨c, hc⟩ : ∃ c, t[pos]? = some c := ⟨t[pos], List.getElem?_eq_getElem hlt⟩
    have hne : c ≠ openBrace := by
      rintro rfl
      exact ho hc
    rw [ih (by omega) hlt, drop_of_getElem? hc, scan_cons_of_ne hne, behind_merge, cut_succ hle hc]
  | case5 textStart pos hge =>
    have hend : pos = t.length := by omega
    rw [hend, List.drop_length, scan_nil,
      ← textBetween_append (Nat.le_refl t.length) [] (fun _ => rfl), List.append_nil]

theorem walk_eq_segments (t : Text) : walk t 0 0 = .ok (segments t) := by
  have hcut : cut t (0 : Nat) (0 : Nat) = [] := cut_self t 0
  rw [walk_eq_behind (Nat.le_refl 0) (Nat.zero_le _), hcut, behind_nil, segments_eq_scan]
  rfl

end Segment

/-- At every opening brace the ways of finding its group agree, and reading a template one group
after another gives its segments. -/
theorem group_finders_agree (t : Text) :
    (∀ i, t[i]? = some openBrace → FindersAgree t i) ∧ Segment.walk t 0 0 = .ok (segments t) :=
  ⟨fun _ h => findersAgree h, Segment.walk_eq_segments t⟩

/-- A closing brace without a group before it, and an opening brace that is never closed. -/
theorem group_finders_agree_unpaired :
    let t := "\x7d\x7ba\x7bb\x7d".toList
    (∀ j, (1, j) ∉ bracePairs t) ∧ (⟨t, 1⟩ : Cursor).skipGroup = .ok none ∧
      (3, 5) ∈ bracePairs t ∧ (⟨t, 3⟩ : Cursor).skipGroup = .ok (some ⟨t, 6⟩) ∧
      Segment.walk t 0 0 =
        .ok [.text "\x7d\x7ba".toList, .placeholder ['b'] ⟨3, 6, by decide⟩] := by
  intro t
  obtain ⟨hfinders, hwalk⟩ := group_finders_agree t
  have hunclosed : FindersAgree t 1 := hfinders 1 (by decide)
  have hclosed : FindersAgree t 3 := hfinders 3 (by decide)
  have hnone : ∀ j, ¬ IsGroup t 1 j := hunclosed.no_closer.mp (by decide)
  have hgroup : IsGroup t 3 5 := (hclosed.closer 5).mp (by decide)
  have hsegments :
      segments t = [.text "\x7d\x7ba".toList, .placeholder ['b'] ⟨3, 6, by decide⟩] := by decide
  exact ⟨hunclosed.no_pair.mpr hnone, hunclosed.no_skip.mpr hnone, (hclosed.pair 5).mpr hgroup,
    (hclosed.skip 5).mpr hgroup, hwalk.trans (congrArg Except.ok hsegments)⟩

end MessageTemplate
