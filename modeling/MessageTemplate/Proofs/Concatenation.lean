import MessageTemplate.Proofs.BracePairs
import MessageTemplate.Proofs.Runs
import MessageTemplate.Proofs.SpanShift

namespace MessageTemplate

/-- Matching the braces leaves an opening one without a partner. -/
def HasUnmatchedOpen (t : Text) : Prop := (openBrace, none) ∈ t.zip (contentLengths t)

/-- Matching the braces leaves a closing one waiting. -/
def HasUnmatchedClose (t : Text) : Prop := (GroupMatching.ofText t).waiting ≠ []

instance (t : Text) : Decidable (HasUnmatchedOpen t) := inferInstanceAs (Decidable (_ ∈ _))

instance (t : Text) : Decidable (HasUnmatchedClose t) := inferInstanceAs (Decidable (_ ≠ _))

theorem not_hasUnmatchedClose_iff {t : Text} : ¬ HasUnmatchedClose t ↔ ClosesAtMost 0 t := by
  have hw := GroupMatching.waiting_ofText t 0
  unfold HasUnmatchedClose
  rw [Decidable.not_not, ← closeGroup_eq_none_iff]
  cases h : (GroupMatching.ofText t).waiting with
  | nil =>
    rw [h] at hw
    simpa using hw.symm
  | cons after waiting =>
    rw [h] at hw
    cases hg : closeGroup 0 t <;> simp_all

/-- The pass from the end and the pass from the start leave the same opening braces unmatched. -/
theorem hasUnmatchedOpen_iff {t : Text} : HasUnmatchedOpen t ↔ ∃ i, IsUnclosed t i := by
  unfold HasUnmatchedOpen
  rw [List.mem_iff_getElem?]
  refine exists_congr fun i => ?_
  rw [List.getElem?_zip_eq_some, isUnclosed_iff]
  refine and_congr_right fun h => ?_
  rw [contentLengths_of_getElem? h, Option.some_inj, Option.map_eq_none_iff]

/-- The closing brace of a balanced content has no opening brace in it. -/
theorem Balanced.isUnopened {content : Text} (h : Balanced content) (rest : Text) :
    IsUnopened (content ++ closeBrace :: rest) content.length := by
  refine isUnopened_iff.mpr ⟨by simp, fun i hopen hgroup => ?_⟩
  obtain ⟨hlt, -, hinner⟩ := hgroup
  rw [List.getElem?_append_left hlt] at hopen
  rw [cut_natCast, List.take_left] at hinner
  have hfront := h.1 (content.take i) (List.take_prefix i content)
  have htotal := h.2
  rw [← List.take_append_drop i content, drop_of_getElem? hopen, List.count_append,
    List.count_append, List.count_cons_self, List.count_cons_of_ne openBrace_ne_closeBrace,
    hinner.2] at htotal
  omega

/-- The passes leave the same closing braces unmatched, too. -/
theorem hasUnmatchedClose_iff {t : Text} : HasUnmatchedClose t ↔ ∃ j, IsUnopened t j := by
  rw [← not_iff_not, not_hasUnmatchedClose_iff]
  constructor
  · intro hclosed hunopened
    obtain ⟨j, hj⟩ := hunopened
    obtain ⟨hclose, hnone⟩ := isUnopened_iff.mp hj
    have ht : t.take j ++ closeBrace :: t.drop (j + 1) = t := by
      rw [← drop_of_getElem? hclose, List.take_append_drop]
    obtain ⟨front, content, htake, hb⟩ := endsInGroup_of_closesAtMost (ht.symm ▸ hclosed)
    have hlength := congrArg List.length htake
    rw [List.length_take, List.length_append, List.length_cons] at hlength
    have hlt : front.length < j := by omega
    refine hnone front.length ?_ ⟨hlt, hclose, ?_⟩
    · rw [← List.getElem?_take_of_lt hlt, htake]
      simp
    · rw [cut_natCast, htake]
      simpa using hb
  · intro hnone
    rw [← closeGroup_eq_none_iff]
    cases hg : closeGroup 0 t with
    | none => rfl
    | some g =>
      obtain ⟨rfl, hc⟩ := closeGroup_eq_some_iff.mp hg
      exact absurd ⟨_, ((balanced_iff g.1).mpr hc).isUnopened g.2⟩ hnone

namespace Segment

/-- Only code points that open no group become literal text. -/
theorem mem_literals_assemble {offset skip : Nat} {t : List (Char × Option Nat)} {c : Char}
    (h : c ∈ literals (assemble offset skip t)) : (c, none) ∈ t := by
  fun_induction assemble offset skip t with
  | case1 => simp at h
  | case2 offset skip p t ih => exact List.mem_cons_of_mem p (ih h)
  | case3 offset d t ih =>
    rw [prependText_eq_merge, literals_merge] at h
    rcases List.mem_append.mp h with h | h
    · rw [List.mem_singleton.mp h]
      exact List.mem_cons_self
    · exact List.mem_cons_of_mem _ (ih h)
  | case4 offset d length t ih => exact List.mem_cons_of_mem _ (ih h)

/-- The segments of a concatenation, where not both parts have a brace for the other. -/
theorem segments_append {s t : Text} (h : ¬ HasUnmatchedOpen s ∨ ¬ HasUnmatchedClose t) :
    segments (s ++ t) = join (segments s) ((segments t).map (shift s.length)) := by
  have hseam : openBrace ∉ literals (scan 0 s) ∨ ClosesAtMost 0 t := by
    rw [← segments_eq_scan]
    exact h.imp (mt mem_literals_assemble) not_hasUnmatchedClose_iff.mp
  rw [segments_eq_scan, segments_eq_scan, segments_eq_scan, scan_append hseam, ← scan_add,
    Nat.add_comm]

end Segment

namespace Segment

theorem renderAll_merge (ps : Parameters) (s : Segment) (ss : List Segment) :
    renderAll ps (merge s ss) = (s.render ps).append fun _ => renderAll ps ss := by
  rcases s with ⟨s⟩ | ⟨content, span⟩
  · rcases ss with - | ⟨⟨t⟩ | ⟨content, span⟩, rest⟩
    · rfl
    · exact (Run.quiet_append_quiet s t _).symm
    · rfl
  · rfl

/-- Joined segments render as the first ones and then the others. -/
theorem renderAll_join (ps : Parameters) (ss ts : List Segment) :
    renderAll ps (join ss ts) = (renderAll ps ss).append fun _ => renderAll ps ts := by
  induction ss with
  | nil => exact (Run.nil_append fun _ => renderAll ps ts).symm
  | cons s ss ih =>
    have hj : join (s :: ss) ts = merge s (join ss ts) := rfl
    rw [hj, renderAll_merge, ih, renderAll, Run.append_assoc]

end Segment

/-- Formatting distributes over concatenation unless an opening brace that the first part leaves
unmatched meets a closing one that the second part leaves unmatched. -/
theorem format_append_outcome {s t : Text} (ps : Parameters)
    (h : ¬ HasUnmatchedOpen s ∨ ¬ HasUnmatchedClose t) :
    (∀ x y, (format s ps).outcome = .ok x → (format t ps).outcome = .ok y →
      (format (s ++ t) ps).outcome = .ok (x ++ y)) ∧
    (∀ e, (format s ps).outcome = .error e → (format (s ++ t) ps).outcome = .error e) ∧
    (∀ x e, (format s ps).outcome = .ok x → (format t ps).outcome = .error e →
      (format (s ++ t) ps).outcome = .error (e.shift s.length)) := by
  have hrun : Segment.renderAll ps (segments (s ++ t)) =
      (Segment.renderAll ps (segments s)).append fun _ =>
        (Segment.renderAll ps (segments t)).shift s.length := by
    rw [Segment.segments_append h, Segment.renderAll_join, Segment.renderAll_shift]
  simp only [format_outcome]
  rw [hrun]
  refine ⟨?_, ?_, ?_⟩
  · intro x y hx hy
    rw [Run.append_of_ok hx, Run.shift_of_ok hy, hy]
    rfl
  · intro e he
    rw [Run.append_of_error he]
    exact he
  · intro x e hx he
    rw [Run.append_of_ok hx, Run.shift_outcome_of_error he]
    rfl

/-- An unclosed brace before the seam, and an empty name after it that is reported further to the
right. -/
theorem format_append_outcome_shifted :
    HasUnmatchedOpen "\x7d\x7bx\x7d\x7b".toList ∧ ¬ HasUnmatchedClose "c\x7b\x7d".toList ∧
      (format ("\x7d\x7bx\x7d\x7b".toList ++ "c\x7b\x7d".toList)
        (.ofList [(['x'], .null)])).outcome =
        .error (.rejected (.ofEmptyName (some ⟨6, 8, by omega⟩))) := by
  have hclose : ¬ HasUnmatchedClose "c\x7b\x7d".toList := by decide
  have happend := format_append_outcome (s := "\x7d\x7bx\x7d\x7b".toList)
    (.ofList [(['x'], .null)]) (.inr hclose)
  exact ⟨by decide, hclose, happend.2.2 "\x7d\x7b".toList _ rfl rfl⟩

end MessageTemplate
