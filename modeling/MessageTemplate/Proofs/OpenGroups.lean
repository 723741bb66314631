import MessageTemplate.GroupMatching

/-! Texts that close no more groups than are open. `closeGroup_eq_none_iff` says that reading a
group fails exactly on these, in terms of brace counts of prefixes. -/
namespace MessageTemplate

/-- Reading a group fails exactly where the text never closes it. -/
theorem closeGroup_eq_none_iff {depth : Nat} {t : Text} :
    closeGroup depth t = none ↔ ClosesAtMost depth t := by
  induction t generalizing depth with
  | nil => simp [closeGroup, closesAtMost_nil]
  | cons c t ih =>
    rcases brace_cases c with rfl | rfl | ⟨ho, hc⟩
    · rw [closeGroup_openBrace, Option.map_eq_none_iff, ih, closesAtMost_openBrace]
    · cases depth with
      | zero =>
        rw [closeGroup_zero_closeBrace]
        exact iff_of_false (Option.some_ne_none _) not_closesAtMost_zero_closeBrace
      | succ depth =>
        rw [closeGroup_succ_closeBrace, Option.map_eq_none_iff, ih, closesAtMost_succ_closeBrace]
    · rw [closeGroup_cons_of_ne ho hc, Option.map_eq_none_iff, ih, closesAtMost_cons_of_ne ho hc]

theorem ClosesAtMost.append {depth : Nat} {s t : Text} (hs : ClosesAtMost depth s)
    (ht : ClosesAtMost 0 t) : ClosesAtMost depth (s ++ t) := by
  refine forall_prefix_append.mpr ⟨hs, fun p hp => ?_⟩
  have h1 := hs s List.prefix_rfl
  have h2 := ht p hp
  simp only [List.count_append]
  omega

theorem Balanced.closesAtMost {t : Text} (h : Balanced t) : ClosesAtMost 0 t := by
  intro p hp
  rw [Nat.zero_add]
  exact h.1 p hp

/-- A balanced text in front closes nothing. -/
theorem Balanced.closesAtMost_append {depth : Nat} {s t : Text} (hs : Balanced s) :
    ClosesAtMost depth (s ++ t) ↔ ClosesAtMost depth t := by
  have hfront : ∀ p, p <+: s → p.count closeBrace ≤ depth + p.count openBrace := by
    intro p hp
    have := hs.1 p hp
    omega
  have htotal := hs.2
  unfold ClosesAtMost
  rw [forall_prefix_append, and_iff_right hfront]
  apply forall₂_congr
  intro p _
  simp only [List.count_append]
  omega

theorem closesAtMost_append_congr {s t u : Text}
    (h : ∀ depth, ClosesAtMost depth t ↔ ClosesAtMost depth u) (depth : Nat) :
    ClosesAtMost depth (s ++ t) ↔ ClosesAtMost depth (s ++ u) := by
  induction s generalizing depth with
  | nil => exact h depth
  | cons c s ih =>
    rw [List.cons_append, List.cons_append]
    rcases brace_cases c with rfl | rfl | ⟨ho, hc⟩
    · rw [closesAtMost_openBrace, closesAtMost_openBrace, ih]
    · cases depth with
      | zero => exact iff_of_false not_closesAtMost_zero_closeBrace not_closesAtMost_zero_closeBrace
      | succ depth => rw [closesAtMost_succ_closeBrace, closesAtMost_succ_closeBrace, ih]
    · rw [closesAtMost_cons_of_ne ho hc, closesAtMost_cons_of_ne ho hc, ih]

theorem balanced_of_notMem {t : Text} (ho : openBrace ∉ t) (hc : closeBrace ∉ t) : Balanced t := by
  constructor
  · intro p hp
    have hn : closeBrace ∉ p := fun hm => hc (hp.subset hm)
    simp [List.count_eq_zero.mpr hn]
  · rw [List.count_eq_zero.mpr ho, List.count_eq_zero.mpr hc]

theorem balanced_braced {content : Text} (h : Balanced content) : Balanced (braced content) := by
  rw [balanced_iff] at h ⊢
  rw [braced, List.cons_append, closes_openBrace, closes_append h, closes_succ_closeBrace]
  rfl

theorem closeGroup_append_of_some {depth : Nat} {t content rest : Text}
    (h : closeGroup depth t = some (content, rest)) (u : Text) :
    closeGroup depth (t ++ u) = some (content, rest ++ u) := by
  obtain ⟨rfl, hc⟩ := closeGroup_eq_some_iff.mp h
  exact closeGroup_eq_some_iff.mpr ⟨by simp, hc⟩

theorem closeGroup_of_balanced {content : Text} (h : Balanced content) (rest : Text) :
    closeGroup 0 (content ++ closeBrace :: rest) = some (content, rest) :=
  closeGroup_eq_some_iff.mpr ⟨rfl, (balanced_iff content).mp h⟩

/-- A group that is read is written with its braces. -/
theorem eq_braced_of_closeGroup {t : Text} {g : Text × Text} (h : closeGroup 0 t = some g) :
    openBrace :: t = braced g.1 ++ g.2 ∧ Balanced g.1 := by
  obtain ⟨ht, hclosed⟩ := closeGroup_eq_some_iff.mp h
  rw [ht, braced_append]
  exact ⟨rfl, (balanced_iff _).mpr hclosed⟩

/-- A group that the text opens is open at its end, and all groups in it are closed. -/
def EndsInGroup (t : Text) : Prop :=
  ∃ front content, t = front ++ openBrace :: content ∧ Balanced content

theorem EndsInGroup.append_left {t : Text} (h : EndsInGroup t) (s : Text) :
    EndsInGroup (s ++ t) := by
  obtain ⟨front, content, rfl, hb⟩ := h
  exact ⟨s ++ front, content, (List.append_assoc s front _).symm, hb⟩

/-- Two places of a code point in one text are the same, or one is before the other. -/
theorem append_cons_cases {s t u v : Text} {c : Char} (h : s ++ c :: t = u ++ c :: v) :
    s = u ∨ (∃ q, u = s ++ c :: q) ∨ ∃ q, s = u ++ c :: q := by
  rcases List.append_eq_append_iff.mp h with ⟨q, hu, hq⟩ | ⟨q, hs, hq⟩
  · rcases List.cons_eq_append_iff.mp hq with ⟨rfl, -⟩ | ⟨r, rfl, -⟩
    · exact .inl (by rw [hu, List.append_nil])
    · exact .inr (.inl ⟨r, hu⟩)
  · rcases List.cons_eq_append_iff.mp hq with ⟨rfl, -⟩ | ⟨r, rfl, -⟩
    · exact .inl (by rw [hs, List.append_nil])
    · exact .inr (.inr ⟨r, hs⟩)

/-- Where no group from before a text is closed, each of its closing braces closes one of the
text. -/
theorem endsInGroup_of_closesAtMost {s rest : Text}
    (h : ClosesAtMost 0 (s ++ closeBrace :: rest)) : EndsInGroup s := by
  induction hlength : s.length using Nat.strongRecOn generalizing s rest with
  | _ length ih =>
    rcases s with - | ⟨c, s⟩
    · exact absurd h not_closesAtMost_zero_closeBrace
    · rw [List.length_cons] at hlength
      rw [List.cons_append] at h
      rcases brace_cases c with rfl | rfl | ⟨ho, hc⟩
      · cases hg : closeGroup 0 (s ++ closeBrace :: rest) with
        | none =>
          have hs := ih s.length (by omega) (closeGroup_eq_none_iff.mp hg) rfl
          exact hs.append_left [openBrace]
        | some g =>
          obtain ⟨content, after⟩ := g
          obtain ⟨hsplit, hclosed⟩ := closeGroup_eq_some_iff.mp hg
          have hb := (balanced_iff content).mpr hclosed
          -- The first group ends at the closing brace, behind it or before it.
          rcases append_cons_cases hsplit with rfl | ⟨q, rfl⟩ | ⟨q, rfl⟩
          · exact ⟨[], s, rfl, hb⟩
          · exact (ih s.length (by omega) hb.closesAtMost rfl).append_left [openBrace]
          · rw [← List.cons_append, ← braced_append, List.append_assoc,
              (balanced_braced hb).closesAtMost_append] at h
            rw [← braced_append]
            refine (ih q.length ?_ h rfl).append_left (braced content)
            rw [List.length_append, List.length_cons] at hlength
            omega
      · exact absurd h not_closesAtMost_zero_closeBrace
      · rw [closesAtMost_cons_of_ne ho hc] at h
        exact (ih s.length (by omega) h rfl).append_left [c]

end MessageTemplate
