import MessageTemplate.Text

/-! Balanced texts and the groups that braces enclose. `closeGroup_eq_some_iff` says that reading a
group finds exactly the balanced content before its closing brace. -/
namespace MessageTemplate

theorem brace_cases (c : Char) :
    c = openBrace ∨ c = closeBrace ∨ c ≠ openBrace ∧ c ≠ closeBrace := by
  by_cases ho : c = openBrace
  · exact .inl ho
  · by_cases hc : c = closeBrace
    · exact .inr (.inl hc)
    · exact .inr (.inr ⟨ho, hc⟩)

/-- No prefix has more closing than opening braces, and their totals agree. -/
def Balanced (t : Text) : Prop :=
  (∀ p, p <+: t → p.count closeBrace ≤ p.count openBrace) ∧
    t.count closeBrace = t.count openBrace

/-- At any point of the text, at most `depth` groups are closed that the text did not open. -/
def ClosesAtMost (depth : Nat) (t : Text) : Prop :=
  ∀ p, p <+: t → p.count closeBrace ≤ depth + p.count openBrace

theorem forall_prefix_append {s t : Text} {P : Text → Prop} :
    (∀ p, p <+: s ++ t → P p) ↔ (∀ p, p <+: s → P p) ∧ ∀ p, p <+: t → P (s ++ p) := by
  constructor
  · intro h
    constructor
    · intro p hp
      exact h p (hp.trans (List.prefix_append s t))
    · intro p hp
      exact h (s ++ p) ((List.prefix_append_right_inj s).mpr hp)
  · intro h p hp
    obtain ⟨hs, ht⟩ := h
    rcases List.prefix_or_prefix_of_prefix hp (List.prefix_append s t) with h | ⟨q, rfl⟩
    · exact hs p h
    · exact ht q ((List.prefix_append_right_inj s).mp hp)

theorem closesAtMost_nil (depth : Nat) : ClosesAtMost depth [] := by
  intro p hp
  simp [List.prefix_nil.mp hp]

section ClosesAtMost

variable {depth : Nat} {c : Char} {t : Text}

theorem closesAtMost_cons_iff :
    ClosesAtMost depth (c :: t) ↔ ∀ p, p <+: t →
      (c :: p).count closeBrace ≤ depth + (c :: p).count openBrace := by
  have h : c :: t = [c] ++ t := rfl
  unfold ClosesAtMost
  rw [h, forall_prefix_append]
  constructor
  · exact fun h => h.2
  · intro h
    refine ⟨fun p hp => ?_, h⟩
    have h0 := h [] List.nil_prefix
    rcases List.prefix_cons_iff.mp hp with rfl | ⟨q, rfl, hq⟩
    · simp
    · rw [List.prefix_nil.mp hq]
      exact h0

theorem closesAtMost_openBrace :
    ClosesAtMost depth (openBrace :: t) ↔ ClosesAtMost (depth + 1) t := by
  rw [closesAtMost_cons_iff]
  apply forall₂_congr
  intro p _
  rw [List.count_cons_self, List.count_cons_of_ne openBrace_ne_closeBrace]
  omega

theorem not_closesAtMost_zero_closeBrace : ¬ ClosesAtMost 0 (closeBrace :: t) := by
  intro h
  have hc := closesAtMost_cons_iff.mp h [] List.nil_prefix
  rw [List.count_cons_self, List.count_cons_of_ne closeBrace_ne_openBrace] at hc
  cases hc

theorem closesAtMost_succ_closeBrace :
    ClosesAtMost (depth + 1) (closeBrace :: t) ↔ ClosesAtMost depth t := by
  rw [closesAtMost_cons_iff]
  apply forall₂_congr
  intro p _
  rw [List.count_cons_self, List.count_cons_of_ne closeBrace_ne_openBrace]
  omega

theorem closesAtMost_cons_of_ne (ho : c ≠ openBrace) (hc : c ≠ closeBrace) :
    ClosesAtMost depth (c :: t) ↔ ClosesAtMost depth t := by
  rw [closesAtMost_cons_iff]
  apply forall₂_congr
  intro p _
  rw [List.count_cons_of_ne ho, List.count_cons_of_ne hc]

end ClosesAtMost

/-- The text closes `depth` open groups and all that it opens, and no more. -/
def closes : Nat → Text → Bool
  | depth, [] => depth == 0
  | depth, c :: t =>
      if c = openBrace then closes (depth + 1) t
      else if c = closeBrace then
        match depth with
        | 0 => false
        | depth + 1 => closes depth t
      else closes depth t

section Closes

variable {depth : Nat} {c : Char} {t : Text}

theorem closes_openBrace : closes depth (openBrace :: t) = closes (depth + 1) t := by
  simp [closes]

theorem closes_zero_closeBrace : closes 0 (closeBrace :: t) = false := by
  rw [closes, if_neg closeBrace_ne_openBrace, if_pos rfl]

theorem closes_succ_closeBrace : closes (depth + 1) (closeBrace :: t) = closes depth t := by
  rw [closes, if_neg closeBrace_ne_openBrace, if_pos rfl]

theorem closes_cons_of_ne (ho : c ≠ openBrace) (hc : c ≠ closeBrace) :
    closes depth (c :: t) = closes depth t := by
  simp [closes, ho, hc]

theorem closes_iff :
    closes depth t = true ↔
      ClosesAtMost depth t ∧ t.count closeBrace = depth + t.count openBrace := by
  induction t generalizing depth with
  | nil =>
    rw [closes, beq_iff_eq, and_iff_right (closesAtMost_nil depth)]
    exact eq_comm
  | cons c t ih =>
    rcases brace_cases c with rfl | rfl | ⟨ho, hc⟩
    · rw [closes_openBrace, ih, closesAtMost_openBrace, List.count_cons_self,
        List.count_cons_of_ne openBrace_ne_closeBrace, Nat.add_right_comm, Nat.add_assoc]
    · cases depth with
      | zero =>
        rw [closes_zero_closeBrace]
        exact iff_of_false Bool.false_ne_true fun h => not_closesAtMost_zero_closeBrace h.1
      | succ depth =>
        rw [closes_succ_closeBrace, ih, closesAtMost_succ_closeBrace, List.count_cons_self,
          List.count_cons_of_ne closeBrace_ne_openBrace, Nat.add_right_comm, Nat.add_left_inj]
    · rw [closes_cons_of_ne ho hc, ih, closesAtMost_cons_of_ne ho hc, List.count_cons_of_ne ho,
        List.count_cons_of_ne hc]

theorem closes_append {extra : Nat} {s : Text} (hs : closes depth s = true) :
    closes (depth + extra) (s ++ t) = closes extra t := by
  induction s generalizing depth with
  | nil =>
    have hdepth : depth = 0 := beq_iff_eq.mp hs
    rw [hdepth, Nat.zero_add, List.nil_append]
  | cons c s ih =>
    rw [List.cons_append]
    rcases brace_cases c with rfl | rfl | ⟨ho, hc⟩
    · rw [closes_openBrace] at hs ⊢
      rw [Nat.add_right_comm, ih hs]
    · cases depth with
      | zero =>
        rw [closes_zero_closeBrace] at hs
        cases hs
      | succ depth =>
        rw [closes_succ_closeBrace] at hs
        rw [Nat.add_right_comm, closes_succ_closeBrace, ih hs]
    · rw [closes_cons_of_ne ho hc] at hs ⊢
      exact ih hs

end Closes

theorem balanced_iff (t : Text) : Balanced t ↔ closes 0 t = true := by
  simp [Balanced, closes_iff, ClosesAtMost]

instance (t : Text) : Decidable (Balanced t) := decidable_of_iff' _ (balanced_iff t)

theorem balanced_nil : Balanced [] := (balanced_iff []).mpr rfl

theorem Balanced.append {s t : Text} (hs : Balanced s) (ht : Balanced t) : Balanced (s ++ t) := by
  rw [balanced_iff] at hs ht ⊢
  rw [← ht, ← Nat.zero_add 0, closes_append hs]

def pushFirst (c : Char) (p : Text × Text) : Text × Text := (c :: p.1, p.2)

/-- The rest of the content of `depth + 1` open groups, as far as the closing brace of the
outermost, and the text after that brace. -/
def closeGroup : Nat → Text → Option (Text × Text)
  | _, [] => none
  | depth, c :: t =>
      if c = openBrace then (closeGroup (depth + 1) t).map (pushFirst c)
      else if c = closeBrace then
        match depth with
        | 0 => some ([], t)
        | depth + 1 => (closeGroup depth t).map (pushFirst c)
      else (closeGroup depth t).map (pushFirst c)

section CloseGroup

variable {depth : Nat} {c : Char} {t content rest : Text}

theorem closeGroup_openBrace :
    closeGroup depth (openBrace :: t) = (closeGroup (depth + 1) t).map (pushFirst openBrace) := by
  simp [closeGroup]

theorem closeGroup_zero_closeBrace : closeGroup 0 (closeBrace :: t) = some ([], t) := by
  rw [closeGroup, if_neg closeBrace_ne_openBrace, if_pos rfl]

theorem closeGroup_succ_closeBrace :
    closeGroup (depth + 1) (closeBrace :: t) =
      (closeGroup depth t).map (pushFirst closeBrace) := by
  rw [closeGroup, if_neg closeBrace_ne_openBrace, if_pos rfl]

theorem closeGroup_cons_of_ne (ho : c ≠ openBrace) (hc : c ≠ closeBrace) :
    closeGroup depth (c :: t) = (closeGroup depth t).map (pushFirst c) := by
  simp [closeGroup, ho, hc]

/-- A code point that does not close the outermost group is the first of its content. -/
theorem map_pushFirst_eq_some_iff {d : Nat} {group : Option (Text × Text)}
    (hgroup : ∀ {g}, group = some (g, rest) ↔ t = g ++ closeBrace :: rest ∧ closes d g = true)
    (hstep : ∀ {g}, closes depth (c :: g) = closes d g) (hc : c = closeBrace → depth ≠ 0) :
    group.map (pushFirst c) = some (content, rest) ↔
      c :: t = content ++ closeBrace :: rest ∧ closes depth content = true := by
  rw [Option.map_eq_some_iff, List.cons_eq_append_iff]
  constructor
  · intro h
    obtain ⟨⟨g, r⟩, hg, he⟩ := h
    cases he
    obtain ⟨ht, hclosed⟩ := hgroup.mp hg
    exact ⟨.inr ⟨g, rfl, ht⟩, hstep.trans hclosed⟩
  · intro h
    obtain ⟨⟨rfl, he⟩ | ⟨g, rfl, ht⟩, hclosed⟩ := h
    · exact absurd (beq_iff_eq.mp hclosed) (hc (List.cons.inj he).1.symm)
    · exact ⟨(g, rest), hgroup.mpr ⟨ht, hstep.symm.trans hclosed⟩, rfl⟩

theorem closeGroup_eq_some_iff :
    closeGroup depth t = some (content, rest) ↔
      t = content ++ closeBrace :: rest ∧ closes depth content = true := by
  induction t generalizing depth content with
  | nil => simp [closeGroup]
  | cons c t ih =>
    rcases brace_cases c with rfl | rfl | ⟨ho, hc⟩
    · rw [closeGroup_openBrace]
      exact map_pushFirst_eq_some_iff ih closes_openBrace fun h =>
        absurd h openBrace_ne_closeBrace
    · cases depth with
      | zero =>
        rw [closeGroup_zero_closeBrace, List.cons_eq_append_iff]
        constructor
        · intro h
          cases h
          exact ⟨.inl ⟨rfl, rfl⟩, rfl⟩
        · intro h
          obtain ⟨⟨rfl, he⟩ | ⟨g, rfl, -⟩, hclosed⟩ := h
          · cases he
            rfl
          · rw [closes_zero_closeBrace] at hclosed
            cases hclosed
      | succ depth =>
        rw [closeGroup_succ_closeBrace]
        exact map_pushFirst_eq_some_iff ih closes_succ_closeBrace fun _ => Nat.succ_ne_zero depth
    · rw [closeGroup_cons_of_ne ho hc]
      exact map_pushFirst_eq_some_iff ih (closes_cons_of_ne ho hc) fun h => absurd h hc

theorem closeGroup_length (h : closeGroup depth t = some (content, rest)) :
    content.length + 1 + rest.length = t.length := by
  rw [(closeGroup_eq_some_iff.mp h).1, List.length_append, List.length_cons]
  omega

end CloseGroup

end MessageTemplate
