import Mathlib.Logic.Basic
import MessageTemplate.Platform
import MessageTemplate.Proofs.Rejections

/-! Formatting on a platform. `Platform.format_exhausted_iff` says when there is not room enough;
otherwise a run comes to what formatting comes to. -/
namespace MessageTemplate

theorem Value.exceeds_iff {i : Platform} {v : Value} {type : FormatType} :
    v.exceeds i type = true ↔
      (type = .plural ∧ ∃ d n, v = decimal d ∧ d.integer? = some n ∧ i.expands d = false) ∨
      (type ≠ .plural ∧ (type = .untyped → v.kind ≠ .nonScalar) ∧ i.writes v = false) := by
  cases type with
  | untyped => simp [exceeds]
  | number => simp [exceeds]
  | plural =>
    cases v with
    | decimal d => simp [exceeds, Option.isSome_iff_exists]
    | _ => simp [exceeds]
  | unknown name => simp [exceeds]

namespace Placeholder

/-- Rendering needs what there is no room for: the integer of a decimal operand, or the text of a
value that is to be written. -/
def LacksRoom (i : Platform) (p : Placeholder) (ps : Parameters) : Prop :=
  p.name ≠ [] ∧ ∃ v, ps p.name = some v ∧
    ((p.formatType = .plural ∧ ∃ d n, v = .decimal d ∧ d.integer? = some n ∧ i.expands d = false) ∨
      (p.formatType ≠ .plural ∧ (p.formatType = .untyped → v.kind ≠ .nonScalar) ∧
        i.writes v = false))

theorem exceeds_iff {i : Platform} {p : Placeholder} {ps : Parameters} :
    p.exceeds i ps = true ↔ p.LacksRoom i ps := by
  unfold exceeds LacksRoom
  rw [Bool.and_eq_true, decide_eq_true_eq]
  refine and_congr_right fun _ => ?_
  cases ps p.name with
  | none => simp
  | some v => simp [Value.exceeds_iff]

end Placeholder

/-- What holds of the first element that is not passed over. -/
theorem exists_split_cons_iff {α : Type} {passed stops : α → Prop} {a : α} {l : List α} :
    (∃ before b after, a :: l = before ++ b :: after ∧ (∀ c ∈ before, passed c) ∧ stops b) ↔
      stops a ∨ (passed a ∧
        ∃ before b after, l = before ++ b :: after ∧ (∀ c ∈ before, passed c) ∧ stops b) := by
  constructor
  · intro h
    obtain ⟨before, b, after, hl, hbefore, hb⟩ := h
    rcases List.cons_eq_append_iff.mp hl with ⟨rfl, hl⟩ | ⟨before, rfl, rfl⟩
    · cases hl
      exact .inl hb
    · obtain ⟨ha, hbefore⟩ := List.forall_mem_cons.mp hbefore
      exact .inr ⟨ha, before, b, after, rfl, hbefore, hb⟩
  · intro h
    rcases h with ha | ⟨ha, before, b, after, rfl, hbefore, hb⟩
    · exact ⟨[], a, l, rfl, List.forall_mem_nil _, ha⟩
    · exact ⟨a :: before, b, after, rfl, List.forall_mem_cons.mpr ⟨ha, hbefore⟩, hb⟩

namespace Segment

variable {i : Platform} {ps : Parameters} {s : Segment} {ss : List Segment}

theorem renderWithin_of_exceeds (h : s.exceeds i ps = true) :
    renderWithin i ps (s :: ss) = .error .exhausted := by
  rw [renderWithin, if_pos h]

theorem renderWithin_of_error {e : Failure} (h : ¬ s.exceeds i ps = true)
    (he : (s.render ps).outcome = .error e) :
    renderWithin i ps (s :: ss) = .error (.failure e) := by
  rw [renderWithin, if_neg h, he]

theorem renderWithin_of_ok {t : Text} (h : ¬ s.exceeds i ps = true)
    (ht : (s.render ps).outcome = .ok t) :
    renderWithin i ps (s :: ss) = (renderWithin i ps ss).map (t ++ ·) := by
  rw [renderWithin, if_neg h, ht]

theorem renderWithin_map_exhausted_iff {t : Text} :
    (renderWithin i ps ss).map (t ++ ·) = .error .exhausted ↔
      renderWithin i ps ss = .error .exhausted := by
  cases renderWithin i ps ss <;> simp [Except.map]

/-- There is not room enough for some placeholder, where all before it can be rendered. -/
theorem renderWithin_exhausted_iff :
    renderWithin i ps ss = .error .exhausted ↔
      ∃ before p after, ss.filterMap placeholder? = before ++ p :: after ∧
        (∀ q ∈ before, ∃ x, (q.render ps).outcome = .ok x) ∧ p.exceeds i ps = true := by
  induction ss with
  | nil => simp [renderWithin]
  | cons s ss ih =>
    cases s with
    | text t =>
      rw [renderWithin_of_ok (s := text t) Bool.false_ne_true rfl, renderWithin_map_exhausted_iff,
        ih]
      rfl
    | placeholder content span =>
      have hread : (placeholder content span).placeholder? = some (.read content (some span)) := rfl
      rw [List.filterMap_cons_some hread, exists_split_cons_iff, ← ih]
      by_cases hroom : (Placeholder.read content (some span)).exceeds i ps = true
      · exact iff_of_true (renderWithin_of_exceeds hroom) (.inl hroom)
      · rw [or_iff_right hroom]
        cases hr : ((Placeholder.read content (some span)).render ps).outcome with
        | error e =>
          rw [renderWithin_of_error (s := placeholder content span) hroom hr]
          exact iff_of_false nofun fun h => nomatch h.1
        | ok t =>
          rw [renderWithin_of_ok (s := placeholder content span) hroom hr,
            renderWithin_map_exhausted_iff, and_iff_right ⟨t, rfl⟩]

theorem renderWithin_eq (h : renderWithin i ps ss ≠ .error .exhausted) :
    renderWithin i ps ss = (renderAll ps ss).outcome.mapError .failure := by
  induction ss with
  | nil => rfl
  | cons s ss ih =>
    by_cases hroom : s.exceeds i ps = true
    · exact absurd (renderWithin_of_exceeds hroom) h
    · cases hr : (s.render ps).outcome with
      | error e =>
        rw [renderWithin_of_error hroom hr, renderAll, Run.append_of_error hr, hr]
        rfl
      | ok t =>
        rw [renderWithin_of_ok hroom hr] at h ⊢
        rw [ih fun hrest => h (renderWithin_map_exhausted_iff.mpr hrest), renderAll,
          Run.append_of_ok hr]
        cases (renderAll ps ss).outcome <;> rfl

end Segment

namespace Platform

variable {i : Platform} {template : Text} {ps : Parameters}

/-- Where there is room enough, formatting comes to the same on every platform. -/
theorem format_eq (h : i.format template ps ≠ .error .exhausted) :
    i.format template ps = (MessageTemplate.format template ps).outcome.mapError .failure := by
  have hrender : Segment.renderWithin i ps (segments template) ≠ .error .exhausted := by
    intro hr
    rw [format, hr] at h
    exact h rfl
  have heq := Segment.renderWithin_eq hrender
  rw [← format_outcome] at heq
  rw [format, heq] at h ⊢
  cases ho : (MessageTemplate.format template ps).outcome with
  | error e => rfl
  | ok t =>
    rw [ho] at h
    change (if i.holds t then Except.ok t else .error Stop.exhausted) = .ok t
    split
    · rfl
    · rename_i hheld
      exact absurd (if_neg hheld) h

/-- There is not room enough for a placeholder, where all before it can be rendered, or in the end
for the text as a whole. -/
theorem format_exhausted_iff :
    i.format template ps = .error .exhausted ↔
      (∃ before p after, placeholders template = before ++ p :: after ∧
        (∀ q ∈ before, ∃ x, (q.render ps).outcome = .ok x) ∧ p.LacksRoom i ps) ∨
      ∃ x, (MessageTemplate.format template ps).outcome = .ok x ∧ i.holds x = false := by
  simp only [placeholders, ← Placeholder.exceeds_iff, ← Segment.renderWithin_exhausted_iff]
  by_cases hrender : Segment.renderWithin i ps (segments template) = .error .exhausted
  · exact iff_of_true (by rw [format, hrender]) (.inl hrender)
  · rw [or_iff_right hrender, format, Segment.renderWithin_eq hrender, ← format_outcome]
    cases (MessageTemplate.format template ps).outcome with
    | error e => simp [Except.mapError]
    | ok t => simp [Except.mapError]

theorem format_unlimited (template : Text) (ps : Parameters) :
    unlimited.format template ps =
      (MessageTemplate.format template ps).outcome.mapError .failure := by
  apply format_eq
  rw [ne_eq, format_exhausted_iff]
  intro h
  rcases h with ⟨before, p, after, -, -, -, v, -, hv⟩ | ⟨x, -, hx⟩
  · rcases hv with ⟨-, d, n, -, -, hd⟩ | ⟨-, -, hw⟩
    · cases hd
    · cases hw
  · cases hx

end Platform

def Value.nested : Nat → Value
  | 0 => .collection .list []
  | n + 1 => .collection .list [nested n]

theorem Value.depth_nested (n : Nat) : (nested n).depth = n + 1 := by
  induction n with
  | zero => rfl
  | succ n ih =>
    change Nat.max (nested n).depth 0 + 1 = n + 1 + 1
    rw [ih]
    rfl

/-- However deep a platform can write values, there are deeper ones. -/
theorem Platform.format_nested (depth : Nat) (exponent : Int) (length : Nat) :
    (ofLimits depth exponent length).format "\x7bn, number\x7d".toList
      (.ofList [(['n'], .nested depth)]) = .error .exhausted := by
  have hp : placeholders "\x7bn, number\x7d".toList =
      [.read "n, number".toList (some ⟨0, 11, by omega⟩)] := by decide
  have hdepth : (ofLimits depth exponent length).writes (.nested depth) = false := by
    change decide ((Value.nested depth).depth ≤ depth) = false
    rw [Value.depth_nested]
    exact decide_eq_false (Nat.not_succ_le_self depth)
  exact format_exhausted_iff.mpr (.inl ⟨[], _, [], hp, List.forall_mem_nil _, by decide, _, rfl,
    .inr ⟨by decide, fun h => absurd h (by decide), hdepth⟩⟩)

end MessageTemplate
