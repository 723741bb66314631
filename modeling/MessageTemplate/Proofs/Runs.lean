import MessageTemplate.Formatting
import MessageTemplate.Proofs.SegmentRoundtrip

namespace MessageTemplate

namespace Run

theorem append_assoc (r : Run) (f g : Unit → Run) :
    (r.append f).append g = r.append fun _ => (f ()).append g := by
  cases hr : r.outcome with
  | error e => simp [append, hr]
  | ok t =>
    cases hf : (f ()).outcome with
    | error e => simp [append, hr, hf, Except.map]
    | ok u => cases hg : (g ()).outcome <;> simp [append, hr, hf, hg, Except.map]

theorem nil_append (next : Unit → Run) : (quiet (.ok [])).append next = next () := by
  cases hn : next () with
  | mk events outcome => cases outcome <;> simp [append, quiet, hn, Except.map]

theorem append_nil (r : Run) : (r.append fun _ => quiet (.ok [])) = r := by
  rcases r with ⟨events, outcome⟩
  cases outcome <;> simp [append, quiet, Except.map]

theorem quiet_append_quiet (s t : Text) (next : Unit → Run) :
    (quiet (.ok s)).append (fun _ => (quiet (.ok t)).append next) =
      (quiet (.ok (s ++ t))).append next := by
  cases hn : (next ()).outcome <;> simp [append, quiet, hn, Except.map]

theorem append_ok_iff {r : Run} {next : Unit → Run} {x : Text} :
    (r.append next).outcome = .ok x ↔
      ∃ y z, r.outcome = .ok y ∧ (next ()).outcome = .ok z ∧ x = y ++ z := by
  cases hr : r.outcome with
  | error e => simp [append_of_error hr, hr]
  | ok y =>
    rw [append_of_ok hr]
    cases (next ()).outcome with
    | error e => simp [Except.map]
    | ok z => simp [Except.map, eq_comm]

theorem append_error_iff {r : Run} {next : Unit → Run} {e : Failure} :
    (r.append next).outcome = .error e ↔
      r.outcome = .error e ∨ ∃ y, r.outcome = .ok y ∧ (next ()).outcome = .error e := by
  cases hr : r.outcome with
  | error f => simp [append_of_error hr, hr]
  | ok y =>
    rw [append_of_ok hr]
    cases (next ()).outcome <;> simp [Except.map]

end Run

namespace Segment

theorem renderAll_cons_ok_iff {ps : Parameters} {s : Segment} {ss : List Segment} {x : Text} :
    (renderAll ps (s :: ss)).outcome = .ok x ↔
      ∃ y z, (s.render ps).outcome = .ok y ∧ (renderAll ps ss).outcome = .ok z ∧ x = y ++ z :=
  Run.append_ok_iff

/-- Rendering succeeds where every segment does. -/
theorem renderAll_ok_iff {ps : Parameters} {ss : List Segment} :
    (∃ x, (renderAll ps ss).outcome = .ok x) ↔ ∀ s ∈ ss, ∃ x, (s.render ps).outcome = .ok x := by
  induction ss with
  | nil => simp [renderAll, Run.quiet]
  | cons s ss ih =>
    simp only [renderAll_cons_ok_iff, List.forall_mem_cons, ← ih]
    constructor
    · rintro ⟨x, y, z, hy, hz, rfl⟩
      exact ⟨⟨y, hy⟩, ⟨z, hz⟩⟩
    · rintro ⟨⟨y, hy⟩, ⟨z, hz⟩⟩
      exact ⟨_, y, z, hy, hz, rfl⟩

/-- Only placeholders can fail to render. -/
theorem renderAll_ok_iff_placeholders {ps : Parameters} {ss : List Segment} :
    (∃ x, (renderAll ps ss).outcome = .ok x) ↔
      ∀ p ∈ ss.filterMap placeholder?, ∃ x, (p.render ps).outcome = .ok x := by
  rw [renderAll_ok_iff]
  constructor
  · intro h p hp
    obtain ⟨s, hs, hsp⟩ := List.mem_filterMap.mp hp
    cases s with
    | text t => cases hsp
    | placeholder content span =>
      cases hsp
      exact h _ hs
  · intro h s hs
    cases s with
    | text t => exact ⟨t, rfl⟩
    | placeholder content span => exact h _ (List.mem_filterMap.mpr ⟨_, hs, rfl⟩)

/-- Rendering fails as the first segment that fails, which is a placeholder. -/
theorem renderAll_error {ps : Parameters} {ss : List Segment} {e : Failure}
    (h : (renderAll ps ss).outcome = .error e) :
    ∃ before content span after, ss = before ++ placeholder content span :: after ∧
      (∃ x, (renderAll ps before).outcome = .ok x) ∧
      ((Placeholder.read content (some span)).render ps).outcome = .error e := by
  induction ss with
  | nil => simp [renderAll, Run.quiet] at h
  | cons s ss ih =>
    rcases Run.append_error_iff.mp h with hs | ⟨t, hs, hss⟩
    · cases s with
      | text t => cases hs
      | placeholder content span => exact ⟨[], content, span, ss, rfl, ⟨[], rfl⟩, hs⟩
    · obtain ⟨before, content, span, after, rfl, ⟨x, hx⟩, hbad⟩ := ih hss
      exact ⟨s :: before, content, span, after, rfl,
        ⟨_, renderAll_cons_ok_iff.mpr ⟨t, x, hs, hx, rfl⟩⟩, hbad⟩

end Segment

/-- Reports change nothing about the outcome. -/
theorem format_outcome (template : Text) (ps : Parameters) :
    (format template ps).outcome = (Segment.renderAll ps (segments template)).outcome := by
  change (Segment.renderAll ps (segments template)).reportFailure.outcome = _
  unfold Run.reportFailure
  split <;> rfl

/-- A template that is one group comes to what its placeholder comes to. -/
theorem format_braced_outcome {content : Text} (hb : Balanced content) (ps : Parameters) :
    (format (braced content) ps).outcome =
      ((Placeholder.read content (some ⟨0, content.length + 2, by omega⟩)).render ps).outcome := by
  have hspan : Segment.group 0 content =
      .placeholder content ⟨0, content.length + 2, by omega⟩ := by
    simp [Segment.group]
  rw [format_outcome, segments_eq_scan, Segment.scan_braced hb, hspan, Segment.renderAll,
    Segment.renderAll, Run.append_nil]
  rfl

theorem format_ok_iff {template : Text} {ps : Parameters} :
    (∃ x, (format template ps).outcome = .ok x) ↔
      ∀ p ∈ placeholders template, ∃ x, (p.render ps).outcome = .ok x := by
  rw [format_outcome]
  exact Segment.renderAll_ok_iff_placeholders

theorem format_error {template : Text} {ps : Parameters} {e : Failure}
    (h : (format template ps).outcome = .error e) :
    ∃ p ∈ placeholders template, (p.render ps).outcome = .error e := by
  rw [format_outcome] at h
  obtain ⟨before, content, span, after, hss, -, hp⟩ := Segment.renderAll_error h
  have hm : Segment.placeholder content span ∈ segments template := by simp [hss]
  exact ⟨_, List.mem_filterMap.mpr ⟨_, hm, rfl⟩, hp⟩

end MessageTemplate
