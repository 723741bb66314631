import MessageTemplate.Proofs.RenderOutcome

namespace MessageTemplate

theorem FormatError.message_of_diagnostic {e : FormatError} {d : Diagnostic}
    (h : e.diagnostic? = some d) : e.message = d.message := by
  rcases e with ⟨cause, account⟩
  cases account with
  | message t => cases h
  | diagnosis d' =>
    cases h
    rfl

theorem ChoiceFailure.diagnostic {v : Value} {table : PluralTable} {name : Option Text}
    {span : Option Span} {e : FormatError} (h : ChoiceFailure v table name span (.rejected e)) :
    ∃ d, e.diagnostic? = some d ∧ d.span = span := by
  cases h with
  | noInteger hv => exact ⟨_, rfl, rfl⟩
  | missing n hv hk => exact ⟨_, rfl, rfl⟩

/-- Whatever the reason, the diagnostic points to the placeholder. -/
theorem RenderFailure.diagnostic {p : Placeholder} {ps : Parameters} {e : FormatError}
    (h : RenderFailure p ps (.rejected e)) : ∃ d, e.diagnostic? = some d ∧ d.span = p.span := by
  cases h with
  | emptyName hn => exact ⟨_, rfl, rfl⟩
  | missingParameter hn hv => exact ⟨_, rfl, rfl⟩
  | choice hn v hv ht hc => exact hc.diagnostic

/-- Every rejection is of a specific kind. -/
theorem RenderFailure.cause_ne_general {p : Placeholder} {ps : Parameters} {e : FormatError}
    (h : RenderFailure p ps (.rejected e)) : e.cause ≠ .general := by
  cases h with
  | emptyName hn => exact nofun
  | missingParameter hn hv => exact nofun
  | choice hn v hv ht hc =>
    cases hc with
    | noInteger ho => exact nofun
    | missing n ho hk => exact nofun

/-- A rejected placeholder has reported nothing: unknown format types are never rejected. -/
theorem RenderFailure.render_eq {p : Placeholder} {ps : Parameters} {e : FormatError}
    (h : RenderFailure p ps (.rejected e)) : p.render ps = .quiet (.error (.rejected e)) := by
  have he := Placeholder.render_error_iff.mpr h
  have hquiet : (p.render ps).events = [] := by
    cases h with
    | emptyName hn =>
      rw [Placeholder.render_of_emptyName hn]
      rfl
    | missingParameter hn hv =>
      rw [Placeholder.render_of_missing hn hv]
      rfl
    | choice hn v hv ht hc =>
      rw [Placeholder.render_of_value hn hv, Placeholder.renderValue_plural ht]
      rfl
  cases hr : p.render ps with
  | mk events outcome =>
    rw [hr] at he hquiet
    cases he
    cases hquiet
    rfl

namespace Segment

theorem renderAll_append (ps : Parameters) (ss ts : List Segment) :
    renderAll ps (ss ++ ts) = (renderAll ps ss).append fun _ => renderAll ps ts := by
  induction ss with
  | nil => exact (Run.nil_append fun _ => renderAll ps ts).symm
  | cons s ss ih => rw [List.cons_append, renderAll, renderAll, ih, Run.append_assoc]

theorem renderAll_append_ok_iff {ps : Parameters} {ss ts : List Segment} {x : Text} :
    (renderAll ps (ss ++ ts)).outcome = .ok x ↔
      ∃ y z, (renderAll ps ss).outcome = .ok y ∧ (renderAll ps ts).outcome = .ok z ∧
        x = y ++ z := by
  rw [renderAll_append]
  exact Run.append_ok_iff

/-- The run ends at the first segment that fails; what comes after it does not matter. -/
theorem renderAll_of_error {ps : Parameters} {before : List Segment} {s : Segment} {x : Text}
    {e : Failure} (hx : (renderAll ps before).outcome = .ok x)
    (hs : (s.render ps).outcome = .error e) (after : List Segment) :
    renderAll ps (before ++ s :: after) =
      ⟨(renderAll ps before).events ++ (s.render ps).events, .error e⟩ := by
  rw [renderAll_append, Run.append_of_ok hx, renderAll, Run.append_of_error hs, hs]
  rfl

/-- A rejected placeholder ends the run after the events of the segments before it. -/
theorem renderAll_of_rejected {ps : Parameters} {before : List Segment} {x content : Text}
    {span : Span} {e : FormatError} (hx : (renderAll ps before).outcome = .ok x)
    (he : RenderFailure (.read content (some span)) ps (.rejected e)) (after : List Segment) :
    renderAll ps (before ++ placeholder content span :: after) =
      ⟨(renderAll ps before).events, .error (.rejected e)⟩ := by
  have hs : (placeholder content span).render ps = .quiet (.error (.rejected e)) := he.render_eq
  rw [renderAll_of_error hx (congrArg Run.outcome hs), hs]
  simp [Run.quiet]

/-- Rendering fails exactly as the first placeholder that does. -/
theorem renderAll_error_iff {ps : Parameters} {ss : List Segment} {e : Failure} :
    (renderAll ps ss).outcome = .error e ↔
      ∃ before p after, ss.filterMap placeholder? = before ++ p :: after ∧
        (∀ q ∈ before, ∃ x, (q.render ps).outcome = .ok x) ∧ (p.render ps).outcome = .error e := by
  constructor
  · intro h
    obtain ⟨before, content, span, after, rfl, hx, hp⟩ := renderAll_error h
    refine ⟨_, .read content (some span), after.filterMap placeholder?, ?_,
      renderAll_ok_iff_placeholders.mp hx, hp⟩
    rw [List.filterMap_append]
    rfl
  · rintro ⟨before, p, after, hss, hbefore, hp⟩
    obtain ⟨first, rest, rfl, hfirst, hrest⟩ := List.filterMap_eq_append_iff.mp hss
    obtain ⟨texts, s, last, rfl, htexts, hs, -⟩ := List.filterMap_eq_cons_iff.mp hrest
    have hnone : texts.filterMap placeholder? = [] := List.filterMap_eq_nil_iff.mpr htexts
    obtain ⟨x, hx⟩ : ∃ x, (renderAll ps (first ++ texts)).outcome = .ok x := by
      rw [renderAll_ok_iff_placeholders, List.filterMap_append, hfirst, hnone, List.append_nil]
      exact hbefore
    cases s with
    | text t => cases hs
    | placeholder content span =>
      cases hs
      rw [← List.append_assoc, renderAll_of_error (s := placeholder content span) hx hp]

end Segment

theorem format_error_iff {template : Text} {ps : Parameters} {e : Failure} :
    (format template ps).outcome = .error e ↔
      ∃ before p after, placeholders template = before ++ p :: after ∧
        (∀ q ∈ before, ∃ x, (q.render ps).outcome = .ok x) ∧ (p.render ps).outcome = .error e := by
  rw [format_outcome]
  exact Segment.renderAll_error_iff

theorem format_of_renderAll_ok {template x : Text} {ps : Parameters}
    (h : (Segment.renderAll ps (segments template)).outcome = .ok x) :
    format template ps = ⟨.started (segments template).length ::
      (Segment.renderAll ps (segments template)).events, .ok x⟩ := by
  simp [format, Run.reportFailure, Run.report, h]

theorem format_of_renderAll_rejected {template : Text} {ps : Parameters} {events : List Event}
    {e : FormatError}
    (h : Segment.renderAll ps (segments template) = ⟨events, .error (.rejected e)⟩) :
    format template ps = ⟨.started (segments template).length :: (events ++ [.failed e.message]),
      .error (.rejected e)⟩ := by
  simp [format, Run.reportFailure, Run.report, h]

/-- A template is rejected for its first placeholder that cannot be rendered. -/
theorem segments_of_format_rejected {template : Text} {ps : Parameters} {e : FormatError}
    (h : (format template ps).outcome = .error (.rejected e)) :
    ∃ before content span after, segments template = before ++ .placeholder content span :: after ∧
      (∃ x, (Segment.renderAll ps before).outcome = .ok x) ∧
      RenderFailure (.read content (some span)) ps (.rejected e) := by
  rw [format_outcome] at h
  obtain ⟨before, content, span, after, hss, hx, hp⟩ := Segment.renderAll_error h
  exact ⟨before, content, span, after, hss, hx, Placeholder.render_error_iff.mp hp⟩

end MessageTemplate
