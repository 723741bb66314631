import MessageTemplate.Proofs.Rejections
import MessageTemplate.Proofs.SegmentCuts

/-! Where and when a template is rejected: the span of the error cuts the template into a part that
can be formatted, the placeholder at fault, and a rest that was not looked at. -/
namespace MessageTemplate

/-- A rejection points to a placeholder. The template before it can be formatted, the template up
to its end is rejected with the same error, and after the start nothing is reported but what the
template before it reports and, last, the failure. -/
theorem format_rejected_located {template : Text} {ps : Parameters} {e : FormatError}
    (h : (format template ps).outcome = .error (.rejected e)) :
    ∃ d span, e.diagnostic? = some d ∧ d.span = some span ∧
      span.start < span.stop ∧ span.stop ≤ template.length ∧
      template[span.start]? = some openBrace ∧ template[span.stop - 1]? = some closeBrace ∧
      (∃ x, (format (template.take span.start) ps).outcome = .ok x) ∧
      (format (template.take span.stop) ps).outcome = .error (.rejected e) ∧
      ∃ n k events,
        (format template ps).events = .started n :: (events ++ [.failed e.message]) ∧
        (format (template.take span.start) ps).events = .started k :: events ∧
        (Event.failed e.message).message = "Formatting failed: ".toList ++ e.message := by
  obtain ⟨before, content, span, after, hss, ⟨x, hx⟩, he⟩ := segments_of_format_rejected h
  obtain ⟨d, hd, hspan⟩ := he.diagnostic
  obtain ⟨-, hstart, hstop⟩ := Segment.span_of_segments hss
  obtain ⟨hlt, hle, hfirst, hlast⟩ := Segment.braces_of_segments hss
  have hbefore : segments (template.take span.start) = before := by
    rw [hstart]
    exact Segment.segments_take hss
  have hupto : segments (template.take span.stop) = before ++ [.placeholder content span] := by
    have happend : segments template = (before ++ [.placeholder content span]) ++ after := by
      rw [hss, List.append_assoc, List.singleton_append]
    rw [hstop]
    exact Segment.segments_take happend
  -- All three runs go through the segments before the placeholder; two of them then stop at it.
  have hok := format_of_renderAll_ok (hbefore.symm ▸ hx)
  rw [hbefore] at hok
  have hfull := format_of_renderAll_rejected (hss.symm ▸ Segment.renderAll_of_rejected hx he after)
  have hcut := format_of_renderAll_rejected (hupto.symm ▸ Segment.renderAll_of_rejected hx he [])
  exact ⟨d, span, hd, hspan, hlt, hle, hfirst, hlast, ⟨x, congrArg Run.outcome hok⟩,
    congrArg Run.outcome hcut, _, _, _, congrArg Run.events hfull, congrArg Run.events hok, rfl⟩

/-- An unclosed brace and a pass-through before the placeholder at fault, and after it a second
placeholder without a parameter. -/
def missingAfterPassThrough : Text := "\x7b \x7ba\x7d\x7bb, number\x7d\x7b\x7bc\x7d".toList

def emptyListForA : Parameters := .ofList [(['a'], .collection .list [])]

theorem format_rejected_located_missing :
    ∃ e, e = FormatError.ofMissingParameter ['b'] (some ⟨5, 16, by omega⟩) ∧
      (format missingAfterPassThrough emptyListForA).outcome = .error (.rejected e) ∧
      (∃ x, (format (missingAfterPassThrough.take 5) emptyListForA).outcome = .ok x) ∧
      (format (missingAfterPassThrough.take 16) emptyListForA).outcome = .error (.rejected e) ∧
      ∃ n k events,
        (format missingAfterPassThrough emptyListForA).events =
          .started n :: (events ++ [.failed e.message]) ∧
        (format (missingAfterPassThrough.take 5) emptyListForA).events = .started k :: events := by
  have h : (format missingAfterPassThrough emptyListForA).outcome =
      .error (.rejected (.ofMissingParameter ['b'] (some ⟨5, 16, by omega⟩))) := rfl
  obtain ⟨d, span, hd, hspan, -, -, -, -, hok, hcut, n, k, events, hfull, hbefore, -⟩ :=
    format_rejected_located h
  cases hd
  cases hspan
  exact ⟨_, rfl, h, hok, hcut, n, k, events, hfull, hbefore⟩

end MessageTemplate
