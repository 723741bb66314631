import MessageTemplate.Placeholder
import MessageTemplate.Proofs.SegmentRoundtrip

/-! Templates cut between two segments. The segments before the cut stay as they are, whatever braces
they leave open, and spans stand in the order of the segments. -/
namespace MessageTemplate

namespace Segment

theorem wellFormed_segments (template : Text) : WellFormed 0 (segments template) := by
  rw [segments_eq_scan]
  exact wellFormed_scan 0 template

theorem sources_segments (template : Text) : sources (segments template) = template := by
  rw [segments_eq_scan]
  exact sources_scan 0 template

theorem segments_sources {ss : List Segment} (h : WellFormed 0 ss) :
    segments (sources ss) = ss := by
  rw [segments_eq_scan]
  exact scan_sources h

theorem WellFormed.of_append {offset : Nat} {before after : List Segment}
    (h : WellFormed offset (before ++ after)) : WellFormed offset before := by
  refine ⟨?_, h.apart.left_of_append, ?_⟩
  · intro ss s ts he
    apply h.fits ss s (ts ++ after)
    rw [he, List.append_assoc, List.cons_append]
  · have hu : Unpaired (literals before ++ literals after) := by
      have := h.unpaired
      rwa [literals, List.flatMap_append] at this
    exact (List.pairwise_append.mp hu).1

/-- Cutting a template between two segments leaves the segments before the cut. -/
theorem segments_take {template : Text} {before after : List Segment}
    (h : segments template = before ++ after) :
    segments (template.take (sources before).length) = before := by
  have hwf : WellFormed 0 (before ++ after) := h ▸ wellFormed_segments template
  have ht : template = sources before ++ sources after := by
    rw [← sources_append, ← h, sources_segments]
  rw [ht, List.take_left]
  exact segments_sources hwf.of_append

theorem sources_length_append_placeholder (before : List Segment) (content : Text) (span : Span) :
    (sources (before ++ [placeholder content span])).length =
      (sources before).length + (content.length + 2) := by
  rw [sources_append, List.length_append, sources_cons, sources_nil, List.append_nil,
    ← braced_length]
  rfl

/-- The span of a placeholder is where its source stands in the template. -/
theorem span_of_segments {template content : Text} {span : Span} {before after : List Segment}
    (h : segments template = before ++ placeholder content span :: after) :
    template = sources before ++ (braced content ++ sources after) ∧
      span.start = (sources before).length ∧
      span.stop = (sources (before ++ [placeholder content span])).length := by
  have hwf : WellFormed 0 (before ++ placeholder content span :: after) :=
    h ▸ wellFormed_segments template
  obtain ⟨-, hstart, hstop⟩ := hwf.fits before _ after rfl
  have hl := braced_length content
  refine ⟨?_, ?_, ?_⟩
  · rw [← sources_segments template, h, sources_append, sources_cons]
    rfl
  · omega
  · rw [sources_length_append_placeholder]
    omega

theorem braced_first (content rest : Text) : (braced content ++ rest)[0]? = some openBrace := rfl

theorem braced_last (content rest : Text) :
    (braced content ++ rest)[content.length + 1]? = some closeBrace := by
  simp [braced]

/-- The span of a placeholder runs from an opening brace to a closing one. -/
theorem braces_of_segments {template content : Text} {span : Span} {before after : List Segment}
    (h : segments template = before ++ placeholder content span :: after) :
    span.start < span.stop ∧ span.stop ≤ template.length ∧
      template[span.start]? = some openBrace ∧ template[span.stop - 1]? = some closeBrace := by
  obtain ⟨htemplate, hstart, hstop⟩ := span_of_segments h
  have hl := braced_length content
  rw [sources_length_append_placeholder] at hstop
  have hlast : span.stop - 1 = (sources before).length + (content.length + 1) := by omega
  have hlength : template.length = (sources before).length +
      ((braced content).length + (sources after).length) := by
    rw [htemplate, List.length_append, List.length_append]
  refine ⟨by omega, by omega, ?_, ?_⟩
  · rw [htemplate, hstart, List.getElem?_append_right le_rfl, Nat.sub_self, braced_first]
  · rw [htemplate, hlast, List.getElem?_append_right (Nat.le_add_right _ _),
      Nat.add_sub_cancel_left, braced_last]

theorem WellFormed.le_start {offset : Nat} {ss : List Segment} (h : WellFormed offset ss)
    {content : Text} {span : Span} (hm : placeholder content span ∈ ss) : offset ≤ span.start := by
  obtain ⟨before, after, rfl⟩ := List.append_of_mem hm
  obtain ⟨-, hstart, -⟩ := h.fits before _ after rfl
  omega

/-- Each placeholder ends before the next begins. -/
theorem WellFormed.pairwise_placeholders {offset : Nat} {ss : List Segment}
    (h : WellFormed offset ss) :
    (ss.filterMap placeholder?).Pairwise fun p q =>
      ∃ a b, p.span = some a ∧ q.span = some b ∧ a.start < a.stop ∧ a.stop ≤ b.start := by
  induction ss generalizing offset with
  | nil => exact .nil
  | cons s ss ih =>
    obtain ⟨hs, -, -, hss⟩ := wellFormed_cons.mp h
    cases s with
    | text content => exact ih hss
    | placeholder content span =>
      refine List.pairwise_cons.mpr ⟨fun q hq => ?_, ih hss⟩
      obtain ⟨t, ht, htq⟩ := List.mem_filterMap.mp hq
      cases t with
      | text content' => cases htq
      | placeholder content' span' =>
        cases htq
        obtain ⟨-, hstart, hstop⟩ := hs
        have hl := braced_length content
        have hle := hss.le_start ht
        change offset + (braced content).length ≤ span'.start at hle
        exact ⟨span, span', rfl, rfl, by omega, by omega⟩

end Segment

end MessageTemplate
