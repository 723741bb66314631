import Mathlib.Data.List.Chain
import Mathlib.Data.Set.Function
import MessageTemplate.Proofs.SegmentJoin

/-! Templates and well-formed segment lists determine each other: splitting a template into its
segments is a bijection, and writing the segments one after the other is its inverse. -/
namespace MessageTemplate

/-- No opening brace has a closing one after it. -/
def Unpaired (t : Text) : Prop := t.Pairwise fun c d => ¬ (c = openBrace ∧ d = closeBrace)

theorem unpaired_openBrace_cons {t : Text} :
    Unpaired (openBrace :: t) ↔ closeBrace ∉ t ∧ Unpaired t := by
  unfold Unpaired
  rw [List.pairwise_cons]
  apply and_congr_left
  intro _
  constructor
  · exact fun h hm => h closeBrace hm ⟨rfl, rfl⟩
  · intro h d hd hpair
    rw [hpair.2] at hd
    exact h hd

theorem unpaired_cons_of_ne {c : Char} (hc : c ≠ openBrace) {t : Text} :
    Unpaired (c :: t) ↔ Unpaired t := by
  simp [Unpaired, List.pairwise_cons, hc]

theorem unpaired_of_notMem {t : Text} (h : openBrace ∉ t) : Unpaired t :=
  List.pairwise_of_forall_mem_list fun _ hc _ _ hpair => h (hpair.1 ▸ hc)

/-- In the absence of pairs, each closing brace closes a group that was open before the text. -/
theorem Unpaired.closesAtMost_zero_iff {t : Text} (h : Unpaired t) :
    ClosesAtMost 0 t ↔ closeBrace ∉ t := by
  constructor
  · intro hc hm
    obtain ⟨p, q, rfl⟩ := List.append_of_mem hm
    have hp : openBrace ∉ p := by
      intro ho
      exact (List.pairwise_append.mp h).2.2 openBrace ho closeBrace (by simp) ⟨rfl, rfl⟩
    have hcount := hc (p ++ [closeBrace]) ⟨q, by simp⟩
    simp [List.count_append, List.count_eq_zero.mpr hp] at hcount
  · intro hm p hp
    have hn : closeBrace ∉ p := fun hpm => hm (hp.subset hpm)
    simp [List.count_eq_zero.mpr hn]

namespace Segment

def isText : Segment → Bool
  | text _ => true
  | placeholder _ _ => false

/-- A text is not empty, and a placeholder has balanced content and the span of its source. -/
def FitsAt (offset : Nat) : Segment → Prop
  | text content => content ≠ []
  | placeholder content span =>
      Balanced content ∧ span.start = offset ∧ span.stop = offset + content.length + 2

/-- Segments in the form in which templates are read: each fits where the sources before it end,
no two texts are neighbours, and no two braces of literal text match. -/
structure WellFormed (offset : Nat) (ss : List Segment) : Prop where
  fits : ∀ before s after, ss = before ++ s :: after →
    s.FitsAt (offset + (sources before).length)
  apart : ss.IsChain fun s t => ¬ (s.isText = true ∧ t.isText = true)
  unpaired : Unpaired (literals ss)

theorem wellFormed_nil (offset : Nat) : WellFormed offset [] :=
  ⟨by simp, .nil, .nil⟩

theorem wellFormed_cons {offset : Nat} {s : Segment} {ss : List Segment} :
    WellFormed offset (s :: ss) ↔ s.FitsAt offset ∧
      (∀ t ∈ ss.head?, ¬ (s.isText = true ∧ t.isText = true)) ∧
      Unpaired (s.literal ++ literals ss) ∧ WellFormed (offset + s.source.length) ss := by
  constructor
  · intro h
    obtain ⟨hh, ha⟩ := List.isChain_cons.mp h.apart
    have hs : s.FitsAt offset := by simpa using h.fits [] s ss rfl
    have hu : Unpaired (literals ss) := (List.pairwise_append.mp h.unpaired).2.1
    refine ⟨hs, hh, h.unpaired, ⟨?_, ha, hu⟩⟩
    intro before t after he
    have := h.fits (s :: before) t after (he ▸ rfl)
    rwa [sources_cons, List.length_append, ← Nat.add_assoc] at this
  · intro h
    obtain ⟨hs, hh, hu, hss⟩ := h
    refine ⟨?_, List.isChain_cons.mpr ⟨hh, hss.apart⟩, hu⟩
    intro before t after he
    rcases List.cons_eq_append_iff.mp he with ⟨rfl, hst⟩ | ⟨before, rfl, hrest⟩
    · obtain ⟨rfl, -⟩ := List.cons.inj hst
      simpa using hs
    · have := hss.fits before t after hrest
      rwa [sources_cons, List.length_append, ← Nat.add_assoc]

theorem WellFormed.merge_text {offset : Nat} {t : Text} {ss : List Segment} (ht : t ≠ [])
    (hu : Unpaired (t ++ literals ss)) (h : WellFormed (offset + t.length) ss) :
    WellFormed offset (merge (text t) ss) := by
  rcases ss with - | ⟨⟨u⟩ | ⟨content, span⟩, rest⟩
  · exact wellFormed_cons.mpr ⟨ht, by simp, hu, h⟩
  · obtain ⟨hu0, hh, -, hr⟩ := wellFormed_cons.mp h
    refine wellFormed_cons.mpr ⟨by simp [FitsAt, ht], hh, ?_, ?_⟩
    · simpa [literals_cons, literal] using hu
    · simpa [source, Nat.add_assoc] using hr
  · exact wellFormed_cons.mpr ⟨ht, by simp [isText], hu, h⟩

/-- Groups count for nothing: only literal braces can close what is open. -/
theorem WellFormed.closesAtMost_sources_iff {offset : Nat} {ss : List Segment}
    (h : WellFormed offset ss) (depth : Nat) :
    ClosesAtMost depth (sources ss) ↔ ClosesAtMost depth (literals ss) := by
  induction ss generalizing offset depth with
  | nil => rfl
  | cons s ss ih =>
    obtain ⟨hs, -, -, hss⟩ := wellFormed_cons.mp h
    rw [sources_cons, literals_cons]
    cases s with
    | text content => exact closesAtMost_append_congr (ih hss) depth
    | placeholder content span =>
      exact (balanced_braced hs.1).closesAtMost_append.trans (ih hss depth)

theorem WellFormed.closesAtMost_zero_iff {offset : Nat} {ss : List Segment}
    (h : WellFormed offset ss) : ClosesAtMost 0 (sources ss) ↔ closeBrace ∉ literals ss :=
  (h.closesAtMost_sources_iff 0).trans h.unpaired.closesAtMost_zero_iff

/-- Scanning yields well-formed segments. An opening brace stays literal only where no literal
closing brace comes after it. -/
theorem wellFormed_scan (offset : Nat) (t : Text) : WellFormed offset (scan offset t) := by
  fun_induction scan offset t with
  | case1 offset => exact wellFormed_nil offset
  | case2 offset t content rest h ih =>
    have hc := (closeGroup_eq_some_iff.mp h).2
    have hl : offset + (group offset content).source.length = offset + content.length + 2 := by
      simp [group, source, braced_length, Nat.add_assoc]
    refine wellFormed_cons.mpr ⟨⟨(balanced_iff content).mpr hc, rfl, rfl⟩, ?_, ih.unpaired, ?_⟩
    · simp [group, isText]
    · rwa [hl]
  | case3 offset t h ih =>
    have hn := ih.closesAtMost_zero_iff.mp
      (by rw [sources_scan]; exact closeGroup_eq_none_iff.mp h)
    rw [prependText_eq_merge]
    exact ih.merge_text (by simp) (unpaired_openBrace_cons.mpr ⟨hn, ih.unpaired⟩)
  | case4 offset c t hc ih =>
    rw [prependText_eq_merge]
    exact ih.merge_text (by simp) ((unpaired_cons_of_ne hc).mpr ih.unpaired)

theorem scan_unpaired {offset : Nat} {t : Text} (h : Unpaired t) :
    scan offset t = if t = [] then [] else [text t] := by
  induction t generalizing offset with
  | nil => exact scan_nil offset
  | cons c t ih =>
    have hm : scan offset (c :: t) = merge (text [c]) (scan (offset + 1) t) := by
      by_cases hc : c = openBrace
      · subst hc
        obtain ⟨hn, ht⟩ := unpaired_openBrace_cons.mp h
        exact scan_open (closeGroup_eq_none_iff.mpr (ht.closesAtMost_zero_iff.mpr hn))
      · exact scan_cons_of_ne hc t
    rw [hm, ih (List.pairwise_cons.mp h).2]
    cases t <;> simp [merge]

theorem scan_braced {offset : Nat} {content : Text} (h : Balanced content) :
    scan offset (braced content) = [group offset content] := by
  have hg := closeGroup_of_balanced h []
  change scan offset (openBrace :: (content ++ [closeBrace])) = _
  rw [scan_group hg, scan_nil]

/-- The source of one well-formed segment is read as that segment. -/
theorem scan_source {offset : Nat} {s : Segment} (hs : s.FitsAt offset) (hu : Unpaired s.literal) :
    scan offset s.source = [s] := by
  cases s with
  | text content =>
    have h := @scan_unpaired offset content hu
    rwa [if_neg hs] at h
  | placeholder content span =>
    obtain ⟨hb, hstart, hstop⟩ := hs
    rw [source, scan_braced hb, group]
    congr 2
    cases span
    simp_all

/-- No literal brace of the first segment opens a group that a literal brace after it closes. -/
theorem WellFormed.seam {offset : Nat} {s : Segment} {ss : List Segment}
    (h : WellFormed offset (s :: ss)) : openBrace ∉ s.literal ∨ ClosesAtMost 0 (sources ss) := by
  obtain ⟨-, -, hu, hss⟩ := wellFormed_cons.mp h
  rw [hss.closesAtMost_zero_iff]
  by_contra hboth
  rw [not_or, not_not, not_not] at hboth
  exact (List.pairwise_append.mp hu).2.2 openBrace hboth.1 closeBrace hboth.2 ⟨rfl, rfl⟩

/-- Scanning the sources of well-formed segments finds these segments. -/
theorem scan_sources {offset : Nat} {ss : List Segment} (h : WellFormed offset ss) :
    scan offset (sources ss) = ss := by
  induction ss generalizing offset with
  | nil => exact scan_nil offset
  | cons s ss ih =>
    obtain ⟨hs, hh, hu, hss⟩ := wellFormed_cons.mp h
    have hone := scan_source hs (List.pairwise_append.mp hu).1
    have hseam : openBrace ∉ literals (scan offset s.source) ∨ ClosesAtMost 0 (sources ss) := by
      rw [hone, literals_cons, literals_nil, List.append_nil]
      exact h.seam
    rw [sources_cons, scan_append hseam, hone, ih hss]
    cases s with
    | text content =>
      rcases ss with - | ⟨⟨t⟩ | ⟨content', span⟩, rest⟩
      · rfl
      · exact absurd ⟨rfl, rfl⟩ (hh (text t) rfl)
      · rfl
    | placeholder content span => rfl

theorem cut_append (before middle after : Text) :
    cut (before ++ (middle ++ after)) before.length (before.length + middle.length : Nat) =
      middle := by
  rw [cut_natCast, List.drop_take, List.drop_left, Nat.add_sub_cancel_left, List.take_left]

theorem WellFormed.span_of_mem {ss : List Segment} (h : WellFormed 0 ss) {content : Text}
    {span : Span} (hm : placeholder content span ∈ ss) :
    span.stop ≤ (sources ss).length ∧ cut (sources ss) span.start span.stop = braced content := by
  obtain ⟨before, after, rfl⟩ := List.append_of_mem hm
  obtain ⟨-, hstart, hstop⟩ := h.fits before _ after rfl
  have hl := braced_length content
  have hsource : (placeholder content span).source = braced content := rfl
  rw [sources_append, sources_cons, hsource]
  constructor
  · simp only [List.length_append]
    omega
  · have h1 : span.start = (sources before).length := by omega
    have h2 : span.stop = (sources before).length + (braced content).length := by omega
    rw [h1, h2, cut_append]

/-- Splitting a template into segments and writing segments are inverse to each other between all
templates and the well-formed lists, and spans cut placeholders out of the template. -/
theorem segments_bijOn_wellFormed :
    Set.BijOn segments Set.univ {ss | WellFormed 0 ss} ∧
      Set.InvOn sources segments Set.univ {ss | WellFormed 0 ss} ∧
      ∀ template content span, placeholder content span ∈ segments template →
        Span.ofBounds span.start span.stop = .ok span ∧ span.stop ≤ template.length ∧
          cut template span.start span.stop = braced content := by
  have hwf : ∀ t, WellFormed 0 (segments t) := by
    intro t
    rw [segments_eq_scan]
    exact wellFormed_scan 0 t
  have hleft : ∀ t, sources (segments t) = t := by
    intro t
    rw [segments_eq_scan]
    exact sources_scan 0 t
  have hinv : Set.InvOn sources segments Set.univ {ss | WellFormed 0 ss} := by
    refine ⟨fun t _ => hleft t, fun ss hss => ?_⟩
    rw [segments_eq_scan]
    exact scan_sources hss
  refine ⟨hinv.bijOn (fun t _ => hwf t) (fun _ _ => Set.mem_univ _), hinv, ?_⟩
  intro template content span hm
  have hspan := (hwf template).span_of_mem hm
  rw [hleft] at hspan
  exact ⟨span.ofBounds_natCast, hspan⟩

/-- Stray closing braces before a nested group and an unclosed one after it. -/
theorem segments_bijOn_wellFormed_nested :
    placeholder "b\x7bc\x7d".toList ⟨2, 8, by omega⟩ ∈
        segments "\x7da\x7bb\x7bc\x7d\x7d\x7b".toList ∧
      cut "\x7da\x7bb\x7bc\x7d\x7d\x7b".toList 2 8 = braced "b\x7bc\x7d".toList := by
  have hm : placeholder "b\x7bc\x7d".toList ⟨2, 8, by omega⟩ ∈
      segments "\x7da\x7bb\x7bc\x7d\x7d\x7b".toList := by decide
  exact ⟨hm, (segments_bijOn_wellFormed.2.2 _ _ _ hm).2.2⟩

end Segment

end MessageTemplate
