import MessageTemplate.Proofs.Concatenation
import MessageTemplate.Proofs.ParameterUse
import MessageTemplate.Proofs.Rejections
import MessageTemplate.Proofs.SegmentCuts

/-! Formatting in two runs. The first run is given composite values for some names, so their
placeholders pass through; its text is the template of a second run, which gives them their values.
Both runs together come to what one run comes to. -/
namespace MessageTemplate

namespace Placeholder

/-- A placeholder that is rendered has a name and a value. -/
theorem exists_value_of_render {p : Placeholder} {ps : Parameters} {x : Text}
    (h : (p.render ps).outcome = .ok x) : p.name ≠ [] ∧ ∃ v, ps p.name = some v := by
  have hno := render_ok_iff.mp ⟨x, h⟩
  have hn : p.name ≠ [] := fun hn => hno _ (.emptyName hn)
  exact ⟨hn, Option.ne_none_iff_exists'.mp fun hv => hno _ (.missingParameter hn hv)⟩

theorem render_passedThrough {p : Placeholder} {ps : Parameters} {v : Value} (hn : p.name ≠ [])
    (ht : p.formatType = .untyped) (hv : ps p.name = some v) (hk : v.kind = .nonScalar) :
    (p.render ps).outcome = .ok p.source := by
  rw [render_of_value hn hv, renderValue_untyped_outcome ht, if_pos hk]

/-- Without a format type, the text of a placeholder does not depend on where it stands. -/
theorem render_untyped_moved {content x : Text} {span span' : Option Span} {ps qs : Parameters}
    (ht : (read content span).formatType = .untyped)
    (hv : qs (read content span).name = ps (read content span).name)
    (h : ((read content span).render ps).outcome = .ok x) :
    ((read content span').render qs).outcome = .ok x := by
  obtain ⟨hn, v, hps⟩ := exists_value_of_render h
  rw [render_of_value hn hps, renderValue_untyped_outcome ht] at h
  -- Name, format type and source are the same wherever the content stands.
  have hn' : (read content span').name ≠ [] := hn
  have ht' : (read content span').formatType = .untyped := ht
  rw [render_of_value hn' (hv.trans hps), renderValue_untyped_outcome ht']
  exact h

end Placeholder

namespace Segment

theorem literals_scan_unpaired {t : Text} (h : Unpaired t) (offset : Nat) :
    literals (scan offset t) = t := by
  rw [scan_unpaired h]
  split
  · rename_i ht
    exact ht.symm
  · exact List.append_nil t

/-- A text without pairs of braces is rendered as it is. -/
theorem renderAll_scan_unpaired {t : Text} (h : Unpaired t) (offset : Nat) (ps : Parameters) :
    (renderAll ps (scan offset t)).outcome = .ok t := by
  rw [scan_unpaired h]
  split
  · rename_i ht
    rw [ht]
    rfl
  · exact renderAll_cons_ok_iff.mpr ⟨t, [], rfl, rfl, (List.append_nil t).symm⟩

/-- Segments that are all left as they are written. -/
theorem renderAll_of_sources {ps : Parameters} {ss : List Segment}
    (h : ∀ s ∈ ss, (s.render ps).outcome = .ok s.source) :
    (renderAll ps ss).outcome = .ok (sources ss) := by
  induction ss with
  | nil => rfl
  | cons s ss ih =>
    obtain ⟨hs, hss⟩ := List.forall_mem_cons.mp h
    exact renderAll_cons_ok_iff.mpr ⟨_, _, hs, ih hss, rfl⟩

end Segment

/-- A first run leaves some names of a template to a second one. Their placeholders have no format
type and they get composite values; all other names keep their values, and no text that replaces
one of their placeholders has a brace. -/
structure Defers (template : Text) (names : Set Text) (ps first : Parameters) : Prop where
  untyped : ∀ p ∈ placeholders template, p.name ∈ names → p.formatType = .untyped
  agree : Set.EqOn first ps namesᶜ
  composite : ∀ name ∈ names, ∃ v, first name = some v ∧ v.kind = .nonScalar
  plain : ∀ p ∈ placeholders template, p.name ∉ names → ∀ x, (p.render first).outcome = .ok x →
    openBrace ∉ x ∧ closeBrace ∉ x

/-- What a first run makes of a segment: literal text stays, a placeholder is filled with text
without braces, or it is passed on to the second run. -/
inductive Staged (names : Set Text) (ps : Parameters) : Segment → Text → Prop
  | literal (content : Text) : Staged names ps (.text content) content
  | filled {content : Text} {span : Span} {x : Text}
      (hx : ((Placeholder.read content (some span)).render ps).outcome = .ok x)
      (ho : openBrace ∉ x) (hc : closeBrace ∉ x) : Staged names ps (.placeholder content span) x
  | passed {content : Text} {span : Span}
      (hn : (Placeholder.read content (some span)).name ∈ names)
      (ht : (Placeholder.read content (some span)).formatType = .untyped) :
      Staged names ps (.placeholder content span) (braced content)

theorem mem_placeholders_of_segment {template content : Text} {span : Span}
    (h : .placeholder content span ∈ segments template) :
    Placeholder.read content (some span) ∈ placeholders template :=
  List.mem_filterMap.mpr ⟨_, h, rfl⟩

/-- The first run leaves a placeholder of the names as it is written. -/
theorem Defers.eq_braced_of_render {template : Text} {names : Set Text} {ps first : Parameters}
    (h : Defers template names ps first) {content : Text} {span : Span}
    (hs : .placeholder content span ∈ segments template)
    (hn : (Placeholder.read content (some span)).name ∈ names) {x : Text}
    (hx : ((Placeholder.read content (some span)).render first).outcome = .ok x) :
    x = braced content := by
  have ht := h.untyped _ (mem_placeholders_of_segment hs) hn
  obtain ⟨v, hv, hk⟩ := h.composite _ hn
  have hname := (Placeholder.exists_value_of_render hx).1
  exact Except.ok.inj (hx.symm.trans (Placeholder.render_passedThrough hname ht hv hk))

theorem Defers.staged {template : Text} {names : Set Text} {ps first : Parameters}
    (h : Defers template names ps first) {s : Segment} (hs : s ∈ segments template) {x : Text}
    (hx : (s.render first).outcome = .ok x) : Staged names ps s x := by
  cases s with
  | text content => exact Except.ok.inj hx ▸ .literal content
  | placeholder content span =>
    have hp := mem_placeholders_of_segment hs
    by_cases hn : (Placeholder.read content (some span)).name ∈ names
    · rw [h.eq_braced_of_render hs hn hx]
      exact .passed hn (h.untyped _ hp hn)
    · obtain ⟨ho, hc⟩ := h.plain _ hp hn x hx
      have hsame := Placeholder.render_congr fun _ => h.agree hn
      exact .filled (hsame ▸ hx) ho hc

namespace Staged

variable {names : Set Text} {ps second : Parameters} {s : Segment} {x : Text} {offset : Nat}

/-- The first run opens and closes no groups but those of the template. -/
theorem closesAtMost_append_iff (h : Staged names ps s x) (hs : s.FitsAt offset) {t u : Text}
    (htu : ∀ depth, ClosesAtMost depth t ↔ ClosesAtMost depth u) (depth : Nat) :
    ClosesAtMost depth (x ++ t) ↔ ClosesAtMost depth (s.source ++ u) := by
  cases h with
  | literal content => exact closesAtMost_append_congr htu depth
  | filled hx ho hc =>
    rw [(balanced_of_notMem ho hc).closesAtMost_append,
      Segment.source, (balanced_braced hs.1).closesAtMost_append, htu]
  | passed hn ht => exact closesAtMost_append_congr htu depth

theorem openBrace_mem_literal (h : Staged names ps s x) (hs : s.FitsAt offset)
    (hu : Unpaired s.literal) {start : Nat}
    (hm : openBrace ∈ Segment.literals (Segment.scan start x)) :
    openBrace ∈ s.literal := by
  cases h with
  | literal content =>
    have ht : Unpaired x := hu
    rw [Segment.literals_scan_unpaired ht] at hm
    exact hm
  | filled hx ho hc =>
    rw [Segment.literals_scan_unpaired (unpaired_of_notMem ho)] at hm
    exact absurd hm ho
  | passed hn ht =>
    rw [Segment.scan_braced hs.1] at hm
    simp [Segment.group, Segment.literal] at hm

/-- The second run makes of the text of the first what one run makes of the segment. -/
theorem renderAll_scan (h : Staged names ps s x) (hs : s.FitsAt offset) (hu : Unpaired s.literal)
    (hsecond : Set.EqOn second ps names) {y : Text} (hy : (s.render ps).outcome = .ok y)
    (start : Nat) : (Segment.renderAll second (Segment.scan start x)).outcome = .ok y := by
  cases h with
  | literal content =>
    cases hy
    exact Segment.renderAll_scan_unpaired hu start second
  | filled hx ho hc =>
    obtain rfl := Except.ok.inj (hx.symm.trans hy)
    exact Segment.renderAll_scan_unpaired (unpaired_of_notMem ho) start second
  | passed hn ht =>
    rw [Segment.scan_braced hs.1]
    exact Segment.renderAll_cons_ok_iff.mpr ⟨y, [],
      Placeholder.render_untyped_moved ht (hsecond hn) hy, rfl, (List.append_nil y).symm⟩

end Staged

namespace Segment

variable {names : Set Text} {ps first second : Parameters} {ss : List Segment} {offset : Nat}
  {x y : Text}

theorem closesAtMost_staged (hwf : WellFormed offset ss)
    (hst : ∀ s ∈ ss, ∀ x, (s.render first).outcome = .ok x → Staged names ps s x)
    (hx : (renderAll first ss).outcome = .ok x) (depth : Nat) :
    ClosesAtMost depth x ↔ ClosesAtMost depth (sources ss) := by
  induction ss generalizing offset x depth with
  | nil =>
    cases hx
    rfl
  | cons s ss ih =>
    obtain ⟨hs, -, -, hss⟩ := wellFormed_cons.mp hwf
    obtain ⟨hfirst, hrest⟩ := List.forall_mem_cons.mp hst
    obtain ⟨u, t, hu, ht, rfl⟩ := renderAll_cons_ok_iff.mp hx
    exact (hfirst u hu).closesAtMost_append_iff hs (fun d => ih hss hrest ht d) depth

/-- The second run on the text of the first comes to what one run comes to. -/
theorem renderAll_scan_staged (hwf : WellFormed offset ss)
    (hst : ∀ s ∈ ss, ∀ x, (s.render first).outcome = .ok x → Staged names ps s x)
    (hsecond : Set.EqOn second ps names) (hx : (renderAll first ss).outcome = .ok x)
    (hy : (renderAll ps ss).outcome = .ok y) (start : Nat) :
    (renderAll second (scan start x)).outcome = .ok y := by
  induction ss generalizing offset x y start with
  | nil =>
    cases hx
    rw [scan_nil]
    exact hy
  | cons s ss ih =>
    obtain ⟨hs, -, hu, hss⟩ := wellFormed_cons.mp hwf
    obtain ⟨hfirst, hrest⟩ := List.forall_mem_cons.mp hst
    obtain ⟨x, t, hxs, ht, rfl⟩ := renderAll_cons_ok_iff.mp hx
    obtain ⟨y, z, hys, hz, rfl⟩ := renderAll_cons_ok_iff.mp hy
    have hstage := hfirst x hxs
    have hliteral : Unpaired s.literal := (List.pairwise_append.mp hu).1
    -- The text of the first run has no more pairs of braces across the seam than the template.
    have hseam : openBrace ∉ literals (scan start x) ∨ ClosesAtMost 0 t :=
      hwf.seam.imp (fun hn hm => hn (hstage.openBrace_mem_literal hs hliteral hm))
        (closesAtMost_staged hss hrest ht 0).mpr
    rw [scan_append hseam, renderAll_join]
    exact Run.append_ok_iff.mpr ⟨y, z, hstage.renderAll_scan hs hliteral hsecond hys start,
      ih hss hrest ht hz _, rfl⟩

end Segment

namespace Defers

variable {template x : Text} {names : Set Text} {ps first second : Parameters}

/-- What the first run leaves stands in its text as it is written, behind what it makes of the
template before it. -/
theorem source_in_place (h : Defers template names ps first)
    (hx : (format template first).outcome = .ok x) {before after : List Segment} {content : Text}
    {span : Span} (hss : segments template = before ++ .placeholder content span :: after)
    (hn : (Placeholder.read content (some span)).name ∈ names) :
    ∃ u v, (format (template.take span.start) first).outcome = .ok u ∧
      (Segment.renderAll first after).outcome = .ok v ∧
      x = u ++ (cut template span.start span.stop ++ v) := by
  have hm : .placeholder content span ∈ segments template := by simp [hss]
  rw [format_outcome, hss] at hx
  obtain ⟨u, w, hu, hw, rfl⟩ := Segment.renderAll_append_ok_iff.mp hx
  obtain ⟨z, v, hz, hv, rfl⟩ := Segment.renderAll_cons_ok_iff.mp hw
  refine ⟨u, v, ?_, hv, ?_⟩
  · rw [format_outcome, (Segment.span_of_segments hss).2.1, Segment.segments_take hss]
    exact hu
  · have hcut := ((Segment.wellFormed_segments template).span_of_mem hm).2
    rw [Segment.sources_segments] at hcut
    rw [hcut, h.eq_braced_of_render hm hn hz]

theorem format_ok (h : Defers template names ps first)
    (hx : (format template first).outcome = .ok x)
    (hps : ∀ p ∈ placeholders template, p.name ∈ names → ∃ y, (p.render ps).outcome = .ok y) :
    ∃ y, (format template ps).outcome = .ok y := by
  refine format_ok_iff.mpr fun p hp => ?_
  by_cases hn : p.name ∈ names
  · exact hps p hp hn
  · rw [← Placeholder.render_congr fun _ => h.agree hn]
    exact format_ok_iff.mp ⟨x, hx⟩ p hp

/-- Both runs come to what one run comes to. -/
theorem second_run (h : Defers template names ps first)
    (hx : (format template first).outcome = .ok x) (hsecond : Set.EqOn second ps names)
    (hps : ∀ p ∈ placeholders template, p.name ∈ names → ∃ y, (p.render ps).outcome = .ok y) :
    ∃ y, (format template ps).outcome = .ok y ∧ (format x second).outcome = .ok y := by
  obtain ⟨y, hy⟩ := h.format_ok hx hps
  refine ⟨y, hy, ?_⟩
  have hst : ∀ s ∈ segments template, ∀ x, (s.render first).outcome = .ok x →
      Staged names ps s x := fun s hs x hx => h.staged hs hx
  rw [format_outcome] at hx hy
  rw [format_outcome, segments_eq_scan]
  exact Segment.renderAll_scan_staged (Segment.wellFormed_segments template) hst hsecond hx hy 0

end Defers

/-- A run that leaves all placeholders returns the template. -/
theorem format_eq_template {template : Text} {ps : Parameters}
    (h : ∀ p ∈ placeholders template, p.formatType = .untyped ∧ p.name ≠ [] ∧
      ∃ v, ps p.name = some v ∧ v.kind = .nonScalar) :
    (format template ps).outcome = .ok template := by
  have hsources : ∀ s ∈ segments template, (s.render ps).outcome = .ok s.source := by
    intro s hs
    cases s with
    | text content => rfl
    | placeholder content span =>
      obtain ⟨ht, hn, v, hv, hk⟩ := h _ (mem_placeholders_of_segment hs)
      exact Placeholder.render_passedThrough hn ht hv hk
  rw [format_outcome, Segment.renderAll_of_sources hsources, Segment.sources_segments]

/-- Formatting in two runs. Placeholders that the first run leaves to the second stay in its text as
they are written, and the second run then comes to what one run comes to. A run that leaves all
placeholders returns the template. -/
theorem format_staged (template : Text) (names : Set Text) (ps first : Parameters) :
    (Defers template names ps first → ∀ x, (format template first).outcome = .ok x →
      (∀ before content span after,
        segments template = before ++ .placeholder content span :: after →
        (Placeholder.read content (some span)).name ∈ names →
        ∃ u v, (format (template.take span.start) first).outcome = .ok u ∧
          (Segment.renderAll first after).outcome = .ok v ∧
          x = u ++ (cut template span.start span.stop ++ v)) ∧
      ∀ second, Set.EqOn second ps names →
        (∀ p ∈ placeholders template, p.name ∈ names → ∃ y, (p.render ps).outcome = .ok y) →
        ∃ y, (format template ps).outcome = .ok y ∧ (format x second).outcome = .ok y) ∧
    ((∀ p ∈ placeholders template, p.formatType = .untyped ∧ p.name ≠ [] ∧
        ∃ v, first p.name = some v ∧ v.kind = .nonScalar) →
      (format template first).outcome = .ok template) := by
  refine ⟨fun hdefers x hx => ⟨?_, ?_⟩, format_eq_template⟩
  · intro before content span after hss hn
    exact hdefers.source_in_place hx hss hn
  · intro second hsecond hps
    exact hdefers.second_run hx hsecond hps

/-- Two placeholders for `a` with white space of their own, a number between them, and braces without
partners around them. -/
def twiceA : Text := "\x7d\x7b a \x7d\x7bb, number\x7d\x7b\x7b\ta , \x7d".toList

/-- The value of `a` looks like a placeholder. -/
def bracesForA : Parameters := .ofList [(['a'], .text "\x7bb\x7d".toList), (['b'], .boolean true)]

def listForA : Parameters := .ofList [(['a'], .collection .list []), (['b'], .boolean true)]

def onlyBracesForA : Parameters := .ofList [(['a'], .text "\x7bb\x7d".toList)]

theorem defers_twiceA : Defers twiceA {['a']} bracesForA listForA := by
  refine ⟨?_, ?_, ?_, ?_⟩
  · change ∀ p ∈ placeholders twiceA, p.name = ['a'] → p.formatType = .untyped
    decide
  · intro name hname
    have hne : (['a'] == name) = false := beq_false_of_ne fun h => hname h.symm
    simp [listForA, bracesForA, Parameters.ofList, List.find?, hne]
  · rintro name rfl
    exact ⟨.collection .list [], rfl, rfl⟩
  · intro p hp hn x hx
    have hnames : ∀ q ∈ placeholders twiceA, q.name ≠ ['a'] →
        q = .read "b, number".toList (some ⟨6, 17, by omega⟩) := by decide
    rw [hnames p hp hn] at hx
    have htrue : x = "true".toList := (Except.ok.inj hx).symm
    rw [htrue]
    decide

theorem format_staged_twiceA :
    (format twiceA listForA).outcome = .ok "\x7d\x7b a \x7dtrue\x7b\x7b\ta , \x7d".toList ∧
      (∃ u v, (format (twiceA.take 1) listForA).outcome = .ok u ∧
        "\x7d\x7b a \x7dtrue\x7b\x7b\ta , \x7d".toList = u ++ ("\x7b a \x7d".toList ++ v)) ∧
      (∃ y, (format twiceA bracesForA).outcome = .ok y ∧
        (format "\x7d\x7b a \x7dtrue\x7b\x7b\ta , \x7d".toList onlyBracesForA).outcome = .ok y) ∧
      (format "\x7b a \x7d\x7b".toList listForA).outcome = .ok "\x7b a \x7d\x7b".toList := by
  have hx : (format twiceA listForA).outcome =
      .ok "\x7d\x7b a \x7dtrue\x7b\x7b\ta , \x7d".toList := rfl
  obtain ⟨hplace, hsecond⟩ := (format_staged twiceA _ _ _).1 defers_twiceA _ hx
  have hss : segments twiceA = [.text [closeBrace]] ++ .placeholder " a ".toList ⟨1, 6, by omega⟩ ::
      [.placeholder "b, number".toList ⟨6, 17, by omega⟩, .text [openBrace],
        .placeholder "\ta , ".toList ⟨18, 25, by omega⟩] := by decide
  refine ⟨hx, ?_, ?_, ?_⟩
  · obtain ⟨u, v, hu, -, huv⟩ := hplace _ _ _ _ hss rfl
    exact ⟨u, v, hu, huv⟩
  · apply hsecond onlyBracesForA
    · rintro name rfl
      rfl
    · intro p hp hn
      have hall :
          ∀ q ∈ placeholders twiceA, q.name = ['a'] → q.name ≠ [] ∧ q.formatType = .untyped := by
        decide
      obtain ⟨hne, ht⟩ := hall p hp hn
      have hv : bracesForA p.name = some (.text "\x7bb\x7d".toList) := by
        rw [hn]
        rfl
      rw [Placeholder.render_of_value hne hv, Placeholder.renderValue_untyped_outcome ht]
      exact ⟨_, rfl⟩
  · apply (format_staged _ ∅ listForA listForA).2
    intro p hp
    have hall : ∀ q ∈ placeholders "\x7b a \x7d\x7b".toList,
        q.formatType = .untyped ∧ q.name = ['a'] := by decide
    obtain ⟨ht, hn⟩ := hall p hp
    rw [hn]
    exact ⟨ht, by decide, .collection .list [], rfl, rfl⟩

end MessageTemplate
