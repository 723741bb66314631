import MessageTemplate.Introspection
import MessageTemplate.Proofs.PlaceholderPrinting
import MessageTemplate.Proofs.RenderOutcome

/-! Templates without format types. `format_eraseTypes` says that a template may be written with the
names of its placeholders alone where none is plural and the values are scalars. -/
namespace MessageTemplate

namespace Placeholder

/-- A name is read back where it is all that a placeholder has. -/
theorem read_name (content : Text) (span span' : Option Span) :
    read (read content span).name span' =
      { name := (read content span).name
        source := braced (read content span).name
        span := span' } := by
  obtain ⟨parts, rfl⟩ := PlaceholderContent.exists_source content
  have hn : ¬ HasComma 0 (trim parts.name) := by
    rw [hasComma_trim]
    exact parts.not_hasComma_name
  have hread := read_source (.bare (trim parts.name) hn) span'
  simp only [PlaceholderContent.source, PlaceholderContent.name, trim_trim] at hread
  rw [read_source]
  exact hread

end Placeholder

namespace Segment

def text? : Segment → Option Text
  | text content => some content
  | placeholder _ _ => none

def erased : Segment → Text
  | text content => content
  | placeholder content span => braced (Placeholder.read content (some span)).name

/-- The segment that is read where it is written with the name alone. -/
def eraseAt (offset : Nat) : Segment → Segment
  | text content => text content
  | placeholder content span => group offset (Placeholder.read content (some span)).name

def eraseFrom : Nat → List Segment → List Segment
  | _, [] => []
  | offset, s :: ss => s.eraseAt offset :: eraseFrom (offset + s.erased.length) ss

theorem source_eraseAt (offset : Nat) (s : Segment) : (s.eraseAt offset).source = s.erased := by
  cases s <;> rfl

theorem literal_eraseAt (offset : Nat) (s : Segment) : (s.eraseAt offset).literal = s.literal := by
  cases s <;> rfl

theorem isText_eraseAt (offset : Nat) (s : Segment) : (s.eraseAt offset).isText = s.isText := by
  cases s <;> rfl

/-- A name is balanced where the content is. -/
theorem FitsAt.eraseAt {offset : Nat} {s : Segment} (h : s.FitsAt offset) (start : Nat) :
    (s.eraseAt start).FitsAt start := by
  cases s with
  | text content => exact h
  | placeholder content span => exact ⟨h.1.splitFrom.1.trim, rfl, rfl⟩

theorem sources_eraseFrom (start : Nat) (ss : List Segment) :
    sources (eraseFrom start ss) = ss.flatMap erased := by
  induction ss generalizing start with
  | nil => rfl
  | cons s ss ih => rw [eraseFrom, sources_cons, source_eraseAt, ih, List.flatMap_cons]

theorem literals_eraseFrom (start : Nat) (ss : List Segment) :
    literals (eraseFrom start ss) = literals ss := by
  induction ss generalizing start with
  | nil => rfl
  | cons s ss ih => rw [eraseFrom, literals_cons, literal_eraseAt, ih, literals_cons]

/-- Names in the place of contents neither join texts nor pair literal braces. -/
theorem WellFormed.eraseFrom {offset : Nat} {ss : List Segment} (h : WellFormed offset ss)
    (start : Nat) : WellFormed start (eraseFrom start ss) := by
  -- Names are shorter than contents, so the two lists are read at offsets of their own.
  induction ss generalizing offset start with
  | nil => exact wellFormed_nil start
  | cons s ss ih =>
    obtain ⟨hs, hhead, hu, hss⟩ := wellFormed_cons.mp h
    refine wellFormed_cons.mpr ⟨hs.eraseAt start, ?_, ?_, ?_⟩
    · cases ss with
      | nil => exact nofun
      | cons t ss =>
        intro t' ht'
        obtain rfl := Option.some.inj ht'
        rw [isText_eraseAt, isText_eraseAt]
        exact hhead t rfl
    · rwa [literal_eraseAt, literals_eraseFrom]
    · rw [source_eraseAt]
      exact ih hss _

theorem filterMap_eraseFrom {α : Type} {f g : Segment → Option α}
    (h : ∀ start s, f (s.eraseAt start) = g s) (start : Nat) (ss : List Segment) :
    (eraseFrom start ss).filterMap f = ss.filterMap g := by
  induction ss generalizing start with
  | nil => rfl
  | cons s ss ih => rw [eraseFrom, List.filterMap_cons, List.filterMap_cons, h, ih]

theorem placeholder?_eraseAt (start : Nat) (s : Segment) :
    (s.eraseAt start).placeholder?.map (fun p => (p.name, p.formatName, p.body)) =
      s.placeholder?.map fun p => (p.name, none, none) := by
  cases s with
  | text content => rfl
  | placeholder content span =>
    simp only [eraseAt, group, placeholder?, Placeholder.read_name, Option.map_some]

end Segment

def eraseTypes (template : Text) : Text := (segments template).flatMap Segment.erased

theorem segments_eraseTypes (template : Text) :
    segments (eraseTypes template) = Segment.eraseFrom 0 (segments template) := by
  have hwf := (Segment.wellFormed_segments template).eraseFrom 0
  rw [← Segment.segments_sources hwf, Segment.sources_eraseFrom, eraseTypes]

theorem placeholders_eraseTypes (template : Text) :
    (placeholders (eraseTypes template)).map (fun p => (p.name, p.formatName, p.body)) =
      (placeholders template).map fun p => (p.name, none, none) := by
  rw [placeholders, placeholders, segments_eraseTypes, List.map_filterMap, List.map_filterMap]
  exact Segment.filterMap_eraseFrom Segment.placeholder?_eraseAt 0 _

theorem extractParameters_congr {s t : Text}
    (h : (placeholders s).map Placeholder.name = (placeholders t).map Placeholder.name) :
    extractParameters s = extractParameters t := by
  have hnames : ∀ u, (introspect u).map PlaceholderInfo.name =
      (placeholders u).map Placeholder.name := fun u => List.map_map
  rw [extractParameters, extractParameters, parameterNames, parameterNames, hnames, hnames, h]

def Diagnostic.unplaced (d : Diagnostic) : Diagnostic := { d with span := none }

def FormatError.unplaced (e : FormatError) : FormatError :=
  match e.account with
  | .message _ => e
  | .diagnosis d => ⟨e.cause, .diagnosis d.unplaced⟩

def Failure.unplaced : Failure → Failure
  | rejected e => rejected e.unplaced
  | numeral e => numeral e

namespace Run

/-- What a run comes to, whatever the place of a failure. -/
def unplaced (r : Run) : Except Failure Text := r.outcome.mapError Failure.unplaced

theorem unplaced_append (r : Run) (next : Unit → Run) :
    (r.append next).unplaced = r.unplaced.bind fun t => (next ()).unplaced.map (t ++ ·) := by
  unfold unplaced
  cases hr : r.outcome with
  | error e =>
    rw [append_of_error hr, hr]
    rfl
  | ok t =>
    rw [append_of_ok hr]
    cases (next ()).outcome <;> rfl

end Run

/-- No plural, and a scalar if there is a value. -/
def Placeholder.TakesScalar (ps : Parameters) (p : Placeholder) : Prop :=
  p.formatType ≠ .plural ∧ (p.name ≠ [] → ∀ v, ps p.name = some v → v.kind ≠ .nonScalar)

namespace Placeholder

/-- Placeholders of one name come to the same. -/
theorem unplaced_render_congr {p q : Placeholder} {ps : Parameters} (hname : p.name = q.name)
    (hp : p.TakesScalar ps) (hq : q.TakesScalar ps) :
    (p.render ps).unplaced = (q.render ps).unplaced := by
  by_cases hn : q.name = []
  · rw [render_of_emptyName hn, render_of_emptyName (hname.trans hn)]
    rfl
  · have hn' : p.name ≠ [] := hname ▸ hn
    cases hv : ps q.name with
    | none =>
      rw [render_of_missing hn hv, render_of_missing hn' (hname ▸ hv), hname]
      rfl
    | some v =>
      have hk := hq.2 hn v hv
      rw [render_of_value hn hv, render_of_value hn' (hname ▸ hv)]
      unfold Run.unplaced
      rw [renderValue_scalar hp.1 hk, renderValue_scalar hq.1 hk]

end Placeholder

namespace Segment

theorem unplaced_render_eraseAt {s : Segment} {ps : Parameters}
    (h : ∀ p, s.placeholder? = some p → p.TakesScalar ps) (start : Nat) :
    ((s.eraseAt start).render ps).unplaced = (s.render ps).unplaced := by
  cases s with
  | text content => rfl
  | placeholder content span =>
    have hp := h _ rfl
    unfold eraseAt group render
    dsimp only
    rw [Placeholder.read_name]
    exact Placeholder.unplaced_render_congr rfl ⟨nofun, hp.2⟩ hp

theorem unplaced_renderAll_eraseFrom {ss : List Segment} {ps : Parameters}
    (h : ∀ p ∈ ss.filterMap placeholder?, p.TakesScalar ps) (start : Nat) :
    (renderAll ps (eraseFrom start ss)).unplaced = (renderAll ps ss).unplaced := by
  induction ss generalizing start with
  | nil => rfl
  | cons s ss ih =>
    have hs : ∀ p, s.placeholder? = some p → p.TakesScalar ps := fun p hp =>
      h p (List.mem_filterMap.mpr ⟨s, List.mem_cons_self, hp⟩)
    have hss : ∀ p ∈ ss.filterMap placeholder?, p.TakesScalar ps := by
      intro p hp
      obtain ⟨t, ht, htp⟩ := List.mem_filterMap.mp hp
      exact h p (List.mem_filterMap.mpr ⟨t, List.mem_cons_of_mem s ht, htp⟩)
    rw [eraseFrom, renderAll, renderAll, Run.unplaced_append, Run.unplaced_append,
      unplaced_render_eraseAt hs, ih hss]

end Segment

/-- Written with the names alone, a template has the same texts and, without format types and bodies,
the same placeholders, so it has the same parameters. It comes to the same for scalars, but for the
place of a failure, if no placeholder is plural. -/
theorem format_eraseTypes (template : Text) :
    (segments (eraseTypes template)).filterMap Segment.text? =
        (segments template).filterMap Segment.text? ∧
      (placeholders (eraseTypes template)).map (fun p => (p.name, p.formatName, p.body)) =
        (placeholders template).map (fun p => (p.name, none, none)) ∧
      extractParameters (eraseTypes template) = extractParameters template ∧
      ((∀ p ∈ placeholders template, p.formatType ≠ .plural) → ∀ ps : Parameters,
        (∀ name ∈ extractParameters template, ∀ v, ps name = some v → v.kind ≠ .nonScalar) →
          (format (eraseTypes template) ps).unplaced = (format template ps).unplaced) := by
  refine ⟨?_, placeholders_eraseTypes template, ?_, ?_⟩
  · rw [segments_eraseTypes]
    refine Segment.filterMap_eraseFrom (fun start s => ?_) 0 _
    cases s <;> rfl
  · apply extractParameters_congr
    have h := congrArg (List.map Prod.fst) (placeholders_eraseTypes template)
    rwa [List.map_map, List.map_map] at h
  · intro ht ps hps
    unfold Run.unplaced
    rw [format_outcome, format_outcome, segments_eraseTypes]
    apply Segment.unplaced_renderAll_eraseFrom
    intro p hp
    exact ⟨ht p hp, fun hn => hps p.name (mem_extractParameters.mpr ⟨hn, p, hp, rfl⟩)⟩

/-- A comma in a group of a name, an unknown and an empty format type, and braces without
partners. -/
def typedMessage : Text :=
  "\x7d\x7b a\x7bb , c\x7d , date, x\x7d\x7b \x7b n ,number\x7d\x7bm,\x7d".toList

def valuesForTyped : Parameters :=
  .ofList [("a\x7bb , c\x7d".toList, .boolean true), (['n'], .integer 3)]

theorem format_eraseTypes_typedMessage :
    eraseTypes typedMessage = "\x7d\x7ba\x7bb , c\x7d\x7d\x7b \x7bn\x7d\x7bm\x7d".toList ∧
      (∀ p ∈ placeholders typedMessage, p.formatType ≠ .plural) ∧
      (∀ name ∈ extractParameters typedMessage, ∀ v, valuesForTyped name = some v →
        v.kind ≠ .nonScalar) ∧
      (format typedMessage valuesForTyped).outcome =
        .error (.rejected (.ofMissingParameter ['m'] (some ⟨36, 40, by omega⟩))) ∧
      (format (eraseTypes typedMessage) valuesForTyped).unplaced =
        .error (.rejected (.ofMissingParameter ['m'] none)) := by
  obtain ⟨-, -, -, hrun⟩ := format_eraseTypes typedMessage
  have ht : ∀ p ∈ placeholders typedMessage, p.formatType ≠ .plural := by decide
  have hnames : extractParameters typedMessage = ["a\x7bb , c\x7d".toList, ['m'], ['n']] := by decide
  have hps : ∀ name ∈ extractParameters typedMessage, ∀ v, valuesForTyped name = some v →
      v.kind ≠ .nonScalar := by
    rw [hnames]
    intro name hname v hv
    simp only [List.mem_cons, List.not_mem_nil, or_false] at hname
    rcases hname with rfl | rfl | rfl
    · cases hv
      exact nofun
    · cases hv
    · cases hv
      exact nofun
  have hout : (format typedMessage valuesForTyped).outcome =
      .error (.rejected (.ofMissingParameter ['m'] (some ⟨36, 40, by omega⟩))) := rfl
  refine ⟨by decide, ht, hps, hout, ?_⟩
  rw [hrun ht valuesForTyped hps, Run.unplaced, hout]
  rfl

end MessageTemplate
