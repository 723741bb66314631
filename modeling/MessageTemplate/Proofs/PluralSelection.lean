import MessageTemplate.Proofs.BodyItems
import MessageTemplate.Proofs.PlaceholderFields
import MessageTemplate.Proofs.RenderOutcome
import MessageTemplate.Proofs.SegmentRoundtrip

namespace MessageTemplate

/-- A declaration of a plural body with the white space before it. -/
structure Declaration where
  gap : Text
  key : Text
  content : Text
  gap_blank : ∀ c ∈ gap, isBlank c = true
  key_ne_nil : key ≠ []
  key_chars : ∀ c ∈ key, isKeyChar c = true
  content_balanced : Balanced content

/-- A template that is one plural placeholder. White space may stand around the name and the word
`plural` and between declarations. -/
structure PluralMessage where
  name : Text
  before : Text
  after : Text
  declarations : List Declaration
  tail : Text
  name_ne_blank : trim name ≠ []
  name_balanced : Balanced name
  name_comma : ¬ HasComma 0 name
  before_blank : ∀ c ∈ before, isBlank c = true
  after_blank : ∀ c ∈ after, isBlank c = true
  tail_blank : ∀ c ∈ tail, isBlank c = true

namespace Declaration

def entry (d : Declaration) : Text × Text := (d.key, d.content)

def source (d : Declaration) : Text := d.gap ++ (d.key ++ braced d.content)

theorem source_balanced (d : Declaration) : Balanced d.source :=
  (balanced_of_blank d.gap_blank).append
    ((balanced_of_isKeyChar d.key_chars).append (balanced_braced d.content_balanced))

def items (d : Declaration) : List BodyItem :=
  BodyItem.blanks d.gap d.gap_blank ++
    [.declaration d.key d.content ⟨d.key_ne_nil, d.key_chars⟩ d.content_balanced]

theorem sources_items (d : Declaration) : BodyItem.sources d.items = d.source := by
  rw [items, BodyItem.sources_append, BodyItem.sources_blanks]
  exact congrArg (d.gap ++ ·) (List.append_nil _)

theorem declarations_items (d : Declaration) : BodyItem.declarations d.items = [d.entry] := by
  rw [items, BodyItem.declarations_append, BodyItem.declarations_blanks]
  rfl

theorem sources_flatMap_items (ds : List Declaration) :
    BodyItem.sources (ds.flatMap items) = ds.flatMap source := by
  rw [BodyItem.sources, List.flatMap_assoc]
  exact List.flatMap_congr fun d _ => d.sources_items

theorem declarations_flatMap_items (ds : List Declaration) :
    BodyItem.declarations (ds.flatMap items) = ds.map entry := by
  induction ds with
  | nil => rfl
  | cons d ds ih =>
    rw [List.flatMap_cons, BodyItem.declarations_append, declarations_items, ih]
    rfl

/-- A key that occurs has a last declaration. -/
theorem exists_last {ds : List Declaration} {key : Text} (h : ∃ d ∈ ds, d.key = key) :
    ∃ before d after, ds = before ++ d :: after ∧ d.key = key ∧ ∀ e ∈ after, e.key ≠ key := by
  induction ds with
  | nil => simp at h
  | cons d ds ih =>
    by_cases hds : ∃ e ∈ ds, e.key = key
    · obtain ⟨before, e, after, rfl, hk, hlast⟩ := ih hds
      exact ⟨d :: before, e, after, rfl, hk, hlast⟩
    · obtain ⟨e, he, hk⟩ := h
      rcases List.mem_cons.mp he with rfl | he
      · exact ⟨[], e, ds, rfl, hk, fun x hx hxk => hds ⟨x, hx, hxk⟩⟩
      · exact absurd ⟨e, he, hk⟩ hds

end Declaration

namespace PluralMessage

def body (t : PluralMessage) : Text := t.declarations.flatMap Declaration.source ++ t.tail

def typeField (t : PluralMessage) : Text := t.before ++ ("plural".toList ++ t.after)

def content (t : PluralMessage) : Text :=
  t.name ++ separator :: (t.typeField ++ separator :: t.body)

def source (t : PluralMessage) : Text := braced t.content

theorem body_balanced (t : PluralMessage) : Balanced t.body := by
  have hds : ∀ ds : List Declaration, Balanced (ds.flatMap Declaration.source) := by
    intro ds
    induction ds with
    | nil => exact balanced_nil
    | cons d ds ih => exact d.source_balanced.append ih
  exact (hds t.declarations).append (balanced_of_blank t.tail_blank)

theorem typeField_balanced (t : PluralMessage) : Balanced t.typeField :=
  (balanced_of_blank t.before_blank).append
    ((balanced_of_notMem (by decide) (by decide)).append (balanced_of_blank t.after_blank))

theorem typeField_comma (t : PluralMessage) : ¬ HasComma 0 t.typeField := by
  have hblank : isBlank separator ≠ true := by decide
  apply not_hasComma_of_notMem
  unfold typeField
  rw [List.mem_append, List.mem_append, not_or, not_or]
  exact ⟨fun h => hblank (t.before_blank _ h), by decide, fun h => hblank (t.after_blank _ h)⟩

theorem content_balanced (t : PluralMessage) : Balanced t.content := by
  have hcomma : Balanced [separator] := by decide
  exact t.name_balanced.append (hcomma.append
    (t.typeField_balanced.append (hcomma.append t.body_balanced)))

theorem read_content (t : PluralMessage) (span : Option Span) :
    Placeholder.read t.content span =
      { name := trim t.name
        formatName := some FormatType.pluralName
        body := some t.body
        source := t.source
        span := span } := by
  have hword : trim t.typeField = FormatType.pluralName := trim_append t.before_blank t.after_blank _
  rw [← hword]
  exact Placeholder.read_fields t.name_comma t.name_balanced.foldl_nesting t.typeField_comma
    t.typeField_balanced.foldl_nesting t.body span

/-- The body is printed from its declarations and the white space around them. -/
theorem ofBody_body (t : PluralMessage) :
    PluralTable.ofBody (some t.body) = .ofList (t.declarations.map Declaration.entry) := by
  have hsource : BodyItem.sources (t.declarations.flatMap Declaration.items ++
      BodyItem.blanks t.tail t.tail_blank) = t.body := by
    rw [BodyItem.sources_append, Declaration.sources_flatMap_items, BodyItem.sources_blanks]
    rfl
  rw [← hsource, PluralTable.ofBody_sources_eq, BodyItem.declarations_append,
    Declaration.declarations_flatMap_items, BodyItem.declarations_blanks, List.append_nil]

/-- A key finds the content of its last declaration. -/
theorem find?_body_of_last {t : PluralMessage} {before after : List Declaration} {d : Declaration}
    (hds : t.declarations = before ++ d :: after) (hlast : ∀ e ∈ after, e.key ≠ d.key) :
    (PluralTable.ofBody (some t.body)).find? d.key = some d.content := by
  have hnone : (after.map Declaration.entry).filter (·.1 = d.key) = [] := by
    rw [List.filter_eq_nil_iff, List.forall_mem_map]
    exact fun e he => mt of_decide_eq_true (hlast e he)
  have hsome : [d.entry].filter (·.1 = d.key) = [d.entry] := by simp [Declaration.entry]
  rw [ofBody_body, hds, PluralTable.find?_ofList, List.map_append, List.map_cons,
    ← List.singleton_append, List.filter_append, List.filter_append, hnone, hsome,
    List.append_nil, List.map_append, List.getLast?_append]
  rfl

theorem format_source_outcome (t : PluralMessage) {ps : Parameters} {v : Value}
    (hv : ps (trim t.name) = some v) :
    (format t.source ps).outcome = choosePlural v (PluralTable.ofBody (some t.body))
      (some (trim t.name)) (some ⟨0, t.content.length + 2, by omega⟩) := by
  rw [source, format_braced_outcome t.content_balanced, read_content]
  simp only [Placeholder.render, t.name_ne_blank, if_false, hv]
  rfl

theorem format_source_of_find {t : PluralMessage} {ps : Parameters} {v : Value} {m : Int}
    {one other : Text} (hv : ps (trim t.name) = some v) (hm : v.operand none none = .ok m)
    (hone : (PluralTable.ofBody (some t.body)).find? "one".toList = some one)
    (hother : (PluralTable.ofBody (some t.body)).find? "other".toList = some other) :
    (format t.source ps).outcome = .ok (if m = 1 then one else other) := by
  rw [t.format_source_outcome hv]
  exact choosePlural_of_find (Value.operand_eq_ok_iff.mp hm) hone hother _ _

/-- Formatting a plural placeholder gives the content of the last declaration of the selected key
as it is written. Where keys are distinct, neither their order nor any white space matters. -/
theorem format_source_selects {t : PluralMessage} {ps : Parameters} {v : Value} {m : Int}
    (hv : ps (trim t.name) = some v) (hm : v.operand none none = .ok m)
    (hone : ∃ d ∈ t.declarations, d.key = "one".toList)
    (hother : ∃ d ∈ t.declarations, d.key = "other".toList) :
    (∃ before d after, t.declarations = before ++ d :: after ∧
      d.key = (if m = 1 then "one".toList else "other".toList) ∧
      (∀ e ∈ after, e.key ≠ d.key) ∧ (format t.source ps).outcome = .ok d.content) ∧
    ∀ u : PluralMessage, trim u.name = trim t.name →
      (t.declarations.map Declaration.key).Nodup →
      (u.declarations.map Declaration.entry).Perm (t.declarations.map Declaration.entry) →
      (format u.source ps).outcome = (format t.source ps).outcome := by
  obtain ⟨before1, d1, after1, hds1, hk1, hlast1⟩ := Declaration.exists_last hone
  obtain ⟨before2, d2, after2, hds2, hk2, hlast2⟩ := Declaration.exists_last hother
  have hfind1 := find?_body_of_last hds1 (hk1 ▸ hlast1)
  have hfind2 := find?_body_of_last hds2 (hk2 ▸ hlast2)
  rw [hk1] at hfind1
  rw [hk2] at hfind2
  have hformat := format_source_of_find hv hm hfind1 hfind2
  constructor
  · rw [hformat]
    by_cases h : m = 1
    · exact ⟨before1, d1, after1, hds1, by rw [hk1, if_pos h], hk1 ▸ hlast1, by rw [if_pos h]⟩
    · exact ⟨before2, d2, after2, hds2, by rw [hk2, if_neg h], hk2 ▸ hlast2, by rw [if_neg h]⟩
  · intro u hname hnodup hperm
    have hkeys : (t.declarations.map Declaration.entry).map Prod.fst =
        t.declarations.map Declaration.key := List.map_map
    have htable : PluralTable.ofBody (some u.body) = PluralTable.ofBody (some t.body) := by
      rw [ofBody_body, ofBody_body, PluralTable.ofList_eq_of_perm hperm (hkeys ▸ hnodup)]
    rw [← htable] at hfind1 hfind2
    rw [hformat, format_source_of_find (hname ▸ hv) hm hfind1 hfind2]

/-- A name with a nested comma, a repeated key, and a category text with commas and groups. -/
def nested : PluralMessage where
  name := " n\x7b,\x7d ".toList
  before := [' ']
  after := ['\t', ' ']
  declarations :=
    [⟨[], "one".toList, "a".toList, by simp, by decide, List.all_eq_true.mp rfl, by decide⟩,
      ⟨[' '], "other".toList, "b".toList, List.all_eq_true.mp rfl, by decide,
        List.all_eq_true.mp rfl, by decide⟩,
      ⟨[], "one".toList, "c, \x7bd\x7d".toList, by simp, by decide, List.all_eq_true.mp rfl,
        by decide⟩]
  tail := ['\n']
  name_ne_blank := by decide
  name_balanced := by decide
  name_comma := by decide
  before_blank := List.all_eq_true.mp rfl
  after_blank := List.all_eq_true.mp rfl
  tail_blank := List.all_eq_true.mp rfl

theorem format_source_selects_nested :
    (∃ d ∈ nested.declarations, d.key = "one".toList) ∧
      (∃ d ∈ nested.declarations, d.key = "other".toList) ∧
      ∃ before d after, nested.declarations = before ++ d :: after ∧ d.key = "one".toList ∧
        (∀ e ∈ after, e.key ≠ d.key) ∧
        (format nested.source (.ofList [("n\x7b,\x7d".toList, .text "+01".toList)])).outcome =
          .ok d.content := by
  have hone : ∃ d ∈ nested.declarations, d.key = "one".toList := ⟨_, List.mem_cons_self, rfl⟩
  have hother : ∃ d ∈ nested.declarations, d.key = "other".toList :=
    ⟨_, List.mem_cons_of_mem _ List.mem_cons_self, rfl⟩
  have hv : Parameters.ofList [("n\x7b,\x7d".toList, .text "+01".toList)] (trim nested.name) =
      some (.text "+01".toList) := rfl
  exact ⟨hone, hother, (format_source_selects hv (m := 1) rfl hone hother).1⟩

end PluralMessage

end MessageTemplate
