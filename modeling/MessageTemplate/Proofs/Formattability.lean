import MessageTemplate.Introspection
import MessageTemplate.Proofs.RenderOutcome

namespace MessageTemplate

namespace PlaceholderInfo

/-- The placeholder has a name, and both categories where it is plural. -/
def Formattable (i : PlaceholderInfo) : Prop :=
  i.name ≠ [] ∧ (i.formatName = some "plural".toList →
    "one".toList ∈ i.categories ∧ "other".toList ∈ i.categories)

instance (i : PlaceholderInfo) : Decidable i.Formattable := inferInstanceAs (Decidable (_ ∧ _))

end PlaceholderInfo

theorem PluralTable.missingKeys_eq_nil_iff_mem_keys {table : PluralTable} :
    table.missingKeys = [] ↔ "one".toList ∈ table.keys ∧ "other".toList ∈ table.keys := by
  rw [missingKeys_eq_nil_iff, mem_keys_iff, mem_keys_iff]
  constructor
  · exact fun h => ⟨h .one, h .other⟩
  · intro h c
    cases c with
    | one => exact h.1
    | other => exact h.2

namespace Placeholder

theorem formattable_iff (p : Placeholder) :
    (PlaceholderInfo.ofPlaceholder p).Formattable ↔
      p.name ≠ [] ∧ (p.formatType = .plural → (PluralTable.ofBody p.body).missingKeys = []) := by
  have hplural : p.formatType = .plural ↔ p.formatName = some "plural".toList :=
    FormatType.ofName_eq_plural_iff p.formatName
  unfold PlaceholderInfo.Formattable
  rw [hplural, PluralTable.missingKeys_eq_nil_iff_mem_keys]
  apply and_congr_right
  intro _
  apply imp_congr_right
  intro hf
  have hc : (PlaceholderInfo.ofPlaceholder p).categories = (PluralTable.ofBody p.body).keys :=
    if_pos hf
  rw [hc]

/-- Parameters that render a placeholder have its name, and its categories are declared. -/
theorem formattable_of_render {p : Placeholder} {ps : Parameters} {x : Text}
    (h : (p.render ps).outcome = .ok x) :
    ps p.name ≠ none ∧ (PlaceholderInfo.ofPlaceholder p).Formattable := by
  have hno := render_ok_iff.mp ⟨x, h⟩
  have hn : p.name ≠ [] := fun hn => hno _ (.emptyName hn)
  have hv : ps p.name ≠ none := fun hv => hno _ (.missingParameter hn hv)
  refine ⟨hv, p.formattable_iff.mpr ⟨hn, fun ht => ?_⟩⟩
  apply Classical.byContradiction
  intro hk
  obtain ⟨v, hv⟩ := Option.ne_none_iff_exists'.mp hv
  -- Whatever the operand is, it fails before the missing keys or with them.
  rcases ho : v.operand? with - | ⟨f | n⟩
  · exact hno _ (.choice hn v hv ht (.noInteger ho))
  · exact hno _ (.choice hn v hv ht (.tooLong f ho))
  · exact hno _ (.choice hn v hv ht (.missing n ho hk))

/-- The integer 1 renders every placeholder that can be rendered. -/
theorem render_one {p : Placeholder} {ps : Parameters} (hv : ps p.name = some (.integer 1))
    (h : (PlaceholderInfo.ofPlaceholder p).Formattable) :
    ∃ x, (p.render ps).outcome = .ok x := by
  obtain ⟨hn, hk⟩ := p.formattable_iff.mp h
  have hvalue : ∀ v, ps p.name = some v → v = .integer 1 :=
    fun v hv' => Option.some.inj (hv'.symm.trans hv)
  have hwrite : writeInt 1 = .ok (numeral 1) := writeInt_of_le (by decide)
  rw [render_ok_iff]
  intro e hr
  cases hr with
  | emptyName hn' => exact hn hn'
  | missingParameter _ hv' =>
    rw [hv] at hv'
    cases hv'
  | choice _ v hv' ht hc =>
    have hone := hvalue v hv'
    subst hone
    cases hc with
    | tooLong f ho => cases ho
    | noInteger ho => cases ho
    | missing n ho hm => exact hm (hk ht)
  | tooLong _ v hv' _ _ f hf =>
    rw [hvalue v hv', Value.toText, hwrite] at hf
    cases hf

theorem render_missingParameter {p : Placeholder} {ps : Parameters} {e : FormatError} {name : Text}
    (h : (p.render ps).outcome = .error (.rejected e)) (hc : e.cause = .missingParameter name) :
    p.name ≠ [] ∧ ps p.name = none := by
  have hr := render_error_iff.mp h
  cases hr with
  | emptyName hn => cases hc
  | missingParameter hn hv => exact ⟨hn, hv⟩
  | choice hn v hv ht hch => cases hch <;> cases hc

end Placeholder

def oneForEach (template : Text) : Parameters :=
  .ofList ((extractParameters template).map fun name => (name, .integer 1))

theorem oneForEach_of_mem {template name : Text} (h : name ∈ extractParameters template) :
    oneForEach template name = some (.integer 1) := by
  unfold oneForEach Parameters.ofList
  rw [List.find?_map, Option.map_map]
  obtain ⟨n, hn⟩ : ∃ n, (extractParameters template).find? (· == name) = some n :=
    Option.isSome_iff_exists.mp (List.find?_isSome.mpr ⟨name, h, by simp⟩)
  change Option.map _ ((extractParameters template).find? (· == name)) = _
  rw [hn]
  rfl

theorem forall_introspect_iff {template : Text} {P : PlaceholderInfo → Prop} :
    (∀ i ∈ introspect template, P i) ↔
      ∀ p ∈ placeholders template, P (PlaceholderInfo.ofPlaceholder p) := by
  unfold introspect
  rw [List.forall_mem_map]

/-- A template can be formatted exactly when each of its placeholders has a name and, if it is
plural, both categories. Then the integer 1 for every name will do. Formatting needs every name, and
misses none when all are given. -/
theorem formattable_iff_introspect (template : Text) :
    ((∃ ps x, (format template ps).outcome = .ok x) ↔
      ∀ i ∈ introspect template, i.Formattable) ∧
    ((∀ i ∈ introspect template, i.Formattable) →
      ∃ x, (format template (oneForEach template)).outcome = .ok x) ∧
    ∀ ps : Parameters,
      ((∃ name ∈ extractParameters template, ps name = none) →
        ∀ x, (format template ps).outcome ≠ .ok x) ∧
      ((∀ name ∈ extractParameters template, ps name ≠ none) →
        ∀ e name, (format template ps).outcome = .error (.rejected e) →
          e.cause ≠ .missingParameter name) := by
  have hones : (∀ i ∈ introspect template, i.Formattable) →
      ∃ x, (format template (oneForEach template)).outcome = .ok x := by
    intro h
    rw [forall_introspect_iff] at h
    refine format_ok_iff.mpr fun p hp => ?_
    have hname := (p.formattable_iff.mp (h p hp)).1
    exact Placeholder.render_one
      (oneForEach_of_mem (mem_extractParameters.mpr ⟨hname, p, hp, rfl⟩)) (h p hp)
  have hformattable : ∀ ps x, (format template ps).outcome = .ok x →
      ∀ p ∈ placeholders template, ps p.name ≠ none ∧
        (PlaceholderInfo.ofPlaceholder p).Formattable := by
    intro ps x hx p hp
    obtain ⟨y, hy⟩ := format_ok_iff.mp ⟨x, hx⟩ p hp
    exact Placeholder.formattable_of_render hy
  refine ⟨⟨?_, fun h => ⟨_, hones h⟩⟩, hones, fun ps => ⟨?_, ?_⟩⟩
  · rintro ⟨ps, x, hx⟩
    exact forall_introspect_iff.mpr fun p hp => (hformattable ps x hx p hp).2
  · rintro ⟨name, hname, hnone⟩ x hx
    obtain ⟨-, p, hp, rfl⟩ := mem_extractParameters.mp hname
    exact (hformattable ps x hx p hp).1 hnone
  · intro hall e name he hc
    obtain ⟨p, hp, hr⟩ := format_error he
    obtain ⟨hn, hv⟩ := Placeholder.render_missingParameter hr hc
    exact hall p.name (mem_extractParameters.mpr ⟨hn, p, hp, rfl⟩) hv

def pluralAfterUntyped : Text := "\x7ba\x7d\x7bb, plural, one\x7bx\x7d other\x7by\x7d\x7d".toList

theorem formattable_iff_introspect_plural :
    (∀ i ∈ introspect pluralAfterUntyped, i.Formattable) ∧
      (∃ x, (format pluralAfterUntyped (oneForEach pluralAfterUntyped)).outcome = .ok x) ∧
      "b".toList ∈ extractParameters pluralAfterUntyped ∧
      ∀ x, (format pluralAfterUntyped (.ofList [("a".toList, .null)])).outcome ≠ .ok x := by
  have hinfos : ∀ i ∈ introspect pluralAfterUntyped, i.Formattable := by decide +kernel
  have hb : "b".toList ∈ extractParameters pluralAfterUntyped := by decide
  obtain ⟨-, hone, hparams⟩ := formattable_iff_introspect pluralAfterUntyped
  exact ⟨hinfos, hone hinfos, hb, (hparams _).1 ⟨_, hb, rfl⟩⟩

end MessageTemplate
