import MessageTemplate.Proofs.Runs

namespace MessageTemplate

namespace Value

variable {v : Value} {name : Option Text} {span : Option Span}

theorem operand_eq_ok_iff {n : Int} :
    v.operand name span = .ok n ↔ v.operand? = some (.ok n) := by
  rcases hv : v.operand? with - | ⟨f | m⟩ <;> simp [operand, hv]

theorem operand_eq_numeral_iff {e : NumeralError} :
    v.operand name span = .error (.numeral e) ↔ v.operand? = some (.error e) := by
  rcases hv : v.operand? with - | ⟨f | n⟩ <;> simp [operand, hv]

theorem operand_eq_rejected_iff {r : FormatError} :
    v.operand name span = .error (.rejected r) ↔
      v.operand? = none ∧ r = .ofPluralValue v name span := by
  rcases hv : v.operand? with - | ⟨f | n⟩ <;> simp [operand, hv, eq_comm]

end Value

theorem PluralTable.mem_keys_iff {table : PluralTable} {key : Text} :
    key ∈ table.keys ↔ (table.find? key).isSome = true := by
  rw [find?, List.lookup_isSome_iff, keys, List.mem_map]
  simp only [beq_iff_eq, eq_comm (b := key)]

theorem choosePlural_of_find {v : Value} {table : PluralTable} {n : Int} {one other : Text}
    (hv : v.operand? = some (.ok n)) (hone : table.find? "one".toList = some one)
    (hother : table.find? "other".toList = some other) (name : Option Text) (span : Option Span) :
    choosePlural v table name span = .ok (if n = 1 then one else other) := by
  have hc : table.choices name span = .ok ⟨one, other⟩ := by
    unfold PluralTable.choices
    simp only [PluralCategory.key, hone, hother]
  unfold choosePlural
  rw [Value.operand_eq_ok_iff.mpr hv, hc]
  change Except.ok (PluralChoices.text ⟨one, other⟩ (PluralCategory.ofInt n)) = _
  unfold PluralCategory.ofInt
  split <;> rfl

inductive ChoiceFailure (v : Value) (table : PluralTable) (name : Option Text) (span : Option Span) :
    Failure → Prop
  | tooLong (e : NumeralError) (hv : v.operand? = some (.error e)) :
      ChoiceFailure v table name span (.numeral e)
  | noInteger (hv : v.operand? = none) :
      ChoiceFailure v table name span (.rejected (.ofPluralValue v name span))
  | missing (n : Int) (hv : v.operand? = some (.ok n)) (hk : table.missingKeys ≠ []) :
      ChoiceFailure v table name span (.rejected (.ofMissingKeys table.missingKeys name span))

theorem choosePlural_of_missing {v : Value} {table : PluralTable} {n : Int}
    (hv : v.operand? = some (.ok n)) (hk : table.missingKeys ≠ []) (name : Option Text)
    (span : Option Span) :
    choosePlural v table name span =
      .error (.rejected (.ofMissingKeys table.missingKeys name span)) := by
  have hc : table.choices name span = .error (.ofMissingKeys table.missingKeys name span) := by
    unfold PluralTable.choices
    split
    · rename_i one other hone hother
      refine absurd (table.missingKeys_eq_nil_iff.mpr ?_) hk
      intro c
      cases c with
      | one => rw [hone]; rfl
      | other => rw [hother]; rfl
    · rfl
  unfold choosePlural
  rw [Value.operand_eq_ok_iff.mpr hv, hc]
  rfl

theorem choosePlural_error_iff {v : Value} {table : PluralTable} {name : Option Text}
    {span : Option Span} {e : Failure} :
    choosePlural v table name span = .error e ↔ ChoiceFailure v table name span e := by
  have hnone : v.operand? = none →
      choosePlural v table name span = .error (.rejected (.ofPluralValue v name span)) := by
    intro hv
    unfold choosePlural
    rw [Value.operand_eq_rejected_iff.mpr ⟨hv, rfl⟩]
    rfl
  have hlong : ∀ f, v.operand? = some (.error f) →
      choosePlural v table name span = .error (.numeral f) := by
    intro f hv
    unfold choosePlural
    rw [Value.operand_eq_numeral_iff.mpr hv]
    rfl
  constructor
  · intro h
    rcases hv : v.operand? with - | ⟨f | n⟩
    · rw [hnone hv] at h
      cases h
      exact .noInteger hv
    · rw [hlong f hv] at h
      cases h
      exact .tooLong f hv
    · by_cases hk : table.missingKeys = []
      · have hall := table.missingKeys_eq_nil_iff.mp hk
        obtain ⟨one, hone⟩ := Option.isSome_iff_exists.mp (hall .one)
        obtain ⟨other, hother⟩ := Option.isSome_iff_exists.mp (hall .other)
        rw [choosePlural_of_find hv hone hother] at h
        cases h
      · rw [choosePlural_of_missing hv hk] at h
        cases h
        exact .missing n hv hk
  · intro h
    cases h with
    | tooLong f hv => exact hlong f hv
    | noInteger hv => exact hnone hv
    | missing n hv hk => exact choosePlural_of_missing hv hk name span

/-- The ways in which a placeholder fails to render, in the order in which they are examined. -/
inductive RenderFailure (p : Placeholder) (ps : Parameters) : Failure → Prop
  | emptyName (hn : p.name = []) : RenderFailure p ps (.rejected (.ofEmptyName p.span))
  | missingParameter (hn : p.name ≠ []) (hv : ps p.name = none) :
      RenderFailure p ps (.rejected (.ofMissingParameter p.name p.span))
  | choice (hn : p.name ≠ []) (v : Value) (hv : ps p.name = some v) (ht : p.formatType = .plural)
      {e : Failure} (h : ChoiceFailure v (.ofBody p.body) (some p.name) p.span e) :
      RenderFailure p ps e
  | tooLong (hn : p.name ≠ []) (v : Value) (hv : ps p.name = some v) (ht : p.formatType ≠ .plural)
      (hs : p.formatType = .untyped → v.kind ≠ .nonScalar) (e : NumeralError)
      (h : v.toText = .error e) : RenderFailure p ps (.numeral e)

namespace Placeholder

variable {p : Placeholder} {ps : Parameters} {v : Value}

theorem render_of_emptyName (hn : p.name = []) :
    p.render ps = .quiet (.error (.rejected (.ofEmptyName p.span))) := by
  unfold render
  rw [if_pos hn]

theorem render_of_missing (hn : p.name ≠ []) (hv : ps p.name = none) :
    p.render ps = .quiet (.error (.rejected (.ofMissingParameter p.name p.span))) := by
  unfold render
  rw [if_neg hn, hv]

theorem render_of_value (hn : p.name ≠ []) (hv : ps p.name = some v) :
    p.render ps = p.renderValue v := by
  unfold render
  rw [if_neg hn, hv]

/-- Without a format type, a composite value leaves the placeholder as it is written. -/
theorem renderValue_untyped_outcome (ht : p.formatType = .untyped) (v : Value) :
    (p.renderValue v).outcome =
      if v.kind = .nonScalar then .ok p.source else v.toText.mapError .numeral := by
  unfold renderValue
  rw [ht]
  dsimp only
  split <;> rfl

theorem renderValue_plural (ht : p.formatType = .plural) (v : Value) :
    p.renderValue v = .quiet (choosePlural v (.ofBody p.body) (some p.name) p.span) := by
  unfold renderValue
  rw [ht]

/-- A scalar has one text under all format types but the plural. -/
theorem renderValue_scalar (ht : p.formatType ≠ .plural) (hv : v.kind ≠ .nonScalar) :
    (p.renderValue v).outcome = v.toText.mapError .numeral := by
  cases hp : p.formatType with
  | untyped => rw [renderValue_untyped_outcome hp, if_neg hv]
  | number =>
    unfold renderValue
    rw [hp]
    rfl
  | plural => exact absurd hp ht
  | unknown formatName =>
    unfold renderValue
    rw [hp]
    rfl

end Placeholder

theorem Placeholder.plainText_error_iff {v : Value} {e : Failure} :
    (plainText v).outcome = .error e ↔ ∃ f, v.toText = .error f ∧ e = .numeral f := by
  change v.toText.mapError Failure.numeral = .error e ↔ _
  cases v.toText with
  | error f =>
    constructor
    · intro h
      cases h
      exact ⟨f, rfl, rfl⟩
    · intro h
      obtain ⟨g, hg, rfl⟩ := h
      cases hg
      rfl
  | ok t =>
    constructor
    · intro h
      cases h
    · intro h
      obtain ⟨g, hg, -⟩ := h
      cases hg

theorem Placeholder.renderValue_error_iff {p : Placeholder} {v : Value} {e : Failure} :
    (p.renderValue v).outcome = .error e ↔
      (p.formatType = .plural ∧ ChoiceFailure v (.ofBody p.body) (some p.name) p.span e) ∨
      (p.formatType ≠ .plural ∧ (p.formatType = .untyped → v.kind ≠ .nonScalar) ∧
        ∃ f, v.toText = .error f ∧ e = .numeral f) := by
  unfold renderValue
  cases p.formatType with
  | untyped =>
    by_cases hk : v.kind = .nonScalar
    · simp [hk, Run.report, Run.quiet]
    · simp [hk, plainText_error_iff]
  | number => simp [plainText_error_iff]
  | plural => simp [Run.quiet, choosePlural_error_iff]
  | unknown formatName => simp [Run.report, plainText_error_iff]

theorem Placeholder.render_error_iff {p : Placeholder} {ps : Parameters} {e : Failure} :
    (p.render ps).outcome = .error e ↔ RenderFailure p ps e := by
  constructor
  · intro h
    by_cases hn : p.name = []
    · rw [render_of_emptyName hn] at h
      cases h
      exact .emptyName hn
    · cases hv : ps p.name with
      | none =>
        rw [render_of_missing hn hv] at h
        cases h
        exact .missingParameter hn hv
      | some v =>
        rw [render_of_value hn hv] at h
        rcases renderValue_error_iff.mp h with ⟨ht, hc⟩ | ⟨ht, hs, f, hf, rfl⟩
        · exact .choice hn v hv ht hc
        · exact .tooLong hn v hv ht hs f hf
  · intro h
    cases h with
    | emptyName hn =>
      rw [render_of_emptyName hn]
      rfl
    | missingParameter hn hv =>
      rw [render_of_missing hn hv]
      rfl
    | choice hn v hv ht hc =>
      rw [render_of_value hn hv]
      exact renderValue_error_iff.mpr (.inl ⟨ht, hc⟩)
    | tooLong hn v hv ht hs f hf =>
      rw [render_of_value hn hv]
      exact renderValue_error_iff.mpr (.inr ⟨ht, hs, f, hf, rfl⟩)

theorem Placeholder.render_ok_iff {p : Placeholder} {ps : Parameters} :
    (∃ x, (p.render ps).outcome = .ok x) ↔ ∀ e, ¬ RenderFailure p ps e := by
  simp only [← render_error_iff]
  cases (p.render ps).outcome <;> simp

end MessageTemplate
