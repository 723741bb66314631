import MessageTemplate.Introspection
import MessageTemplate.Proofs.Rejections
import MessageTemplate.Proofs.SegmentCuts

namespace MessageTemplate

namespace PlaceholderInfo

theorem ofPlaceholder_categories {p : Placeholder} (h : p.formatType = .plural) :
    (ofPlaceholder p).formatName = some "plural".toList ∧
      (ofPlaceholder p).categories = (PluralTable.ofBody p.body).keys := by
  have hf : p.formatName = some FormatType.pluralName :=
    (FormatType.ofName_eq_plural_iff p.formatName).mp h
  exact ⟨hf, if_pos hf⟩

end PlaceholderInfo

theorem introspect_pairwise (template : Text) :
    (introspect template).Pairwise fun i j => i.span ≠ j.span := by
  unfold introspect placeholders
  rw [List.pairwise_map]
  refine (Segment.wellFormed_segments template).pairwise_placeholders.imp ?_
  rintro p q ⟨a, b, hp, hq, hlt, hle⟩ heq
  change p.span = q.span at heq
  rw [hp, hq] at heq
  cases heq
  omega

/-- The span of a placeholder singles out its description. -/
theorem filter_introspect_span {template content : Text} {span : Span}
    {before after : List Segment}
    (h : segments template = before ++ .placeholder content span :: after) :
    (introspect template).filter (fun j => decide (j.span = some span)) =
      [.ofPlaceholder (.read content (some span))] := by
  have hsplit : introspect template =
      (before.filterMap Segment.placeholder?).map PlaceholderInfo.ofPlaceholder ++
        PlaceholderInfo.ofPlaceholder (.read content (some span)) ::
          (after.filterMap Segment.placeholder?).map PlaceholderInfo.ofPlaceholder := by
    unfold introspect placeholders
    rw [h, List.filterMap_append, List.map_append]
    rfl
  have hpairs := introspect_pairwise template
  rw [hsplit, List.pairwise_append, List.pairwise_cons] at hpairs
  obtain ⟨-, ⟨hafter, -⟩, hbefore⟩ := hpairs
  rw [hsplit, List.filter_append, List.filter_cons_of_pos (by simp [PlaceholderInfo.ofPlaceholder,
    Placeholder.read]), List.filter_eq_nil_iff.mpr ?_, List.filter_eq_nil_iff.mpr ?_]
  · rfl
  · intro i hi hspan
    exact hafter i hi (of_decide_eq_true hspan).symm
  · intro i hi hspan
    exact hbefore i hi _ List.mem_cons_self (of_decide_eq_true hspan)

theorem PluralTable.missingKeys_eq_filter_keys (table : PluralTable) :
    table.missingKeys =
      ["one".toList, "other".toList].filter fun k => decide (k ∉ table.keys) := by
  apply List.filter_congr
  intro k _
  rw [Bool.eq_iff_iff, decide_eq_true_eq, mem_keys_iff]
  cases table.find? k <;> simp

/-- The parts of a text between a double quote and the next one; `inside` is what has been read of
a part that is not yet complete. -/
def quotedFrom (inside : Option Text) : Text → List Text
  | [] => []
  | c :: t =>
      match inside with
      | none => quotedFrom (if c = '"' then some [] else none) t
      | some part => if c = '"' then part :: quotedFrom none t else quotedFrom (some (part ++ [c])) t

def quotedParts (t : Text) : List Text := quotedFrom none t

theorem quotedFrom_outside {s : Text} (hs : '"' ∉ s) (t : Text) :
    quotedFrom none (s ++ t) = quotedFrom none t := by
  induction s with
  | nil => rfl
  | cons c s ih =>
    rw [List.mem_cons, not_or] at hs
    simp [quotedFrom, Ne.symm hs.1, ih hs.2]

theorem quotedFrom_none {t : Text} (ht : '"' ∉ t) : quotedFrom none t = [] := by
  have h := quotedFrom_outside ht []
  rwa [List.append_nil] at h

theorem quotedFrom_inside {s : Text} (hs : '"' ∉ s) (part t : Text) :
    quotedFrom (some part) (s ++ '"' :: t) = (part ++ s) :: quotedFrom none t := by
  induction s generalizing part with
  | nil => simp [quotedFrom]
  | cons c s ih =>
    rw [List.mem_cons, not_or] at hs
    simp [quotedFrom, Ne.symm hs.1, ih hs.2]

theorem quotedFrom_quoted {k : Text} (hk : '"' ∉ k) (t : Text) :
    quotedFrom none ('"' :: k ++ ['"'] ++ t) = k :: quotedFrom none t := by
  have h := quotedFrom_inside hk [] t
  rw [List.append_assoc, List.singleton_append]
  simpa [quotedFrom] using h

theorem quotedFrom_quoteKeys {keys : List Text} (hk : ∀ k ∈ keys, '"' ∉ k) {t : Text}
    (ht : '"' ∉ t) : quotedFrom none (Diagnostic.quoteKeys keys ++ t) = keys := by
  induction keys with
  | nil => exact quotedFrom_none ht
  | cons k keys ih =>
    obtain ⟨hfirst, hkeys⟩ := List.forall_mem_cons.mp hk
    cases keys with
    | nil =>
      rw [Diagnostic.quoteKeys, List.map_singleton, List.intercalate_singleton,
        quotedFrom_quoted hfirst, quotedFrom_none ht]
    | cons l keys =>
      have hcomma : '"' ∉ [',', ' '] := by decide
      have hjoin : Diagnostic.quoteKeys (k :: l :: keys) ++ t =
          '"' :: k ++ ['"'] ++ ([',', ' '] ++ (Diagnostic.quoteKeys (l :: keys) ++ t)) := by
        simp [Diagnostic.quoteKeys]
      rw [hjoin, quotedFrom_quoted hfirst, quotedFrom_outside hcomma, ih hkeys]

/-- The message quotes the missing keys and nothing else. -/
theorem quotedParts_pluralKeysMissing {keys : List Text} (hk : ∀ k ∈ keys, '"' ∉ k)
    (name : Option Text) (span : Option Span) :
    quotedParts (Diagnostic.pluralKeysMissing keys name span).message = keys := by
  have hend : '"' ∉ ['.'] := by decide
  have hone : '"' ∉ "Missing plural key ".toList := by decide
  have hmore : '"' ∉ "Missing plural keys: ".toList := by decide
  unfold quotedParts Diagnostic.pluralKeysMissing
  dsimp only
  split
  · rw [List.append_assoc, quotedFrom_outside hone, quotedFrom_quoteKeys hk hend]
  · rw [List.append_assoc, quotedFrom_outside hmore, quotedFrom_quoteKeys hk hend]

theorem PluralTable.quotedParts_missingKeys (table : PluralTable) (name : Option Text)
    (span : Option Span) :
    quotedParts (Diagnostic.pluralKeysMissing table.missingKeys name span).message =
      table.missingKeys := by
  apply quotedParts_pluralKeysMissing
  intro k hk
  have hall : ∀ k ∈ PluralCategory.all.map PluralCategory.key, '"' ∉ k := by decide
  exact hall k (List.mem_of_mem_filter hk)

/-- What an error and its diagnostic tell is true of a placeholder's description and the
parameters. -/
structure FormatError.Describes (e : FormatError) (d : Diagnostic) (i : PlaceholderInfo)
    (ps : Parameters) : Prop where
  specific : e.cause ≠ .general
  emptyName : e.cause = .emptyParameterName → i.name = []
  missingParameter : ∀ name, e.cause = .missingParameter name →
    i.name = name ∧ d.argumentName = some name ∧ name ≠ [] ∧ ps name = none
  pluralValue : ∀ v, e.cause = .pluralValue v →
    i.formatName = some "plural".toList ∧ d.argumentName = some i.name ∧ ps i.name = some v ∧
      v.operand (some i.name) i.span = .error (.rejected e) ∧ d.receivedType = some v.typeName
  missingPluralKeys : ∀ keys, e.cause = .missingPluralKeys keys →
    i.formatName = some "plural".toList ∧ d.argumentName = some i.name ∧
      (∃ v n, ps i.name = some v ∧ v.operand (some i.name) i.span = .ok n) ∧
      keys ≠ [] ∧
      keys = ["one".toList, "other".toList].filter (fun k => decide (k ∉ i.categories)) ∧
      quotedParts d.message = keys

theorem RenderFailure.describes {p : Placeholder} {ps : Parameters} {e : FormatError}
    {d : Diagnostic} (h : RenderFailure p ps (.rejected e)) (hd : e.diagnostic? = some d) :
    e.Describes d (.ofPlaceholder p) ps := by
  have hspecific := h.cause_ne_general
  cases h with
  | emptyName hn =>
    exact ⟨hspecific, fun _ => hn, nofun, nofun, nofun⟩
  | missingParameter hn hv =>
    refine ⟨hspecific, nofun, ?_, nofun, nofun⟩
    intro name hc
    cases hc
    cases hd
    exact ⟨rfl, rfl, hn, hv⟩
  | choice hn v hv ht hc =>
    obtain ⟨hf, hcategories⟩ := PlaceholderInfo.ofPlaceholder_categories ht
    cases hc with
    | noInteger ho =>
      refine ⟨hspecific, nofun, nofun, ?_, nofun⟩
      intro w hc
      cases hc
      cases hd
      refine ⟨hf, rfl, hv, ?_, rfl⟩
      unfold Value.operand
      rw [ho]
      rfl
    | missing n ho hk =>
      refine ⟨hspecific, nofun, nofun, nofun, ?_⟩
      intro keys hc
      cases hc
      cases hd
      refine ⟨hf, rfl, ⟨v, n, hv, Value.operand_eq_ok_iff.mpr ho⟩, hk, ?_, ?_⟩
      · rw [hcategories]
        exact PluralTable.missingKeys_eq_filter_keys _
      · exact PluralTable.quotedParts_missingKeys _ _ _

/-- The span of an error singles out one placeholder of the introspection, and what the error tells
about its placeholder is what introspection and the parameters say. -/
theorem format_rejected_introspected {template : Text} {ps : Parameters} {e : FormatError}
    (h : (format template ps).outcome = .error (.rejected e)) :
    ∃ d i, e.diagnostic? = some d ∧ e.message = d.message ∧
      (introspect template).filter (fun j => decide (j.span = d.span)) = [i] ∧
      e.Describes d i ps := by
  obtain ⟨before, content, span, after, hss, -, he⟩ := segments_of_format_rejected h
  obtain ⟨d, hd, hspan⟩ := he.diagnostic
  refine ⟨d, _, hd, FormatError.message_of_diagnostic hd, ?_, he.describes hd⟩
  rw [hspan]
  exact filter_introspect_span hss

/-- Two faulty plural placeholders for one operand; the first of them lacks one category. -/
def faultyPlurals : Text := "\x7ba\x7d\x7bn, plural, other\x7by\x7d\x7d\x7bn, plural\x7d".toList

def signedOperand : Parameters := .ofList [(['a'], .null), (['n'], .text "+1".toList)]

def listOperand : Parameters := .ofList [(['a'], .null), (['n'], .collection .list [])]

theorem format_faultyPlurals (ps : Parameters) {e : FormatError} (ha : ps ['a'] = some .null)
    (he : RenderFailure (.read "n, plural, other\x7by\x7d".toList (some ⟨3, 24, by omega⟩)) ps
      (.rejected e)) : (format faultyPlurals ps).outcome = .error (.rejected e) := by
  have hss : segments faultyPlurals = [.placeholder ['a'] ⟨0, 3, by omega⟩] ++
      .placeholder "n, plural, other\x7by\x7d".toList ⟨3, 24, by omega⟩ ::
        [.placeholder "n, plural".toList ⟨24, 35, by omega⟩] := by decide
  have hrender : (Placeholder.read ['a'] (some ⟨0, 3, by omega⟩)).render ps = .quiet (.ok []) := by
    rw [Placeholder.render_of_value (by decide) ha]
    rfl
  have hx : (Segment.renderAll ps [.placeholder ['a'] ⟨0, 3, by omega⟩]).outcome = .ok [] :=
    Segment.renderAll_cons_ok_iff.mpr ⟨[], [], congrArg Run.outcome hrender, rfl, rfl⟩
  exact congrArg Run.outcome (format_of_renderAll_rejected
    (hss.symm ▸ Segment.renderAll_of_rejected hx he _))

/-- The first of the faulty placeholders is found by the span, whether it lacks a category for an
integer or its value is none. -/
theorem format_rejected_introspected_missing_one :
    (∃ e d i, (format faultyPlurals signedOperand).outcome = .error (.rejected e) ∧
      e.cause = .missingPluralKeys ["one".toList] ∧ e.diagnostic? = some d ∧
      d.span = some ⟨3, 24, by omega⟩ ∧
      (introspect faultyPlurals).filter (fun j => decide (j.span = d.span)) = [i] ∧
      e.Describes d i signedOperand ∧ quotedParts d.message = ["one".toList]) ∧
    ∃ e d i, (format faultyPlurals listOperand).outcome = .error (.rejected e) ∧
      e.cause = .pluralValue (.collection .list []) ∧ e.diagnostic? = some d ∧
      d.span = some ⟨3, 24, by omega⟩ ∧
      (introspect faultyPlurals).filter (fun j => decide (j.span = d.span)) = [i] ∧
      e.Describes d i listOperand ∧ d.receivedType = some "list".toList := by
  constructor
  · have hk : (PluralTable.ofBody (some " other\x7by\x7d".toList)).missingKeys =
        ["one".toList] := by decide +kernel
    have h := format_faultyPlurals signedOperand rfl
      (.choice (by decide) (.text "+1".toList) rfl rfl (.missing 1 rfl (by decide +kernel)))
    obtain ⟨d, i, hd, -, hi, hdescribes⟩ := format_rejected_introspected h
    have hcause : (FormatError.ofMissingKeys
        (PluralTable.ofBody (some " other\x7by\x7d".toList)).missingKeys (some ['n'])
        (some ⟨3, 24, by omega⟩)).cause = .missingPluralKeys ["one".toList] :=
      congrArg FormatErrorCause.missingPluralKeys hk
    obtain ⟨-, -, -, -, -, hquoted⟩ := hdescribes.missingPluralKeys _ hcause
    refine ⟨_, d, i, h, hcause, hd, ?_, hi, hdescribes, hquoted⟩
    cases hd
    rfl
  · have h := format_faultyPlurals listOperand rfl
      (.choice (by decide) (.collection .list []) rfl rfl (.noInteger rfl))
    obtain ⟨d, i, hd, -, hi, hdescribes⟩ := format_rejected_introspected h
    obtain ⟨-, -, -, -, htype⟩ := hdescribes.pluralValue _ rfl
    refine ⟨_, d, i, h, rfl, hd, ?_, hi, hdescribes, htype⟩
    cases hd
    rfl

end MessageTemplate
