import MessageTemplate.Proofs.JsonRecords
import MessageTemplate.Proofs.PlaceholderPrinting
import MessageTemplate.Proofs.Rejections
import MessageTemplate.Proofs.ReportLimit

/-! The lines of the reports of a rejection. The names of parameters are reported as they are, so
that a name with line breaks has more lines than its report is made of: `format_rejected_lines` says
how many. -/
namespace MessageTemplate

def linesOf (t : Text) : List Text := t.splitOn '\n'

theorem length_linesOf (t : Text) : (linesOf t).length = t.count '\n' + 1 := by
  unfold linesOf
  induction t with
  | nil => rfl
  | cons c t ih =>
    rw [List.splitOn_cons_eq_if_modifyHead]
    by_cases hc : c = '\n'
    · subst hc
      simp [ih]
    · simp [hc, ih]

/-- Joined lines are as many as they were, and one more for each line break in them. -/
theorem length_linesOf_intercalate {ts : List Text} (h : ts ≠ []) :
    (linesOf (['\n'].intercalate ts)).length = ts.length + ts.flatten.count '\n' := by
  rw [length_linesOf]
  induction ts with
  | nil => exact absurd rfl h
  | cons t ts ih =>
    cases ts with
    | nil => simp [Nat.add_comm]
    | cons u ts =>
      have hrest := ih (List.cons_ne_nil u ts)
      rw [List.length_cons, List.flatten_cons, List.count_append, List.intercalate_cons_cons,
        List.count_append, List.count_append, List.count_singleton_self]
      omega

/-- Joined lines are told apart where there is no line break in them. -/
theorem linesOf_intercalate_eq_iff {ts : List Text} (h : ts ≠ []) :
    linesOf (['\n'].intercalate ts) = ts ↔ ts.flatten.count '\n' = 0 := by
  constructor
  · intro hlines
    have hlength := length_linesOf_intercalate h
    rw [hlines] at hlength
    omega
  · intro hcount
    rw [List.count_eq_zero] at hcount
    exact List.splitOn_intercalate '\n'
      (fun t ht hm => hcount (List.mem_flatten_of_mem ht hm)) h

namespace Visible

theorem count_newline {t : Text} (h : Visible t) : t.count '\n' = 0 :=
  List.count_eq_zero.mpr h.newline_notMem

theorem count_newline_between {s u : Text} (hs : Visible s) (hu : Visible u) (t : Text) :
    (s ++ t ++ u).count '\n' = t.count '\n' := by
  rw [List.count_append, List.count_append, hs.count_newline, hu.count_newline, Nat.zero_add,
    Nat.add_zero]

end Visible

theorem Severity.visible_name (s : Severity) : Visible s.name := by cases s <;> decide

theorem DiagnosticCode.visible_name (c : DiagnosticCode) : Visible c.name := by cases c <;> decide

namespace Report

variable {d : Diagnostic}

def spanText (s : Span) : Text :=
  "  --> offset ".toList ++ digits s.start ++ '.' :: '.' :: digits s.stop

theorem writeNat_of_le {n : Nat} (h : (digits n).length ≤ digitLimit) :
    writeNat n = .ok (digits n) := JsonScalar.write_of_fits (v := .number n) h

theorem writeNat_of_lt {n : Nat} (h : digitLimit < (digits n).length) :
    writeNat n = .error .tooLongToWrite := writeInt_eq_error_iff.mpr ⟨h, rfl⟩

/-- What a block has below its head, whatever the digit limit. -/
def partLines (d : Diagnostic) : List Text :=
  d.span.toList.map spanText ++
    d.argumentName.toList.map (fun t => "  = argument: ".toList ++ t) ++
    (nonEmpty d.receivedType).map (fun t => "  = received: ".toList ++ t) ++
    (nonEmpty d.hint).map (fun t => "  = help: ".toList ++ t)

theorem blockLines_of_fits (h : d.SpanFits) :
    ({} : Report).blockLines d = .ok (headLine d :: partLines d) := by
  have hspan : ∀ s ∈ d.span.toList, spanLine s = .ok (spanText s) := by
    intro s hs
    obtain ⟨hstart, hstop⟩ := h s (Option.mem_toList.mp hs)
    rw [spanLine, writeNat_of_le hstart, writeNat_of_le hstop]
    rfl
  rw [blockLines_eq, detailLines, mapM_eq_ok hspan]
  rfl

theorem blockLines_of_not_fits (h : ¬ d.SpanFits) :
    ({} : Report).blockLines d = .error .tooLongToWrite := by
  obtain ⟨s, hs, hlong⟩ : ∃ s, d.span = some s ∧
      ¬ ((digits s.start).length ≤ digitLimit ∧ (digits s.stop).length ≤ digitLimit) := by
    simpa [Diagnostic.SpanFits] using h
  have hspan : spanLine s = .error .tooLongToWrite := by
    by_cases hstart : (digits s.start).length ≤ digitLimit
    · have hstop : digitLimit < (digits s.stop).length :=
        Nat.lt_of_not_le fun hle => hlong ⟨hstart, hle⟩
      rw [spanLine, writeNat_of_le hstart, writeNat_of_lt hstop]
      rfl
    · rw [spanLine, writeNat_of_lt (Nat.lt_of_not_le hstart)]
      rfl
  rw [blockLines_eq, detailLines, hs, Option.toList_some, List.mapM_cons, hspan]
  rfl

theorem visible_spanText (s : Span) : Visible (spanText s) := by
  have hlabel : Visible "  --> offset ".toList := by decide
  exact (hlabel.append (.digits _)).append (.cons (by decide) (.cons (by decide) (.digits _)))

def breaks (d : Diagnostic) : Nat :=
  d.message.count '\n' + (d.argumentName.getD []).count '\n' +
    (d.receivedType.getD []).count '\n' + (d.hint.getD []).count '\n'

/-- A label adds no line break. -/
theorem count_newline_label {label : Text} (hlabel : Visible label) (ts : List Text) :
    (ts.map fun t => label ++ t).flatten.count '\n' = ts.flatten.count '\n' := by
  induction ts with
  | nil => rfl
  | cons t ts ih =>
    rw [List.map_cons, List.flatten_cons, List.flatten_cons, List.count_append, List.count_append,
      List.count_append, hlabel.count_newline, ih, Nat.zero_add]

theorem flatten_nonEmpty (t : Option Text) : (nonEmpty t).flatten = t.getD [] := by
  rcases t with _ | _ | ⟨c, t⟩
  · rfl
  · rfl
  · simp [nonEmpty]

theorem count_headLine (d : Diagnostic) : (headLine d).count '\n' = d.message.count '\n' := by
  have hcode : Visible ('[' :: d.code.name) := .cons (by decide) d.code.visible_name
  rw [headLine, List.count_append, (d.severity.visible_name.append hcode).count_newline,
    List.count_cons_of_ne (by decide), List.count_cons_of_ne (by decide),
    List.count_cons_of_ne (by decide), Nat.zero_add]

theorem count_newline_blockLines (d : Diagnostic) :
    (headLine d :: partLines d).flatten.count '\n' = breaks d := by
  have hspan : (d.span.toList.map spanText).flatten.count '\n' = 0 := by
    cases d.span with
    | none => rfl
    | some s =>
      rw [Option.toList_some, List.map_singleton, List.flatten_singleton]
      exact (visible_spanText s).count_newline
  have hargument : d.argumentName.toList.flatten = d.argumentName.getD [] := by
    cases d.argumentName with
    | none => rfl
    | some t => exact List.flatten_singleton
  rw [List.flatten_cons, List.count_append, count_headLine, partLines, List.flatten_append,
    List.flatten_append, List.flatten_append, List.count_append, List.count_append,
    List.count_append, hspan, count_newline_label (by decide), count_newline_label (by decide),
    count_newline_label (by decide), hargument, flatten_nonEmpty, flatten_nonEmpty, breaks]
  omega

theorem render_line_eq (d : Diagnostic) : ({ layout := .line } : Report).render d =
    .ok (d.code.name ++ ':' :: ' ' :: d.message) := rfl

theorem length_linesOf_line (d : Diagnostic) :
    (linesOf (d.code.name ++ ':' :: ' ' :: d.message)).length = 1 + d.message.count '\n' := by
  rw [length_linesOf, List.count_append, d.code.visible_name.count_newline,
    List.count_cons_of_ne (by decide), List.count_cons_of_ne (by decide), Nat.zero_add,
    Nat.add_comm]

end Report

theorem Value.typeName_shown (v : Value) : v.typeName ≠ [] ∧ Visible v.typeName := by
  cases v with
  | collection kind items =>
    change kind.typeName ≠ [] ∧ Visible kind.typeName
    cases kind <;> decide
  | _ =>
    dsimp only [typeName]
    decide

theorem visible_quoteKeys {keys : List Text} (h : ∀ k ∈ keys, Visible k) :
    Visible (Diagnostic.quoteKeys keys) := by
  refine .intercalate (by decide) (fun t ht => ?_)
  obtain ⟨k, hk, rfl⟩ := List.mem_map.mp ht
  exact (Visible.cons (by decide) (h k hk)).append (.cons (by decide) .nil)

theorem PluralTable.visible_missingKeys (table : PluralTable) :
    ∀ k ∈ table.missingKeys, Visible k := by
  intro k hk
  obtain ⟨c, -, rfl⟩ := List.mem_map.mp (List.mem_filter.mp hk).1
  cases c <;> decide

namespace Diagnostic

/-- How many are known of the span, the argument name, the received type and the hint. -/
def knownParts (d : Diagnostic) : Nat :=
  d.span.isSome.toNat + d.argumentName.isSome.toNat + d.receivedType.isSome.toNat +
    d.hint.isSome.toNat

/-- How often a block tells the name of the parameter at fault: a missing parameter is named in the
message, as the argument and in the hint, any other only as the argument. -/
def timesNamed (d : Diagnostic) : Nat := if d.code = .parameterNotProvided then 3 else 1

/-- A block of the diagnostic has a line for each part that is known, and the texts in it break lines
only in a name: as the argument and, where the parameter is missing, in the message and the hint. -/
structure BreaksOnlyIn (name : Text) (d : Diagnostic) : Prop where
  length_partLines : (Report.partLines d).length = d.knownParts
  argumentName : d.argumentName.getD [] = name
  receivedType : (d.receivedType.getD []).count '\n' = 0
  message : d.message.count '\n' = if d.code = .parameterNotProvided then name.count '\n' else 0
  hint : (d.hint.getD []).count '\n' =
    if d.code = .parameterNotProvided then name.count '\n' else 0

theorem BreaksOnlyIn.breaks {name : Text} {d : Diagnostic} (h : d.BreaksOnlyIn name) :
    Report.breaks d = d.timesNamed * name.count '\n' := by
  rw [Report.breaks, h.message, h.argumentName, h.receivedType, h.hint, timesNamed]
  split <;> omega

theorem breaksOnlyIn_emptyParameterName (span : Option Span) :
    (emptyParameterName span).BreaksOnlyIn [] := by
  have hmessage : Visible (emptyParameterName none).message := by decide
  have hhint : Visible ((emptyParameterName none).hint.getD []) := by decide
  refine ⟨?_, rfl, rfl, hmessage.count_newline, hhint.count_newline⟩
  cases span <;> rfl

theorem breaksOnlyIn_parameterNotProvided (name : Text) (span : Option Span) :
    (parameterNotProvided name span).BreaksOnlyIn name := by
  refine ⟨?_, rfl, rfl, ?_, ?_⟩
  · cases span <;> rfl
  · exact Visible.count_newline_between (s := ['"']) (by decide) (by decide) name
  · exact Visible.count_newline_between (by decide) (by decide) name

theorem breaksOnlyIn_pluralKeysMissing {keys : List Text} (hk : ∀ k ∈ keys, Visible k) (name : Text)
    (span : Option Span) : (pluralKeysMissing keys (some name) span).BreaksOnlyIn name := by
  have hmessage : Visible (pluralKeysMissing keys (some name) span).message := by
    have hquoted := visible_quoteKeys hk
    unfold pluralKeysMissing
    dsimp only
    split
    · exact (Visible.append (by decide) hquoted).append (by decide)
    · exact (Visible.append (by decide) hquoted).append (by decide)
  have hhint : Visible ((pluralKeysMissing [] none none).hint.getD []) := by decide
  refine ⟨?_, rfl, rfl, hmessage.count_newline, hhint.count_newline⟩
  cases span <;> rfl

theorem breaksOnlyIn_pluralValueNotInteger (v : Value) (name : Text) (span : Option Span) :
    (pluralValueNotInteger v (some name) span).BreaksOnlyIn name := by
  obtain ⟨hne, hvisible⟩ := v.typeName_shown
  have hshown : Report.nonEmpty (some v.typeName) = [v.typeName] :=
    Report.nonEmpty_of_length_pos (List.length_pos_iff.mpr hne)
  have hmessage : Visible (pluralValueNotInteger .null none none).message := by decide
  have hhint : Visible ((pluralValueNotInteger .null none none).hint.getD []) := by decide
  refine ⟨?_, rfl, hvisible.count_newline, hmessage.count_newline, hhint.count_newline⟩
  simp only [Report.partLines, pluralValueNotInteger, hshown]
  cases span <;> rfl

end Diagnostic

theorem FormatError.explain_of_diagnostic {e : FormatError} {d : Diagnostic}
    (hd : e.diagnostic? = some d) :
    e.explain = (({} : Report).blockLines d).map ['\n'].intercalate := by
  obtain ⟨cause, account⟩ := e
  cases account with
  | message t => cases hd
  | diagnosis d' =>
    cases hd
    rfl

/-- Whatever the reason, the reports of a rejected placeholder break lines only in its name. -/
theorem RenderFailure.breaksOnlyIn {p : Placeholder} {ps : Parameters} {e : FormatError}
    {d : Diagnostic} (h : RenderFailure p ps (.rejected e)) (hd : e.diagnostic? = some d) :
    d.BreaksOnlyIn p.name := by
  cases h with
  | emptyName hn =>
    cases hd
    rw [hn]
    exact Diagnostic.breaksOnlyIn_emptyParameterName p.span
  | missingParameter hn hv =>
    cases hd
    exact Diagnostic.breaksOnlyIn_parameterNotProvided p.name p.span
  | choice hn v hv ht hc =>
    cases hc with
    | noInteger ho =>
      cases hd
      exact Diagnostic.breaksOnlyIn_pluralValueNotInteger v p.name p.span
    | missing n ho hk =>
      cases hd
      exact Diagnostic.breaksOnlyIn_pluralKeysMissing (PluralTable.visible_missingKeys _) p.name
        p.span

/-- The line report of a rejection is one line and its block report has a head line and a line for
each part that is known, except that both have one line more wherever a line break stands in the
name that they tell. Only an offset beyond the digit limit prevents the block. -/
theorem format_rejected_lines {template : Text} {ps : Parameters} {e : FormatError}
    (h : (format template ps).outcome = .error (.rejected e)) :
    ∃ d p, e.diagnostic? = some d ∧ p ∈ placeholders template ∧ d.span = p.span ∧
      (∃ line, ({ layout := .line } : Report).render d = .ok line ∧ (linesOf line).length =
        1 + if d.code = .parameterNotProvided then p.name.count '\n' else 0) ∧
      (d.SpanFits → ∃ lines block, ({} : Report).blockLines d = .ok lines ∧ e.explain = .ok block ∧
        lines.length = 1 + d.knownParts ∧
        (linesOf block).length = 1 + d.knownParts + d.timesNamed * p.name.count '\n' ∧
        (linesOf block = lines ↔ '\n' ∉ p.name)) ∧
      (¬ d.SpanFits → e.explain = .error .tooLongToWrite) := by
  obtain ⟨before, content, span, after, hss, -, he⟩ := segments_of_format_rejected h
  obtain ⟨d, hd, hspan⟩ := he.diagnostic
  have hbreaks := he.breaksOnlyIn hd
  have hp : Placeholder.read content (some span) ∈ placeholders template := by
    rw [placeholders, hss]
    exact List.mem_filterMap.mpr ⟨.placeholder content span, by simp, rfl⟩
  refine ⟨d, _, hd, hp, hspan, ⟨_, Report.render_line_eq d, ?_⟩, ?_, ?_⟩
  · rw [Report.length_linesOf_line, hbreaks.message]
  · intro hfits
    have hlines := Report.blockLines_of_fits hfits
    have hexplain := FormatError.explain_of_diagnostic hd
    rw [hlines] at hexplain
    have hne : Report.headLine d :: Report.partLines d ≠ [] := List.cons_ne_nil _ _
    have hlength : (Report.headLine d :: Report.partLines d).length = 1 + d.knownParts := by
      rw [List.length_cons, hbreaks.length_partLines, Nat.add_comm]
    refine ⟨_, _, hlines, hexplain, hlength, ?_, ?_⟩
    · rw [length_linesOf_intercalate hne, hlength, Report.count_newline_blockLines, hbreaks.breaks]
    · have htimes : d.timesNamed ≠ 0 := by
        unfold Diagnostic.timesNamed
        split <;> decide
      rw [linesOf_intercalate_eq_iff hne, Report.count_newline_blockLines, hbreaks.breaks,
        Nat.mul_eq_zero, or_iff_right htimes, List.count_eq_zero]
  · intro hfits
    rw [FormatError.explain_of_diagnostic hd, Report.blockLines_of_not_fits hfits]
    rfl

/-- A plural placeholder for null, with a line break in its name. -/
def nullOverLines : Text := "\x7ba\nb, plural\x7d".toList

theorem format_rejected_lines_plural :
    ∃ e d, (format nullOverLines (.ofList [("a\nb".toList, .null)])).outcome =
        .error (.rejected e) ∧ e.diagnostic? = some d ∧ d.knownParts = 4 ∧
      (∃ line, ({ layout := .line } : Report).render d = .ok line ∧ (linesOf line).length = 1) ∧
      ∃ block, e.explain = .ok block ∧ (linesOf block).length = 6 := by
  have h : (format nullOverLines (.ofList [("a\nb".toList, .null)])).outcome = .error (.rejected
      (.ofPluralValue .null (some "a\nb".toList) (some ⟨0, 13, by omega⟩))) := rfl
  have hread : placeholders nullOverLines =
      [.read "a\nb, plural".toList (some ⟨0, 13, by omega⟩)] := by decide
  obtain ⟨d, p, hd, hp, -, hline, hblock, -⟩ := format_rejected_lines h
  rw [hread, List.mem_singleton] at hp
  subst hp
  have hfits : d.SpanFits := by
    cases hd
    intro s hs
    cases hs
    decide
  obtain ⟨lines, block, -, hexplain, -, hlines, -⟩ := hblock hfits
  cases hd
  exact ⟨_, _, h, rfl, rfl, hline, block, hexplain, hlines⟩

/-- A balanced name without a comma outside its braces is reported as missing, whatever it is. -/
theorem format_braced_missing {name : Text} {ps : Parameters} (hne : name ≠ [])
    (htrim : trim name = name) (hcomma : ¬ HasComma 0 name) (hb : Balanced name)
    (hps : ps name = none) :
    (format (braced name) ps).outcome =
      .error (.rejected (.ofMissingParameter name (some ⟨0, name.length + 2, Nat.zero_le _⟩))) := by
  have hname : (Placeholder.read name (some ⟨0, name.length + 2, Nat.zero_le _⟩)).name = name := by
    rw [Placeholder.read, splitFrom_of_not_hasComma hcomma]
    exact htrim
  rw [format_braced_outcome hb, Placeholder.render_of_missing (by rwa [hname]) (by rwa [hname]),
    hname]
  rfl

/-- A missing parameter with a line break in its name: the line report is not one line, and the
block has seven lines, where a head line and three parts are known. -/
theorem format_missing_breaks_lines :
    ∃ e d line block, (format "\x7ba\nb\x7d".toList fun _ => none).outcome = .error (.rejected e) ∧
      e.diagnostic? = some d ∧ ({ layout := .line } : Report).render d = .ok line ∧ '\n' ∈ line ∧
      d.knownParts = 3 ∧ e.explain = .ok block ∧ (linesOf block).length = 7 := by
  have h : (format (braced "a\nb".toList) fun _ => none).outcome = .error (.rejected
      (.ofMissingParameter "a\nb".toList (some ⟨0, 5, by omega⟩))) :=
    format_braced_missing (by decide) (by decide) (not_hasComma_of_notMem (by decide)) (by decide)
      rfl
  exact ⟨_, _, _, _, h, rfl, rfl, by decide, rfl, rfl, by decide⟩

end MessageTemplate
