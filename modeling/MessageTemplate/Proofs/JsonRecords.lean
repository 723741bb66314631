import Mathlib.Data.List.Nodup
import MessageTemplate.Report
import MessageTemplate.Proofs.JsonObjects

/-! JSON reports of diagnostics. `Report.unlimitedJson_decodable` says that a report is one line from
which all that it tells can be read, and that several reports are told apart. -/
namespace MessageTemplate

/-- The members that a JSON report can have, in order. -/
inductive RecordKey
  | code
  | codeValue
  | message
  | severity
  | start
  | stop
  | argumentName
  | receivedType
  | hint
  deriving DecidableEq

namespace RecordKey

def all : List RecordKey :=
  [code, codeValue, message, severity, start, stop, argumentName, receivedType, hint]

theorem mem_all (key : RecordKey) : key ∈ all := by cases key <;> decide

def name : RecordKey → Text
  | code => "code".toList
  | codeValue => "code_value".toList
  | message => "message".toList
  | severity => "severity".toList
  | start => "start".toList
  | stop => "end".toList
  | argumentName => "argument_name".toList
  | receivedType => "received_type".toList
  | hint => "hint".toList

theorem names_nodup : (all.map name).Nodup := by decide

theorem name_injective : Function.Injective name := fun a b h =>
  List.inj_on_of_nodup_map names_nodup (mem_all a) (mem_all b) h

end RecordKey

theorem DiagnosticCode.name_injective : Function.Injective name := by
  have hnames : (all.map name).Nodup := by decide
  intro a b h
  exact List.inj_on_of_nodup_map hnames a.mem_all b.mem_all h

theorem Severity.name_injective : Function.Injective name := by
  intro a b h
  cases a <;> cases b <;> first | rfl | exact absurd h (by decide)

namespace Diagnostic

def withoutEmpty (d : Diagnostic) : Diagnostic :=
  { d with
    hint := d.hint.filter fun t => !t.isEmpty
    receivedType := d.receivedType.filter fun t => !t.isEmpty }

/-- The value under a key, if a report has it: offsets for a span, an argument name even if it is
empty, a received type and a hint unless they are empty. -/
def recordValue? (d : Diagnostic) : RecordKey → Option JsonScalar
  | .code => some (.text d.code.name)
  | .codeValue => some (.number d.code.number)
  | .message => some (.text d.message)
  | .severity => some (.text d.severity.name)
  | .start => d.span.map fun s => .number s.start
  | .stop => d.span.map fun s => .number s.stop
  | .argumentName => d.argumentName.map .text
  | .receivedType => (d.receivedType.filter fun t => !t.isEmpty).map .text
  | .hint => (d.hint.filter fun t => !t.isEmpty).map .text

def recordMembers (d : Diagnostic) : List (Text × JsonScalar) :=
  RecordKey.all.filterMap fun key => (d.recordValue? key).map (key.name, ·)

def SpanFits (d : Diagnostic) : Prop := ∀ s, d.span = some s →
  (digits s.start).length ≤ digitLimit ∧ (digits s.stop).length ≤ digitLimit

theorem mem_recordMembers_iff {d : Diagnostic} {name : Text} {v : JsonScalar} :
    (name, v) ∈ d.recordMembers ↔
      ∃ key : RecordKey, key.name = name ∧ d.recordValue? key = some v := by
  simp only [recordMembers, List.mem_filterMap, RecordKey.mem_all, true_and, Option.map_eq_some_iff,
    Prod.mk.injEq]
  constructor
  · rintro ⟨key, u, hu, rfl, rfl⟩
    exact ⟨key, rfl, hu⟩
  · rintro ⟨key, rfl, hv⟩
    exact ⟨key, v, hv, rfl, rfl⟩

theorem recordMembers_nodup (d : Diagnostic) : (d.recordMembers.map Prod.fst).Nodup := by
  have hnames : d.recordMembers.map Prod.fst =
      (RecordKey.all.filter fun key => (d.recordValue? key).isSome).map RecordKey.name := by
    rw [recordMembers, List.map_filterMap, ← List.filterMap_eq_filter, List.map_filterMap]
    congr 1
    funext key
    cases h : d.recordValue? key <;> simp [h, Option.guard]
  rw [hnames]
  exact (List.filter_sublist.map _).nodup RecordKey.names_nodup

theorem recordValue?_congr {d₁ d₂ : Diagnostic} (h : d₁.recordMembers = d₂.recordMembers) :
    d₁.recordValue? = d₂.recordValue? := by
  have hvalue : ∀ {d e : Diagnostic} {key v}, d.recordMembers = e.recordMembers →
      d.recordValue? key = some v → e.recordValue? key = some v := by
    intro d e key v hde hv
    have hm := mem_recordMembers_iff.mpr ⟨key, rfl, hv⟩
    rw [hde] at hm
    obtain ⟨key', hname, hv'⟩ := mem_recordMembers_iff.mp hm
    rwa [RecordKey.name_injective hname] at hv'
  funext key
  exact Option.ext fun v => ⟨hvalue h, hvalue h.symm⟩

theorem recordValue?_withoutEmpty (d : Diagnostic) :
    d.withoutEmpty.recordValue? = d.recordValue? := by
  funext key
  cases key with
  | receivedType => simp [recordValue?, withoutEmpty, Option.filter_filter]
  | hint => simp [recordValue?, withoutEmpty, Option.filter_filter]
  | _ => rfl

theorem span_eq_of_recordValue? {d₁ d₂ : Diagnostic}
    (hstart : d₁.recordValue? .start = d₂.recordValue? .start)
    (hstop : d₁.recordValue? .stop = d₂.recordValue? .stop) : d₁.span = d₂.span := by
  simp only [recordValue?] at hstart hstop
  rcases h₁ : d₁.span with - | ⟨a, b, hab⟩ <;> rcases h₂ : d₂.span with - | ⟨a', b', hab'⟩ <;>
    simp_all

/-- The members tell all of a diagnostic but whether an empty text is absent. -/
theorem recordMembers_eq_iff {d₁ d₂ : Diagnostic} :
    d₁.recordMembers = d₂.recordMembers ↔ d₁.withoutEmpty = d₂.withoutEmpty := by
  constructor
  · intro h
    have hvalue := congrFun (recordValue?_congr h)
    have htext : Function.Injective JsonScalar.text := fun s t hst => JsonScalar.text.inj hst
    have hcode : d₁.code = d₂.code :=
      DiagnosticCode.name_injective (htext (Option.some.inj (hvalue .code)))
    have hseverity : d₁.severity = d₂.severity :=
      Severity.name_injective (htext (Option.some.inj (hvalue .severity)))
    have hmessage : d₁.message = d₂.message := htext (Option.some.inj (hvalue .message))
    have hspan := span_eq_of_recordValue? (hvalue .start) (hvalue .stop)
    have hargument : d₁.argumentName = d₂.argumentName :=
      Option.map_injective htext (hvalue .argumentName)
    have hreceived := Option.map_injective htext (hvalue .receivedType)
    have hhint := Option.map_injective htext (hvalue .hint)
    rw [withoutEmpty, withoutEmpty, hcode, hseverity, hmessage, hspan, hargument, hreceived, hhint]
  · intro h
    rw [recordMembers, recordMembers, ← recordValue?_withoutEmpty d₁, h,
      recordValue?_withoutEmpty d₂]

/-- Only an offset can be beyond the digit limit. -/
theorem SpanFits.fits {d : Diagnostic} (h : d.SpanFits) {key : RecordKey} {v : JsonScalar}
    (hv : d.recordValue? key = some v) : v.Fits := by
  have htext (o : Option Text) (ho : o.map JsonScalar.text = some v) : v.Fits := by
    obtain ⟨t, -, rfl⟩ := Option.map_eq_some_iff.mp ho
    trivial
  cases key with
  | code => exact htext (some d.code.name) hv
  | codeValue =>
    have hcode : ∀ c ∈ DiagnosticCode.all, (digits c.number).length ≤ digitLimit := by decide
    cases hv
    exact hcode _ d.code.mem_all
  | message => exact htext (some d.message) hv
  | severity => exact htext (some d.severity.name) hv
  | start =>
    obtain ⟨s, hs, rfl⟩ := Option.map_eq_some_iff.mp hv
    exact (h s hs).1
  | stop =>
    obtain ⟨s, hs, rfl⟩ := Option.map_eq_some_iff.mp hv
    exact (h s hs).2
  | argumentName => exact htext d.argumentName hv
  | receivedType => exact htext _ hv
  | hint => exact htext _ hv

end Diagnostic

namespace Report

def unlimitedJson : Report := { layout := .json }

theorem members_unlimitedJson (d : Diagnostic) : unlimitedJson.members d = d.recordMembers := by
  have hshorten (t : Text) : unlimitedJson.shorten t = t := rfl
  have hnonEmpty (t : Option Text) : nonEmpty t = (t.filter fun t => !t.isEmpty).toList := by
    cases t <;> simp [nonEmpty, Option.toList_filter]
  simp only [members, hshorten, hnonEmpty, Diagnostic.recordMembers, RecordKey.all,
    Diagnostic.recordValue?, List.filterMap_cons, List.filterMap_nil, Option.map_some]
  cases d.span <;> cases d.argumentName <;> cases d.receivedType.filter _ <;>
    cases d.hint.filter _ <;> rfl

theorem render_unlimitedJson {d : Diagnostic} (h : d.SpanFits) :
    unlimitedJson.render d = .ok (JsonScalar.objectText d.recordMembers) := by
  change JsonScalar.writeObject (unlimitedJson.members d) = _
  rw [members_unlimitedJson]
  apply JsonScalar.writeObject_of_fits
  intro m hm
  obtain ⟨key, -, hv⟩ := Diagnostic.mem_recordMembers_iff.mp hm
  exact h.fits hv

end Report

/-- The parts between two line breaks that follow each other, from left to right. -/
def splitBlankLines : Text → List Text
  | '\n' :: '\n' :: t => [] :: splitBlankLines t
  | c :: t => (splitBlankLines t).modifyHead (c :: ·)
  | [] => [[]]

theorem splitBlankLines_append {s : Text} (hs : '\n' ∉ s) (t : Text) :
    splitBlankLines (s ++ t) = (splitBlankLines t).modifyHead (s ++ ·) := by
  induction s with
  | nil =>
    rw [List.nil_append]
    cases splitBlankLines t <;> rfl
  | cons c s ih =>
    rw [List.mem_cons, not_or] at hs
    rw [List.cons_append, splitBlankLines, ih hs.2, List.modifyHead_modifyHead]
    · rfl
    · intro t' hc
      exact absurd hc.symm hs.1

theorem splitBlankLines_intercalate {ts : List Text} (hne : ts ≠ []) (h : ∀ t ∈ ts, '\n' ∉ t) :
    splitBlankLines (['\n', '\n'].intercalate ts) = ts := by
  induction ts with
  | nil => exact absurd rfl hne
  | cons t ts ih =>
    obtain ⟨ht, hts⟩ := List.forall_mem_cons.mp h
    cases ts with
    | nil =>
      have hone := splitBlankLines_append ht []
      rw [List.append_nil] at hone
      rw [List.intercalate_singleton, hone]
      simp [splitBlankLines]
    | cons u ts =>
      rw [List.intercalate_cons_cons, List.append_assoc, splitBlankLines_append ht]
      change (splitBlankLines ('\n' :: '\n' :: ['\n', '\n'].intercalate (u :: ts))).modifyHead _ = _
      rw [splitBlankLines, ih (List.cons_ne_nil u ts) hts, List.modifyHead_cons, List.append_nil]

namespace Report

/-- A JSON report without a limit is a visible line and an object that has each member once, with the
diagnostic's own value. Two of them are equal exactly when the diagnostics differ at most in empty
hints and received types, and the report of several diagnostics splits into theirs. -/
theorem unlimitedJson_decodable :
    (∀ d : Diagnostic, d.SpanFits → ∃ record, unlimitedJson.render d = .ok record ∧ Visible record ∧
      ∃ members, JsonScalar.readObject? record = some members ∧ (members.map Prod.fst).Nodup ∧
        ∀ name v, (name, v) ∈ members ↔
          ∃ key : RecordKey, key.name = name ∧ d.recordValue? key = some v) ∧
    (∀ d₁ d₂ : Diagnostic, d₁.SpanFits → d₂.SpanFits →
      (unlimitedJson.render d₁ = unlimitedJson.render d₂ ↔ d₁.withoutEmpty = d₂.withoutEmpty)) ∧
    ∀ ds, ds ≠ [] → (∀ d ∈ ds, d.SpanFits) → ∃ records all,
      ds.mapM unlimitedJson.render = .ok records ∧ unlimitedJson.renderAll ds = .ok all ∧
        splitBlankLines all = records := by
  refine ⟨?_, ?_, ?_⟩
  · intro d hd
    refine ⟨_, render_unlimitedJson hd, JsonScalar.visible_objectText _, d.recordMembers,
      JsonScalar.readObject?_objectText _, d.recordMembers_nodup, ?_⟩
    intro name v
    exact Diagnostic.mem_recordMembers_iff
  · intro d₁ d₂ h₁ h₂
    rw [render_unlimitedJson h₁, render_unlimitedJson h₂, Except.ok.injEq,
      JsonScalar.objectText_injective.eq_iff, Diagnostic.recordMembers_eq_iff]
  · intro ds hne hds
    have hrecords := mapM_eq_ok fun d hd => render_unlimitedJson (hds d hd)
    refine ⟨_, _, hrecords, ?_, splitBlankLines_intercalate ?_ ?_⟩
    · rw [renderAll, hrecords]
      rfl
    · simpa using hne
    · intro t ht
      obtain ⟨d, -, rfl⟩ := List.mem_map.mp ht
      exact (JsonScalar.visible_objectText _).newline_notMem

/-- A message that looks like an object, with blank lines and a control character, an empty argument
and an empty hint. -/
def objectLike : Diagnostic :=
  { code := .parameterNotProvided
    message := "\x7b\"a\": \"\\\"\x7d\n\n\x01".toList
    span := some ⟨3, 17, by omega⟩
    hint := some []
    argumentName := some []
    receivedType := some "\t".toList
    severity := .warning }

def objectLikeRecord : Text :=
  "\x7b\"code\": \"PARAMETER_NOT_PROVIDED\", ".toList ++
    "\"code_value\": 1002, ".toList ++
    "\"message\": \"\x7b\\\"a\\\": \\\"\\\\\\\"\x7d\\n\\n\\u0001\", ".toList ++
    "\"severity\": \"warning\", ".toList ++
    "\"start\": 3, \"end\": 17, ".toList ++
    "\"argument_name\": \"\", ".toList ++
    "\"received_type\": \"\\t\"\x7d".toList

theorem unlimitedJson_decodable_objectLike :
    objectLike.SpanFits ∧ unlimitedJson.render objectLike = .ok objectLikeRecord ∧
      Visible objectLikeRecord ∧
      (∃ members, JsonScalar.readObject? objectLikeRecord = some members ∧
        ("argument_name".toList, .text []) ∈ members ∧ ∀ v, ("hint".toList, v) ∉ members) ∧
      unlimitedJson.render objectLike = unlimitedJson.render { objectLike with hint := none } ∧
      unlimitedJson.render objectLike ≠
        unlimitedJson.render { objectLike with argumentName := none } ∧
      ∃ all, unlimitedJson.renderAll [objectLike, objectLike] = .ok all ∧
        splitBlankLines all = [objectLikeRecord, objectLikeRecord] := by
  obtain ⟨hone, htwo, hall⟩ := unlimitedJson_decodable
  have hfits : objectLike.SpanFits := by
    intro s hs
    cases hs
    decide
  have hobject : JsonScalar.objectText objectLike.recordMembers = objectLikeRecord := by
    decide +kernel
  have hrender := render_unlimitedJson hfits
  rw [hobject] at hrender
  obtain ⟨record, hrecord, hvisible, members, hread, -, hmembers⟩ := hone objectLike hfits
  obtain rfl : objectLikeRecord = record := Except.ok.inj (hrender.symm.trans hrecord)
  obtain ⟨records, all, hrecords, hrenderAll, hsplit⟩ :=
    hall [objectLike, objectLike] (by simp) (by simpa using hfits)
  have hboth : [objectLike, objectLike].mapM unlimitedJson.render =
      .ok [objectLikeRecord, objectLikeRecord] := by
    rw [List.mapM_cons, List.mapM_cons, hrender]
    rfl
  obtain rfl := Except.ok.inj (hboth.symm.trans hrecords)
  refine ⟨hfits, hrender, hvisible, ⟨members, hread, ?_, ?_⟩, ?_, ?_, all, hrenderAll, hsplit⟩
  · exact (hmembers _ _).mpr ⟨.argumentName, rfl, rfl⟩
  · intro v hv
    obtain ⟨key, hname, hvalue⟩ := (hmembers _ _).mp hv
    obtain rfl : key = .hint := RecordKey.name_injective hname
    cases hvalue
  · exact (htwo objectLike { objectLike with hint := none } hfits hfits).mpr rfl
  · rw [Ne, htwo objectLike { objectLike with argumentName := none } hfits hfits]
    decide

end Report

end MessageTemplate
