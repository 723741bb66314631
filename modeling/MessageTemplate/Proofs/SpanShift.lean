import MessageTemplate.Formatting
import MessageTemplate.Proofs.SegmentJoin

namespace MessageTemplate

namespace Segment

def shift (offset : Nat) : Segment → Segment
  | text content => text content
  | placeholder content span => placeholder content (span.shift offset)

theorem shift_merge (offset : Nat) (s : Segment) (ss : List Segment) :
    (merge s ss).map (shift offset) = merge (s.shift offset) (ss.map (shift offset)) := by
  rcases s with ⟨s⟩ | ⟨content, span⟩
  · rcases ss with - | ⟨⟨t⟩ | ⟨content, span⟩, rest⟩ <;> rfl
  · rfl

theorem shift_group (offset start : Nat) (content : Text) :
    (group start content).shift offset = group (offset + start) content := by
  simp [group, shift, Span.shift, Nat.add_assoc]

/-- Where reading starts shows only in the spans. -/
theorem scan_add (offset start : Nat) (t : Text) :
    scan (offset + start) t = (scan start t).map (shift offset) := by
  fun_induction scan start t with
  | case1 start => exact scan_nil (offset + start)
  | case2 start t content rest h ih =>
    rw [scan_group h, List.map_cons, shift_group, ← ih]
    congr 2
    omega
  | case3 start t h ih =>
    rw [scan_open h, prependText_eq_merge, shift_merge, ← ih]
    rfl
  | case4 start c t hc ih =>
    rw [scan_cons_of_ne hc, prependText_eq_merge, shift_merge, ← ih]
    rfl

end Segment

namespace Diagnostic

def shift (offset : Nat) (d : Diagnostic) : Diagnostic :=
  { d with span := d.span.map (Span.shift offset) }

end Diagnostic

namespace FormatError

/-- The same error for a template with more text in front: only the span of a diagnostic moves. -/
def shift (offset : Nat) (e : FormatError) : FormatError :=
  match e.account with
  | .message _ => e
  | .diagnosis d => ⟨e.cause, .diagnosis (d.shift offset)⟩

end FormatError

namespace Failure

def shift (offset : Nat) : Failure → Failure
  | rejected e => rejected (e.shift offset)
  | numeral e => numeral e

end Failure

namespace Run

def shift (offset : Nat) (r : Run) : Run := ⟨r.events, r.outcome.mapError (Failure.shift offset)⟩

/-- Only errors move. -/
theorem shift_of_ok {r : Run} {t : Text} (h : r.outcome = .ok t) (offset : Nat) :
    r.shift offset = r := by
  rcases r with ⟨events, outcome⟩
  subst h
  rfl

theorem shift_outcome_of_error {r : Run} {e : Failure} (h : r.outcome = .error e) (offset : Nat) :
    (r.shift offset).outcome = .error (e.shift offset) := by
  unfold shift
  rw [h]
  rfl

theorem shift_append (offset : Nat) (r : Run) (next : Unit → Run) :
    (r.append next).shift offset = (r.shift offset).append fun _ => (next ()).shift offset := by
  cases hr : r.outcome with
  | error e =>
    rw [append_of_error hr, append_of_error (shift_outcome_of_error hr offset)]
  | ok t =>
    rw [shift_of_ok hr, append_of_ok hr, append_of_ok hr]
    unfold shift
    cases (next ()).outcome <;> rfl

theorem shift_quiet (offset : Nat) (outcome : Except Failure Text) :
    (quiet outcome).shift offset = quiet (outcome.mapError (Failure.shift offset)) := rfl

theorem shift_report (offset : Nat) (e : Event) (r : Run) :
    (r.report e).shift offset = (r.shift offset).report e := rfl

end Run

theorem PluralTable.choices_shift (offset : Nat) (table : PluralTable) (name : Option Text)
    (span : Option Span) :
    table.choices name (span.map (Span.shift offset)) =
      (table.choices name span).mapError (FormatError.shift offset) := by
  unfold choices
  split <;> rfl

theorem Value.operand_shift (offset : Nat) (v : Value) (name : Option Text) (span : Option Span) :
    v.operand name (span.map (Span.shift offset)) =
      (v.operand name span).mapError (Failure.shift offset) := by
  unfold operand
  split <;> rfl

theorem choosePlural_shift (offset : Nat) (v : Value) (table : PluralTable) (name : Option Text)
    (span : Option Span) :
    choosePlural v table name (span.map (Span.shift offset)) =
      (choosePlural v table name span).mapError (Failure.shift offset) := by
  unfold choosePlural
  rw [Value.operand_shift, PluralTable.choices_shift]
  cases v.operand name span with
  | error e => rfl
  | ok n => cases table.choices name span <;> rfl

namespace Placeholder

def shift (offset : Nat) (p : Placeholder) : Placeholder :=
  { p with span := p.span.map (Span.shift offset) }

theorem plainText_shift (offset : Nat) (v : Value) :
    (plainText v).shift offset = plainText v := by
  unfold plainText
  rw [Run.shift_quiet]
  cases v.toText <;> rfl

theorem renderValue_shift (offset : Nat) (p : Placeholder) (v : Value) :
    (p.shift offset).renderValue v = (p.renderValue v).shift offset := by
  have ht : (p.shift offset).formatType = p.formatType := rfl
  unfold renderValue
  rw [ht]
  cases p.formatType with
  | untyped =>
    dsimp only
    split
    · rfl
    · exact (plainText_shift offset v).symm
  | number => exact (plainText_shift offset v).symm
  | plural =>
    change Run.quiet (choosePlural v _ _ (p.span.map (Span.shift offset))) = _
    rw [choosePlural_shift]
    rfl
  | unknown formatName =>
    dsimp only
    rw [Run.shift_report, plainText_shift]
    rfl

theorem render_shift (offset : Nat) (p : Placeholder) (ps : Parameters) :
    (p.shift offset).render ps = (p.render ps).shift offset := by
  have hn : (p.shift offset).name = p.name := rfl
  unfold render
  rw [hn]
  split
  · rfl
  · split
    · rfl
    · exact renderValue_shift offset p _

end Placeholder

namespace Segment

theorem render_shift (offset : Nat) (s : Segment) (ps : Parameters) :
    (s.shift offset).render ps = (s.render ps).shift offset := by
  cases s with
  | text content => rfl
  | placeholder content span =>
    exact (Placeholder.read content (some span)).render_shift offset ps

theorem renderAll_shift (offset : Nat) (ss : List Segment) (ps : Parameters) :
    renderAll ps (ss.map (shift offset)) = (renderAll ps ss).shift offset := by
  induction ss with
  | nil => rfl
  | cons s ss ih =>
    rw [List.map_cons, renderAll, renderAll, render_shift, ih, Run.shift_append]

end Segment

end MessageTemplate
