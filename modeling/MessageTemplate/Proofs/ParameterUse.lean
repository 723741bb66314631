import Mathlib.Data.Set.Function
import MessageTemplate.Introspection
import MessageTemplate.Proofs.Runs

namespace MessageTemplate

/-- A placeholder without a name reads nothing, any other reads its name. -/
theorem Placeholder.render_congr {p : Placeholder} {ps qs : Parameters}
    (h : p.name ≠ [] → ps p.name = qs p.name) : p.render ps = p.render qs := by
  unfold render
  by_cases hn : p.name = []
  · rw [if_pos hn, if_pos hn]
  · rw [if_neg hn, if_neg hn, h hn]

theorem Segment.renderAll_congr {ps qs : Parameters} {ss : List Segment}
    (h : ∀ p ∈ ss.filterMap placeholder?, p.render ps = p.render qs) :
    renderAll ps ss = renderAll qs ss := by
  induction ss with
  | nil => rfl
  | cons s ss ih =>
    rw [renderAll, renderAll]
    cases s with
    | text content => rw [ih h]; rfl
    | placeholder content span =>
      obtain ⟨hfirst, hrest⟩ := List.forall_mem_cons.mp h
      rw [ih hrest]
      exact congrArg (fun r : Run => r.append fun _ => renderAll qs ss) hfirst

/-- Parameters that agree on the names of a template give the same run: the same text or failure,
and the same reports. -/
theorem format_eq_of_eqOn {template : Text} {ps qs : Parameters}
    (h : Set.EqOn ps qs {name | name ∈ extractParameters template}) :
    format template ps = format template qs := by
  have hss :
      Segment.renderAll ps (segments template) = Segment.renderAll qs (segments template) := by
    apply Segment.renderAll_congr
    intro p hp
    exact Placeholder.render_congr fun hn => h (mem_extractParameters.mpr ⟨hn, p, hp, rfl⟩)
  exact congrArg (fun r : Run => r.reportFailure.report (.started (segments template).length)) hss

/-- A list that passes through, an unknown format type and, last, a blank name. -/
def blankNameLast : Text := "\x7ba\x7d\x7b b , date\x7d\x7b \x7d".toList

def listAndNull : Parameters := .ofList [(['a'], .collection .list []), (['b'], .null)]

/-- Further values, under the empty name and under names with white space around them. -/
def listAndNullAmongOthers : Parameters :=
  .ofList [([], .integer 1), ([' '], .null), (" b ".toList, .integer 2), (['b'], .null),
    (['a'], .collection .list []), (['c'], .foreign)]

theorem format_eq_of_eqOn_blankNameLast :
    Set.EqOn listAndNullAmongOthers listAndNull {name | name ∈ extractParameters blankNameLast} ∧
      format blankNameLast listAndNullAmongOthers = format blankNameLast listAndNull ∧
      (format blankNameLast listAndNullAmongOthers).outcome =
        .error (.rejected (.ofEmptyName (some ⟨14, 17, by omega⟩))) := by
  have hnames : extractParameters blankNameLast = [['a'], ['b']] := by decide
  have hagree : Set.EqOn listAndNullAmongOthers listAndNull
      {name | name ∈ extractParameters blankNameLast} := by
    intro name hname
    change name ∈ extractParameters blankNameLast at hname
    rw [hnames] at hname
    rcases List.mem_cons.mp hname with rfl | hname
    · rfl
    · rw [List.mem_singleton.mp hname]
      rfl
  have hrun := format_eq_of_eqOn hagree
  refine ⟨hagree, hrun, ?_⟩
  rw [hrun]
  rfl

end MessageTemplate
