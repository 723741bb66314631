import MessageTemplate.Report
import MessageTemplate.Proofs.JsonReading

/-! What a limited report still shows. Two diagnostics whose texts differ only beyond the limit are
reported alike exactly when they agree in the one text that the layout does not shorten. -/
namespace MessageTemplate

/-- Equal, or both longer than `limit` and equal as far as that. -/
def AlikeUpTo (limit : Nat) (s t : Text) : Prop :=
  s = t ∨ limit < s.length ∧ limit < t.length ∧ s.take limit = t.take limit

/-- The texts are alike up to the limit, and all else is equal. -/
structure Diagnostic.AlikeUpTo (limit : Nat) (d₁ d₂ : Diagnostic) : Prop where
  code : d₁.code = d₂.code
  severity : d₁.severity = d₂.severity
  span : d₁.span = d₂.span
  receivedType : d₁.receivedType = d₂.receivedType
  message : MessageTemplate.AlikeUpTo limit d₁.message d₂.message
  argumentName : Option.Rel (MessageTemplate.AlikeUpTo limit) d₁.argumentName d₂.argumentName
  hint : Option.Rel (MessageTemplate.AlikeUpTo limit) d₁.hint d₂.hint

/-- The text that a layout shows in full, whatever the limit. -/
def ReportLayout.exposed : ReportLayout → Diagnostic → Option Text
  | .block, d => some d.message
  | .line, _ => none
  | .json, d => d.argumentName

namespace Report

variable {limit : Nat} {layout : ReportLayout} {d₁ d₂ : Diagnostic}

def limited (layout : ReportLayout) (limit : Nat) : Report := ⟨layout, some limit⟩

theorem shorten_of_lt {t : Text} (h : limit < t.length) :
    (limited layout limit).shorten t = t.take limit ++ "...".toList := by
  have hlt : (limit : Int) < t.length := by exact_mod_cast h
  have hcut : cut t 0 limit = t.take limit := cut_natCast t 0 limit
  simp only [limited, shorten]
  rw [if_pos hlt, hcut]

theorem shorten_congr {s t : Text} (h : AlikeUpTo limit s t) :
    (limited layout limit).shorten s = (limited layout limit).shorten t := by
  rcases h with rfl | ⟨hs, ht, htake⟩
  · rfl
  · rw [shorten_of_lt hs, shorten_of_lt ht, htake]

section
variable {α : Type} {s t : Option Text} (f : Text → α)

theorem map_shorten_toList (h : Option.Rel (AlikeUpTo limit) s t) :
    s.toList.map (fun u => f ((limited layout limit).shorten u)) =
      t.toList.map (fun u => f ((limited layout limit).shorten u)) := by
  cases h with
  | none => rfl
  | some h => exact congrArg (fun u => [f u]) (shorten_congr h)

theorem nonEmpty_of_length_pos {t : Text} (h : 0 < t.length) : nonEmpty (some t) = [t] := by
  simp [nonEmpty, List.length_pos_iff.mp h]

theorem map_shorten_nonEmpty (h : Option.Rel (AlikeUpTo limit) s t) :
    (nonEmpty s).map (fun u => f ((limited layout limit).shorten u)) =
      (nonEmpty t).map (fun u => f ((limited layout limit).shorten u)) := by
  cases h with
  | none => rfl
  | @some a b h =>
    have hshorten : (limited layout limit).shorten a = (limited layout limit).shorten b :=
      shorten_congr h
    rcases h with rfl | ⟨hs, ht, -⟩
    · rfl
    · rw [nonEmpty_of_length_pos (Nat.zero_lt_of_lt hs),
        nonEmpty_of_length_pos (Nat.zero_lt_of_lt ht)]
      exact congrArg (fun u => [f u]) hshorten

end

def detailLines (r : Report) (d : Diagnostic) : Except NumeralError (List Text) := do
  let place ← d.span.toList.mapM spanLine
  return place ++ d.argumentName.toList.map (fun t => "  = argument: ".toList ++ r.shorten t) ++
    (nonEmpty d.receivedType).map (fun t => "  = received: ".toList ++ t) ++
    (nonEmpty d.hint).map (fun t => "  = help: ".toList ++ r.shorten t)

theorem detailLines_congr (h : d₁.AlikeUpTo limit d₂) :
    (limited layout limit).detailLines d₁ = (limited layout limit).detailLines d₂ := by
  unfold detailLines
  rw [map_shorten_toList ("  = argument: ".toList ++ ·) h.argumentName,
    map_shorten_nonEmpty ("  = help: ".toList ++ ·) h.hint, h.span, h.receivedType]

def headLine (d : Diagnostic) : Text :=
  d.severity.name ++ '[' :: d.code.name ++ ']' :: ':' :: ' ' :: d.message

theorem blockLines_eq (r : Report) (d : Diagnostic) :
    r.blockLines d = (r.detailLines d).map (headLine d :: ·) := by
  unfold blockLines detailLines
  cases d.span.toList.mapM spanLine <;> rfl

theorem headLine_eq_iff (h : d₁.AlikeUpTo limit d₂) :
    headLine d₁ = headLine d₂ ↔ d₁.message = d₂.message := by
  simp only [headLine, h.severity, h.code, List.append_cancel_left_eq, List.cons_inj_right]

theorem render_block_eq_iff (h : d₁.AlikeUpTo limit d₂) :
    (limited .block limit).render d₁ = (limited .block limit).render d₂ ↔
      (∃ e, (limited .block limit).render d₁ = .error e) ∨ d₁.message = d₂.message := by
  have hrender (d : Diagnostic) : (limited .block limit).render d =
      ((limited .block limit).detailLines d).map fun lines =>
        ['\n'].intercalate (headLine d :: lines) := by
    simp only [render, limited, blockLines_eq]
    cases detailLines _ d <;> rfl
  rw [hrender, hrender, detailLines_congr h]
  refine map_eq_map_iff _ fun lines => ?_
  rw [← headLine_eq_iff h]
  exact intercalate_middle_eq_iff ['\n'] [] lines

theorem render_line_congr (h : d₁.AlikeUpTo limit d₂) :
    (limited .line limit).render d₁ = (limited .line limit).render d₂ := by
  have hmessage :
      (limited .line limit).shorten d₁.message = (limited .line limit).shorten d₂.message :=
    shorten_congr h.message
  have hrender (d : Diagnostic) : (limited .line limit).render d =
      .ok (d.code.name ++ ':' :: ' ' :: (limited .line limit).shorten d.message) := rfl
  rw [hrender, hrender, h.code, hmessage]

def membersAround (r : Report) (d : Diagnostic) :
    List (Text × JsonScalar) × List (Text × JsonScalar) :=
  ([("code".toList, .text d.code.name),
    ("code_value".toList, .number d.code.number),
    ("message".toList, .text (r.shorten d.message)),
    ("severity".toList, .text d.severity.name)] ++
    d.span.toList.flatMap (fun s =>
      [("start".toList, .number s.start), ("end".toList, .number s.stop)]),
  (nonEmpty d.receivedType).map (fun t => ("received_type".toList, .text t)) ++
    (nonEmpty d.hint).map (fun t => ("hint".toList, .text (r.shorten t))))

theorem members_eq (r : Report) (d : Diagnostic) :
    r.members d = (r.membersAround d).1 ++
      d.argumentName.toList.map (fun t => ("argument_name".toList, .text t)) ++
      (r.membersAround d).2 := by
  simp only [members, membersAround, List.append_assoc]

theorem membersAround_congr (h : d₁.AlikeUpTo limit d₂) :
    (limited layout limit).membersAround d₁ = (limited layout limit).membersAround d₂ := by
  unfold membersAround
  rw [map_shorten_nonEmpty (fun u => ("hint".toList, JsonScalar.text u)) h.hint,
    shorten_congr h.message, h.code, h.severity, h.span, h.receivedType]

theorem render_json_eq_iff (h : d₁.AlikeUpTo limit d₂) :
    (limited .json limit).render d₁ = (limited .json limit).render d₂ ↔
      (∃ e, (limited .json limit).render d₁ = .error e) ∨ d₁.argumentName = d₂.argumentName := by
  have hrender (d : Diagnostic) : (limited .json limit).render d =
      JsonScalar.writeObject ((limited .json limit).members d) := rfl
  have hargument := h.argumentName
  rw [hrender, hrender, members_eq, members_eq, membersAround_congr h]
  generalize d₁.argumentName = s, d₂.argumentName = t at hargument ⊢
  cases hargument with
  | none => exact iff_of_true rfl (.inr rfl)
  | some _ =>
    rw [Option.some_inj]
    simp only [Option.toList_some, List.map_cons, List.map_nil, List.append_assoc,
      List.singleton_append]
    exact JsonScalar.writeObject_text_eq_iff _ _ _ _ _

/-- Diagnostics that are alike up to the limit are reported alike exactly when no report can be
written or the text that the layout exposes is the same. -/
theorem render_eq_iff_exposed_eq (h : d₁.AlikeUpTo limit d₂) (layout : ReportLayout) :
    (limited layout limit).render d₁ = (limited layout limit).render d₂ ↔
      (∃ e, (limited layout limit).render d₁ = .error e) ∨
        layout.exposed d₁ = layout.exposed d₂ := by
  cases layout with
  | block => simpa only [ReportLayout.exposed, Option.some_inj] using render_block_eq_iff h
  | line => exact iff_of_true (render_line_congr h) (.inr rfl)
  | json => exact render_json_eq_iff h

def ofTexts (message argument : String) : Diagnostic :=
  { code := .parameterNotProvided
    message := message.toList
    argumentName := some argument.toList }

theorem ofTexts_alikeUpTo {m₁ m₂ a₁ a₂ : String} (hm : AlikeUpTo limit m₁.toList m₂.toList)
    (ha : AlikeUpTo limit a₁.toList a₂.toList) : (ofTexts m₁ a₁).AlikeUpTo limit (ofTexts m₂ a₂) :=
  ⟨rfl, rfl, rfl, rfl, hm, .some ha, .none⟩

theorem render_eq_iff_exposed_eq_message :
    (ofTexts "secret one" "user").AlikeUpTo 7 (ofTexts "secret two" "user") ∧
      (limited .json 7).render (ofTexts "secret one" "user") =
        (limited .json 7).render (ofTexts "secret two" "user") := by
  have h : (ofTexts "secret one" "user").AlikeUpTo 7 (ofTexts "secret two" "user") :=
    ofTexts_alikeUpTo (.inr (by decide)) (.inl rfl)
  have hexposed : ReportLayout.json.exposed (ofTexts "secret one" "user") =
      ReportLayout.json.exposed (ofTexts "secret two" "user") := by
    simp only [ReportLayout.exposed, ofTexts]
  exact ⟨h, (render_eq_iff_exposed_eq h .json).mpr (.inr hexposed)⟩

/-- The block layout shows a message in full, and the JSON layout an argument. -/
theorem limited_render_exposes :
    ((ofTexts "secret one" "user").AlikeUpTo 7 (ofTexts "secret two" "user") ∧
      (limited .block 7).render (ofTexts "secret one" "user") ≠
        (limited .block 7).render (ofTexts "secret two" "user")) ∧
    (ofTexts "secret one" "secret one").AlikeUpTo 7 (ofTexts "secret one" "secret two") ∧
      (limited .json 7).render (ofTexts "secret one" "secret one") ≠
        (limited .json 7).render (ofTexts "secret one" "secret two") := by
  have hsecret : AlikeUpTo 7 "secret one".toList "secret two".toList := .inr (by decide)
  refine ⟨⟨ofTexts_alikeUpTo hsecret (.inl rfl), ?_⟩, ofTexts_alikeUpTo (.inl rfl) hsecret, ?_⟩
  · exact mt (congrArg Except.toOption) (by decide)
  · exact mt (congrArg Except.toOption) (by decide)

end Report

end MessageTemplate
