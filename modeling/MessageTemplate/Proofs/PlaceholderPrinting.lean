import MessageTemplate.Proofs.Concatenation
import MessageTemplate.Proofs.Nesting

/-! Placeholders written from their fields. `Placeholder.read_written` says that fields are read
back from what is written for them, whatever the content was that they were read from. -/
namespace MessageTemplate

theorem hasUnmatchedOpen_cons {c : Char} {t : Text} :
    HasUnmatchedOpen (c :: t) ↔ (c = openBrace ∧ ClosesAtMost 0 t) ∨ HasUnmatchedOpen t := by
  unfold HasUnmatchedOpen
  rw [contentLengths_cons, List.zip_cons_cons, List.mem_cons, ← closeGroup_eq_none_iff]
  refine or_congr_left ?_
  by_cases ho : c = openBrace
  · simp [ho]
  · simp [ho, Ne.symm ho]

theorem not_hasUnmatchedOpen_nil : ¬ HasUnmatchedOpen [] := by
  intro h
  cases h

/-- A text leaves no group open where each of its own and of those before it is closed. -/
theorem foldl_nesting_eq_zero_iff {depth : Nat} {t : Text} :
    t.foldl nesting depth = 0 ↔ ¬ HasUnmatchedOpen t ∧ ∀ d < depth, ¬ ClosesAtMost d t := by
  induction t generalizing depth with
  | nil =>
    simp only [List.foldl_nil, not_hasUnmatchedOpen_nil, not_false_eq_true, true_and,
      closesAtMost_nil, not_true_eq_false, imp_false, Nat.not_lt]
    exact ⟨fun h d => by omega, fun h => Nat.le_zero.mp (h 0)⟩
  | cons c t ih =>
    rw [List.foldl_cons, ih, hasUnmatchedOpen_cons, not_or]
    by_cases ho : c = openBrace
    · -- The group that opens here is one more to be closed.
      subst ho
      simp only [nesting, if_true, true_and, closesAtMost_openBrace]
      rw [Nat.forall_lt_succ_left]
      tauto
    · by_cases hc : c = closeBrace
      · subst hc
        cases depth with
        | zero => simp [nesting]
        | succ depth =>
          rw [Nat.forall_lt_succ_left]
          simp [nesting, not_closesAtMost_zero_closeBrace, closesAtMost_succ_closeBrace]
      · simp [nesting, ho, hc, closesAtMost_cons_of_ne ho hc]

theorem foldl_nesting_zero_iff {t : Text} : t.foldl nesting 0 = 0 ↔ ¬ HasUnmatchedOpen t := by
  simp [foldl_nesting_eq_zero_iff]

/-- An argument that ends at the comma after it. -/
structure IsArgument (t : Text) : Prop where
  comma : ¬ HasComma 0 t
  closed : ¬ HasUnmatchedOpen t

theorem hasComma_append {depth : Nat} {s t : Text} :
    HasComma depth (s ++ t) ↔ HasComma depth s ∨ HasComma (s.foldl nesting depth) t := by
  induction s generalizing depth with
  | nil => simp [HasComma]
  | cons c s ih =>
    rw [List.cons_append, hasComma_cons, ih, hasComma_cons, List.foldl_cons, or_assoc]

/-- What splits a text first is a comma after an argument. -/
theorem HasComma.exists_first {depth : Nat} {t : Text} (h : HasComma depth t) :
    ∃ first rest, t = first ++ separator :: rest ∧ ¬ HasComma depth first ∧
      first.foldl nesting depth = 0 := by
  induction t generalizing depth with
  | nil => exact absurd h (not_hasComma_of_notMem (by simp))
  | cons c t ih =>
    by_cases hc : c = separator ∧ depth = 0
    · obtain ⟨rfl, rfl⟩ := hc
      exact ⟨[], t, rfl, not_hasComma_of_notMem (by simp), rfl⟩
    · have ht : HasComma (nesting depth c) t := (hasComma_cons.mp h).resolve_left hc
      obtain ⟨first, rest, rfl, hfirst, hdepth⟩ := ih ht
      refine ⟨c :: first, rest, rfl, ?_, hdepth⟩
      rw [hasComma_cons]
      tauto

section Blank

variable {l r : Text} (hl : ∀ c ∈ l, isBlank c = true) (hr : ∀ c ∈ r, isBlank c = true)

include hl in
theorem foldl_nesting_blank (depth : Nat) : l.foldl nesting depth = depth := by
  induction l with
  | nil => rfl
  | cons c l ih =>
    obtain ⟨ho, hc⟩ := brace_notMem_of_blank hl
    rw [List.mem_cons, not_or] at ho hc
    have hstep : nesting depth c = depth := by simp [nesting, Ne.symm ho.1, Ne.symm hc.1]
    rw [List.foldl_cons, hstep, ih fun a ha => hl a (List.mem_cons_of_mem c ha)]

include hl in
theorem not_hasComma_blank (depth : Nat) : ¬ HasComma depth l := by
  apply not_hasComma_of_notMem
  intro hm
  have hcomma : isBlank separator = false := rfl
  rw [hl _ hm] at hcomma
  cases hcomma

include hl hr

/-- White space around a text neither splits it nor joins it to what follows. -/
theorem hasComma_spaced (t : Text) : HasComma 0 (l ++ (t ++ r)) ↔ HasComma 0 t := by
  rw [hasComma_append, hasComma_append, foldl_nesting_blank hl]
  simp [not_hasComma_blank hl, not_hasComma_blank hr]

theorem isArgument_spaced (t : Text) : IsArgument (l ++ (t ++ r)) ↔ IsArgument t := by
  have hclosed : ¬ HasUnmatchedOpen (l ++ (t ++ r)) ↔ ¬ HasUnmatchedOpen t := by
    rw [← foldl_nesting_zero_iff, ← foldl_nesting_zero_iff, List.foldl_append, List.foldl_append,
      foldl_nesting_blank hl, foldl_nesting_blank hr]
  have hcomma := not_congr (hasComma_spaced hl hr t)
  exact ⟨fun h => ⟨hcomma.mp h.comma, hclosed.mp h.closed⟩,
    fun h => ⟨hcomma.mpr h.comma, hclosed.mpr h.closed⟩⟩

end Blank

theorem trim_trim (t : Text) : trim (trim t) = trim t := by
  obtain ⟨l, r, hl, hr, ht⟩ := exists_trim t
  have h := trim_append hl hr (trim t)
  rw [← ht] at h
  exact h.symm

theorem hasComma_trim (t : Text) : HasComma 0 (trim t) ↔ HasComma 0 t := by
  obtain ⟨l, r, hl, hr, ht⟩ := exists_trim t
  have h := hasComma_spaced hl hr (trim t)
  rw [← ht] at h
  exact h.symm

theorem isArgument_trim (t : Text) : IsArgument (trim t) ↔ IsArgument t := by
  obtain ⟨l, r, hl, hr, ht⟩ := exists_trim t
  have h := isArgument_spaced hl hr (trim t)
  rw [← ht] at h
  exact h.symm

/-- The content of a placeholder, cut at the commas that count. -/
inductive PlaceholderContent
  | bare (name : Text) (hn : ¬ HasComma 0 name)
  | typed (name formatName : Text) (hn : IsArgument name) (hf : ¬ HasComma 0 formatName)
  | full (name formatName body : Text) (hn : IsArgument name) (hf : IsArgument formatName)

namespace PlaceholderContent

@[simp] def source : PlaceholderContent → Text
  | bare name _ => name
  | typed name formatName _ _ => name ++ separator :: formatName
  | full name formatName body _ _ => name ++ separator :: (formatName ++ separator :: body)

@[simp] def name : PlaceholderContent → Text
  | bare name _ => name
  | typed name _ _ _ => name
  | full name _ _ _ _ => name

@[simp] def formatName : PlaceholderContent → Option Text
  | bare _ _ => none
  | typed _ formatName _ _ => some formatName
  | full _ formatName _ _ _ => some formatName

@[simp] def body : PlaceholderContent → Option Text
  | bare _ _ => none
  | typed _ _ _ _ => none
  | full _ _ body _ _ => some body

/-- Every content can be cut. -/
theorem exists_source (content : Text) : ∃ parts : PlaceholderContent, parts.source = content := by
  by_cases hc : HasComma 0 content
  · obtain ⟨name, rest, rfl, hn, hnd⟩ := hc.exists_first
    have hname : IsArgument name := ⟨hn, foldl_nesting_zero_iff.mp hnd⟩
    by_cases hr : HasComma 0 rest
    · obtain ⟨formatName, body, rfl, hf, hfd⟩ := hr.exists_first
      exact ⟨full name formatName body hname ⟨hf, foldl_nesting_zero_iff.mp hfd⟩, rfl⟩
    · exact ⟨typed name rest hname hr, rfl⟩
  · exact ⟨bare content hc, rfl⟩

theorem not_hasComma_name (parts : PlaceholderContent) :
    ¬ HasComma 0 parts.name := by
  cases parts with
  | bare name hn => exact hn
  | typed name formatName hn hf => exact hn.comma
  | full name formatName body hn hf => exact hn.comma

end PlaceholderContent

theorem splitFrom_of_not_hasComma {depth : Nat} {t : Text} (h : ¬ HasComma depth t) :
    splitFrom depth t = (t, []) := by
  have hothers : (splitFrom depth t).2 = [] := by
    by_contra hne
    exact h (hasComma_iff.mpr hne)
  have hjoin := joinArguments_splitFrom depth t
  rw [hothers, joinArguments_singleton] at hjoin
  exact Prod.ext hjoin hothers

namespace Placeholder

/-- Reading finds the parts, and trims the name and the format type. -/
theorem read_source (parts : PlaceholderContent) (span : Option Span) :
    read parts.source span =
      { name := trim parts.name
        formatName := parts.formatName.map trim
        body := parts.body
        source := braced parts.source
        span := span } := by
  cases parts with
  | bare name hn =>
    rw [PlaceholderContent.source, read, splitFrom_of_not_hasComma hn]
    rfl
  | typed name formatName hn hf =>
    rw [PlaceholderContent.source, read,
      splitFrom_append_comma hn.comma (foldl_nesting_zero_iff.mpr hn.closed),
      splitFrom_of_not_hasComma hf]
    rfl
  | full name formatName body hn hf =>
    exact read_fields hn.comma (foldl_nesting_zero_iff.mpr hn.closed) hf.comma
      (foldl_nesting_zero_iff.mpr hf.closed) body span

/-- A placeholder without its braces: the fields that it has, with commas between them. -/
def written (p : Placeholder) : Text :=
  p.name ++ (p.formatName.elim [] (separator :: ·) ++ p.body.elim [] (separator :: ·))

/-- A placeholder with white space around the name and the format type. -/
def spaced (nameFront nameBack typeFront typeBack : Text) (p : Placeholder) : Placeholder :=
  { p with
    name := nameFront ++ (p.name ++ nameBack)
    formatName := p.formatName.map fun f => typeFront ++ (f ++ typeBack) }

def SameFields (p q : Placeholder) : Prop :=
  p.name = q.name ∧ p.formatName = q.formatName ∧ p.body = q.body

theorem spaced_nil (p : Placeholder) : p.spaced [] [] [] [] = p := by
  obtain ⟨name, formatName, body, source, span⟩ := p
  cases formatName <;> simp [spaced]

section Spaced

variable {nameFront nameBack typeFront typeBack : Text}
  (hnf : ∀ c ∈ nameFront, isBlank c = true) (hnb : ∀ c ∈ nameBack, isBlank c = true)
  (htf : ∀ c ∈ typeFront, isBlank c = true) (htb : ∀ c ∈ typeBack, isBlank c = true)

include hnf hnb htf htb

/-- The parts that stand in what is written for what was read from parts. -/
theorem exists_spaced (parts : PlaceholderContent) (span : Option Span) :
    ∃ new : PlaceholderContent,
      new.source = ((read parts.source span).spaced nameFront nameBack typeFront typeBack).written ∧
      new.name = nameFront ++ (trim parts.name ++ nameBack) ∧
      new.formatName = parts.formatName.map (fun f => typeFront ++ (trim f ++ typeBack)) ∧
      new.body = parts.body := by
  have hname : ∀ t, IsArgument t → IsArgument (nameFront ++ (trim t ++ nameBack)) := by
    intro t ht
    rwa [isArgument_spaced hnf hnb, isArgument_trim]
  rw [read_source]
  cases parts with
  | bare name hn =>
    have hn' : ¬ HasComma 0 (nameFront ++ (trim name ++ nameBack)) := by
      rwa [hasComma_spaced hnf hnb, hasComma_trim]
    refine ⟨.bare _ hn', ?_, rfl, rfl, rfl⟩
    simp [written, spaced]
  | typed name formatName hn hf =>
    have hf' : ¬ HasComma 0 (typeFront ++ (trim formatName ++ typeBack)) := by
      rwa [hasComma_spaced htf htb, hasComma_trim]
    refine ⟨.typed _ _ (hname name hn) hf', ?_, rfl, rfl, rfl⟩
    simp [written, spaced]
  | full name formatName body hn hf =>
    have hf' : IsArgument (typeFront ++ (trim formatName ++ typeBack)) := by
      rwa [isArgument_spaced htf htb, isArgument_trim]
    refine ⟨.full _ _ body (hname name hn) hf', ?_, rfl, rfl, rfl⟩
    simp [written, spaced]

/-- White space around the name and the format type that were read does not matter. -/
theorem sameFields_spaced (content : Text) (span span' : Option Span) :
    SameFields
      (read ((read content span).spaced nameFront nameBack typeFront typeBack).written span')
      (read content span) := by
  obtain ⟨parts, rfl⟩ := PlaceholderContent.exists_source content
  obtain ⟨new, hsource, hname, htype, hbody⟩ := exists_spaced hnf hnb htf htb parts span
  rw [← hsource, read_source, read_source]
  refine ⟨?_, ?_, hbody⟩
  · change trim new.name = trim parts.name
    rw [hname, trim_append hnf hnb, trim_trim]
  · change new.formatName.map trim = parts.formatName.map trim
    rw [htype, Option.map_map]
    congr 1
    funext f
    exact (trim_append htf htb (trim f)).trans (trim_trim f)

end Spaced

/-- The body of a content is what follows its second comma. -/
theorem exists_of_read_body {content body : Text} {span : Option Span}
    (h : (read content span).body = some body) :
    ∃ name formatName, content = name ++ separator :: (formatName ++ separator :: body) ∧
      (read content span).name = trim name ∧
      (read content span).formatName = some (trim formatName) := by
  obtain ⟨parts, rfl⟩ := PlaceholderContent.exists_source content
  rw [read_source] at h ⊢
  cases parts with
  | bare name hn => cases h
  | typed name formatName hn hf => cases h
  | full name formatName b hn hf =>
    cases h
    exact ⟨name, formatName, rfl, rfl, rfl⟩

/-- Fields with commas between them are read back: a name and a format type that no comma of their
own splits and that close their groups, and any body. What was read from any content is the same
after it was written and read again, also with white space around name and format type, and the body
is a part of the content as it stood there. -/
theorem read_written :
    (∀ name formatName body span, ¬ HasComma 0 name → ¬ HasUnmatchedOpen name →
      ¬ HasComma 0 formatName → ¬ HasUnmatchedOpen formatName →
        SameFields (read (name ++ separator :: (formatName ++ separator :: body)) span)
          { name := trim name, formatName := some (trim formatName), body := some body }) ∧
    (∀ content span span',
      SameFields (read (read content span).written span') (read content span)) ∧
    (∀ nameFront nameBack typeFront typeBack : Text,
      (∀ c ∈ nameFront ++ nameBack ++ typeFront ++ typeBack, isBlank c = true) →
        ∀ content span span', SameFields
          (read ((read content span).spaced nameFront nameBack typeFront typeBack).written span')
          (read content span)) ∧
    ∀ content span body, (read content span).body = some body →
      ∃ name formatName, content = name ++ separator :: (formatName ++ separator :: body) ∧
        (read content span).name = trim name ∧
        (read content span).formatName = some (trim formatName) := by
  refine ⟨?_, ?_, ?_, fun content span body h => exists_of_read_body h⟩
  · intro name formatName body span hn hno hf hfo
    have hread := read_source (.full name formatName body ⟨hn, hno⟩ ⟨hf, hfo⟩) span
    rw [PlaceholderContent.source] at hread
    rw [hread]
    exact ⟨rfl, rfl, rfl⟩
  · intro content span span'
    have hnil : ∀ c ∈ ([] : Text), isBlank c = true := by simp
    have h := sameFields_spaced hnil hnil hnil hnil content span span'
    rwa [spaced_nil] at h
  · intro nameFront nameBack typeFront typeBack hblank content span span'
    simp only [List.forall_mem_append] at hblank
    obtain ⟨⟨⟨hnf, hnb⟩, htf⟩, htb⟩ := hblank
    exact sameFields_spaced hnf hnb htf htb content span span'

/-- A closing brace without a group to close and a comma in a group. -/
def nestedName : Text := " \x7dn\x7ba,b\x7d ".toList

def nestedType : Text := "\tt\x7b,\x7d".toList

/-- Neither closed nor without commas. -/
def openBody : Text := "\x7d, \x7bx,".toList

def nestedFields : Text := nestedName ++ separator :: (nestedType ++ separator :: openBody)

theorem read_written_nested :
    ¬ HasComma 0 nestedName ∧ ¬ HasUnmatchedOpen nestedName ∧
      ¬ HasComma 0 nestedType ∧ ¬ HasUnmatchedOpen nestedType ∧
      SameFields (read nestedFields none)
        { name := "\x7dn\x7ba,b\x7d".toList
          formatName := some "t\x7b,\x7d".toList
          body := some openBody } ∧
      SameFields (read ((read nestedFields none).spaced [' '] [] ['\n'] ['\t']).written none)
        (read nestedFields none) ∧
      (read nestedFields none).body = some openBody ∧
      ∃ name formatName,
        nestedFields = name ++ separator :: (formatName ++ separator :: openBody) := by
  obtain ⟨hfields, -, hspaced, hbody⟩ := read_written
  have hn : ¬ HasComma 0 nestedName := by decide
  have hno : ¬ HasUnmatchedOpen nestedName := by decide
  have hf : ¬ HasComma 0 nestedType := by decide
  have hfo : ¬ HasUnmatchedOpen nestedType := by decide
  have hread := hfields nestedName nestedType openBody none hn hno hf hfo
  have hopen : (read nestedFields none).body = some openBody := hread.2.2
  have hblank : ∀ c ∈ [' '] ++ [] ++ ['\n'] ++ ['\t'], isBlank c = true := List.all_eq_true.mp rfl
  obtain ⟨name, formatName, hcontent, -⟩ := hbody _ _ _ hopen
  exact ⟨hn, hno, hf, hfo, hread, hspaced _ _ _ _ hblank nestedFields none none, hopen, name,
    formatName, hcontent⟩

end Placeholder

end MessageTemplate
