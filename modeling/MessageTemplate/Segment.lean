import MessageTemplate.Span
import MessageTemplate.Cursor
import MessageTemplate.GroupMatching

/-! A template as literal text and placeholders. A balanced group is a placeholder; any other brace
is literal text. `segments_eq_scan` says that one pass over the braces finds what reading from left
to right finds. -/
namespace MessageTemplate

inductive Segment
  | text (content : Text)
  | placeholder (content : Text) (span : Span)
  deriving DecidableEq

namespace Segment

def source : Segment → Text
  | text content => content
  | placeholder content _ => braced content

def group (offset : Nat) (content : Text) : Segment :=
  placeholder content ⟨offset, offset + content.length + 2, by omega⟩

/-- Put a literal code point in front, joining it to a text that comes first. -/
def prependText (c : Char) : List Segment → List Segment
  | text content :: rest => text (c :: content) :: rest
  | rest => text [c] :: rest

/-- Segments of code points that carry the content lengths of the groups they open, where the first
`skip` of them belong to the placeholder before. -/
def assemble : Nat → Nat → List (Char × Option Nat) → List Segment
  | _, _, [] => []
  | offset, skip + 1, _ :: t => assemble (offset + 1) skip t
  | offset, 0, (c, none) :: t => prependText c (assemble (offset + 1) 0 t)
  | offset, 0, (_, some length) :: t =>
      group offset ((t.take length).map Prod.fst) :: assemble (offset + 1) (length + 1) t

theorem assemble_skip (offset skip : Nat) (t : List (Char × Option Nat)) (h : skip ≤ t.length) :
    assemble offset skip t = assemble (offset + skip) 0 (t.drop skip) := by
  induction skip generalizing offset t with
  | zero => rfl
  | succ skip ih =>
    cases t with
    | nil => simp at h
    | cons p t =>
      rw [assemble, ih _ _ (by simpa using h), List.drop_succ_cons]
      congr 1
      omega

/-- Left to right: a brace that opens a complete group makes a placeholder, and reading goes on
after the group. -/
def scan (offset : Nat) : Text → List Segment
  | [] => []
  | c :: t =>
      if c = openBrace then
        match h : closeGroup 0 t with
        | some (content, rest) => group offset content :: scan (offset + content.length + 2) rest
        | none => prependText c (scan (offset + 1) t)
      else prependText c (scan (offset + 1) t)
termination_by t => t.length
decreasing_by
  all_goals simp_wf
  have := closeGroup_length h
  omega

end Segment

def segments (template : Text) : List Segment :=
  Segment.assemble 0 0 (template.zip (contentLengths template))

theorem assemble_eq_scan (offset : Nat) (t : Text) :
    Segment.assemble offset 0 (t.zip (contentLengths t)) = Segment.scan offset t := by
  fun_induction Segment.scan offset t with
  | case1 => rfl
  | case2 offset t content rest h ih =>
    rw [contentLengths_cons, if_pos rfl, h]
    simp only [Option.map_some, List.zip_cons_cons, Segment.assemble]
    obtain ⟨ht, -⟩ := closeGroup_eq_some_iff.mp h
    have hl := closeGroup_length h
    congr 1
    · congr 1
      rw [List.map_take, List.map_fst_zip (by simp [contentLengths_length])]
      simp [ht]
    · rw [Segment.assemble_skip _ _ _ (by simp [contentLengths_length]; omega)]
      rw [List.zip, List.drop_zipWith, drop_contentLengths, ← List.zip]
      have hd : t.drop (content.length + 1) = rest := by
        simp [ht]
      rw [hd, ← ih]
      congr 1
      omega
  | case3 offset t h ih =>
    rw [contentLengths_cons, if_pos rfl, h]
    simp only [Option.map_none, List.zip_cons_cons, Segment.assemble, ih]
  | case4 offset c t hc ih =>
    rw [contentLengths_cons, if_neg hc]
    simp only [List.zip_cons_cons, Segment.assemble, ih]

theorem segments_eq_scan (template : Text) : segments template = Segment.scan 0 template :=
  assemble_eq_scan 0 template

namespace Segment

def textBetween (t : Text) (start stop : Nat) : List Segment :=
  if start < stop then [text (cut t start stop)] else []

end Segment

/-- The segments of a template as far as a place in it, and where the literal text starts that is
not yet written. -/
structure TemplateScan where
  pos : Nat
  textStart : Nat
  written : List Segment

def TemplateScan.start : TemplateScan := ⟨0, 0, []⟩

/-- Read a template: a group that the pass over its braces has matched is a placeholder, and any
other code point is literal text. -/
def templateLoop (t : Text) : ScanLoop SpanError TemplateScan (List Segment) where
  cursor s := ⟨t, s.pos⟩
  round s :=
    match (bracePairs t).find? (·.1 = s.pos) with
    | none => .ok (.next { s with pos := ((⟨t, s.pos⟩ : Cursor).advance 1).pos.toNat })
    | some (_, closer) =>
        (Span.ofBounds s.pos (closer + 1)).map fun span =>
          let content := cut t (s.pos + 1 : Nat) closer
          let written := s.written ++ Segment.textBetween t s.textStart s.pos
          .next ⟨closer + 1, closer + 1, written ++ [.placeholder content span]⟩
  atEnd s := s.written ++ Segment.textBetween t s.textStart t.length

end MessageTemplate
