import Mathlib.Data.List.DropRight
import MessageTemplate.Proofs.BracePairs
import MessageTemplate.Proofs.PieceReading
import MessageTemplate.Proofs.PlaceholderFields
import MessageTemplate.Proofs.SegmentRoundtrip

/-! A plural body read as a template. `PluralTable.ofBody_eq_ofList_declarations` says that the
groups of the template are the category texts and the words that end in front of them the keys, as
far as the first brace that opens no group. -/
namespace MessageTemplate

/-- The offset of the first unclosed brace; the length of the text if there is none. -/
def firstUnclosed (t : Text) : Nat := (List.range t.length).findIdx fun i => IsUnclosed t i

theorem firstUnclosed_cons (c : Char) (t : Text) :
    firstUnclosed (c :: t) =
      if c = openBrace ∧ closeGroup 0 t = none then 0 else firstUnclosed t + 1 := by
  have hzero : IsUnclosed (c :: t) 0 ↔ c = openBrace ∧ closeGroup 0 t = none := by
    simp [isUnclosed_iff]
  have hsucc : ∀ i, IsUnclosed (c :: t) (i + 1) ↔ IsUnclosed t i := by
    intro i
    simp [isUnclosed_iff]
  unfold firstUnclosed
  rw [List.length_cons, List.range_succ_eq_map, List.findIdx_cons, List.findIdx_map]
  simp only [hzero, Function.comp_def, Nat.succ_eq_add_one, hsucc]
  by_cases h : c = openBrace ∧ closeGroup 0 t = none
  · simp [h]
  · simp only [decide_eq_false h, if_neg h]
    rfl

theorem firstUnclosed_open {t : Text} (h : closeGroup 0 t = none) :
    firstUnclosed (openBrace :: t) = 0 := by
  rw [firstUnclosed_cons, if_pos ⟨rfl, h⟩]

/-- A group that is closed is closed in a longer text. -/
theorem closeGroup_append_ne_none {depth : Nat} {s : Text} (h : closes (depth + 1) s = true)
    (t : Text) : closeGroup 0 (s ++ t) ≠ none := by
  intro hopen
  have hfront := closeGroup_eq_none_iff.mp hopen s (List.prefix_append s t)
  have htotal := (closes_iff.mp h).2
  omega

/-- Before a text that follows on a balanced one no brace is left open. -/
theorem firstUnclosed_append_of_closes {depth : Nat} {s : Text} (h : closes depth s = true)
    (t : Text) : firstUnclosed (s ++ t) = s.length + firstUnclosed t := by
  induction s generalizing depth with
  | nil => simp
  | cons c s ih =>
    have hstep : firstUnclosed (c :: (s ++ t)) = firstUnclosed (s ++ t) + 1 := by
      rw [firstUnclosed_cons, if_neg]
      rintro ⟨rfl, hopen⟩
      have hs : closes (depth + 1) s = true := by simpa [closes] using h
      exact closeGroup_append_ne_none hs t hopen
    rw [List.cons_append, hstep, ih (closes_cons_iff.mp h).2, List.length_cons]
    omega

theorem Balanced.firstUnclosed_append {s : Text} (h : Balanced s) (t : Text) :
    firstUnclosed (s ++ t) = s.length + firstUnclosed t :=
  firstUnclosed_append_of_closes ((balanced_iff s).mp h) t

namespace Piece

/-- A piece leaves no brace open. -/
theorem firstUnclosed_source_append {p : Piece} {rest : Text} (h : p.FitsBefore rest) :
    firstUnclosed (p.source ++ rest) = p.source.length + firstUnclosed rest := by
  by_cases hp : p = stray
  · subst hp
    change firstUnclosed (closeBrace :: rest) = 1 + firstUnclosed rest
    rw [firstUnclosed_cons, if_neg (by simp), Nat.add_comm]
  · exact (h.balanced_source hp).firstUnclosed_append rest

theorem FitsBefore.take {p : Piece} {rest : Text} (h : p.FitsBefore rest) (n : Nat) :
    p.FitsBefore (rest.take n) := by
  cases p with
  | word key =>
    refine ⟨h.1, fun c hc => h.2 c ?_⟩
    rw [List.head?_take] at hc
    split at hc
    · cases hc
    · exact hc
  | blank c => exact h
  | stray => exact h
  | keyless content => exact h
  | entry key content => exact h

end Piece

namespace Segment

/-- What placeholders declare: their contents for the words that end the texts right before them. -/
def declarations : List Segment → List (Text × Text)
  | text s :: placeholder content _ :: rest =>
      let key := s.rtakeWhile isKeyChar
      if key = [] then declarations rest else (key, content) :: declarations rest
  | _ :: rest => declarations rest
  | [] => []

theorem declarations_placeholder (content : Text) (span : Span) (ss : List Segment) :
    declarations (placeholder content span :: ss) = declarations ss := by
  rw [declarations]
  intro s c sp rest he
  cases he

theorem declarations_key {key : Text} (hk : IsKey key) (content : Text) (span : Span)
    (ss : List Segment) :
    declarations (text key :: placeholder content span :: ss) =
      (key, content) :: declarations ss := by
  have hkey : key.rtakeWhile isKeyChar = key := List.rtakeWhile_eq_self_iff.mpr hk.2
  rw [declarations, hkey]
  simp [hk.1]

theorem takeWhile_append_cons {s t : Text} {c : Char} (hc : isKeyChar c = false) :
    (s ++ c :: t).takeWhile isKeyChar = s.takeWhile isKeyChar := by
  induction s with
  | nil => simp [hc]
  | cons a s ih => simp [List.takeWhile_cons, ih]

theorem rtakeWhile_append_cons {s t : Text} {c : Char} (hc : isKeyChar c = false) :
    (s ++ c :: t).rtakeWhile isKeyChar = t.rtakeWhile isKeyChar := by
  have hreverse : (s ++ c :: t).reverse = t.reverse ++ c :: s.reverse := by simp
  rw [List.rtakeWhile, hreverse, takeWhile_append_cons hc, List.rtakeWhile]

/-- Text counts for nothing if it does not end in a key. -/
theorem declarations_merge {c : Char} (hc : isKeyChar c = false) (s : Text) (ss : List Segment) :
    declarations (merge (text (s ++ [c])) ss) = declarations ss := by
  have hend : (s ++ [c]).rtakeWhile isKeyChar = [] := rtakeWhile_append_cons hc
  rcases ss with - | ⟨⟨t⟩ | ⟨content, span⟩, rest⟩
  · rfl
  · have ht : (s ++ [c] ++ t).rtakeWhile isKeyChar = t.rtakeWhile isKeyChar := by
      rw [List.append_assoc]
      exact rtakeWhile_append_cons hc
    rcases rest with - | ⟨⟨u⟩ | ⟨content, span⟩, rest⟩
    · rfl
    · rfl
    · change declarations (text (s ++ [c] ++ t) :: placeholder content span :: rest) = _
      rw [declarations, declarations, ht]
  · change declarations (text (s ++ [c]) :: placeholder content span :: rest) = _
    rw [declarations, hend, declarations_placeholder]
    rfl

/-- Text without an opening brace is read as it is, up to what follows it. -/
theorem scan_text_append {s : Text} (hne : s ≠ []) (ho : openBrace ∉ s) (offset : Nat) (t : Text) :
    scan offset (s ++ t) = merge (text s) (scan (offset + s.length) t) := by
  have hs : scan offset s = [text s] := by
    rw [scan_unpaired (unpaired_of_notMem ho), if_neg hne]
  have hseam : openBrace ∉ literals (scan offset s) := by
    rw [hs]
    simpa [literal] using ho
  rw [scan_append (.inl hseam), hs]
  rfl

theorem scan_braced_append {content : Text} (hb : Balanced content) (offset : Nat) (t : Text) :
    scan offset (braced content ++ t) =
      group offset content :: scan (offset + content.length + 2) t := by
  rw [braced_append, scan_group (closeGroup_of_balanced hb t)]

theorem declarations_scan_cons {c : Char} (ho : c ≠ openBrace) (hc : isKeyChar c = false)
    (offset : Nat) (t : Text) :
    declarations (scan offset (c :: t)) = declarations (scan (offset + 1) t) := by
  rw [scan_cons_of_ne ho]
  exact declarations_merge hc [] _

/-- From a piece only an entry counts, and reading goes on after it as from a start. -/
theorem declarations_scan_append {p : Piece} {t : Text} (h : p.FitsBefore t) (offset : Nat) :
    declarations (scan offset (p.source ++ t)) =
      p.entry?.toList ++ declarations (scan (offset + p.source.length) t) := by
  cases p with
  | blank c =>
    obtain ⟨hc, ho⟩ := stops_key (.inl h)
    exact declarations_scan_cons ho hc offset t
  | stray =>
    obtain ⟨hc, ho⟩ := stops_key (.inr rfl)
    exact declarations_scan_cons ho hc offset t
  | keyless content =>
    rw [Piece.source, scan_braced_append h, group, declarations_placeholder, braced_length]
    rfl
  | word key =>
    rw [Piece.source, scan_text_append h.1.1 (openBrace_notMem_of_isKeyChar h.1.2)]
    cases t with
    | nil =>
      rw [scan_nil]
      rfl
    | cons c t =>
      obtain ⟨hc, ho⟩ := stops_key (h.2 c rfl)
      rw [declarations_scan_cons ho hc, scan_cons_of_ne ho, merge_text_merge, declarations_merge hc]
      rfl
  | entry key content =>
    rw [Piece.source, List.append_assoc,
      scan_text_append h.1.1 (openBrace_notMem_of_isKeyChar h.1.2), scan_braced_append h.2,
      List.length_append, braced_length, ← Nat.add_assoc, ← Nat.add_assoc]
    exact declarations_key h.1 content _ _

/-- As far as the first brace that opens no group, what the template declares are the entries of the
body. -/
theorem declarations_scan_take (offset : Nat) (body : Text) :
    declarations (scan offset (body.take (firstUnclosed body))) =
      (pieces body).filterMap Piece.entry? := by
  induction body using pieces.induct generalizing offset with
  | case1 body hread =>
    rw [pieces_of_read_eq_none hread]
    by_cases hne : body = []
    · subst hne
      exact congrArg declarations (scan_nil offset)
    · obtain ⟨key, u, hk, hu, rfl⟩ := Piece.exists_open_of_read_eq_none hread hne
      rw [(balanced_of_isKeyChar hk).firstUnclosed_append, firstUnclosed_open hu, Nat.add_zero,
        List.take_left, scan_unpaired (unpaired_of_notMem (openBrace_notMem_of_isKeyChar hk))]
      split <;> rfl
  | case2 body p rest hread ih =>
    obtain ⟨rfl, hfits⟩ := Piece.read_eq_some_iff.mp hread
    rw [Piece.firstUnclosed_source_append hfits, List.take_length_add_append,
      declarations_scan_append (hfits.take _), ih, pieces_of_read_eq_some hread,
      List.filterMap_cons]
    cases p.entry? <;> rfl

end Segment

/-- The table of any body: the groups that the body as a template has before its first unclosed
brace, for the keys right before them. Each key has the last of its groups, and no other key has a
text. -/
theorem PluralTable.ofBody_eq_ofList_declarations (body : Text) :
    ofBody (some body) =
      .ofList (Segment.declarations (segments (body.take (firstUnclosed body)))) ∧
    ∀ key, (ofBody (some body)).find? key =
      (((Segment.declarations (segments (body.take (firstUnclosed body)))).filter
        (·.1 = key)).map Prod.snd).getLast? := by
  have htable : ofBody (some body) =
      .ofList (Segment.declarations (segments (body.take (firstUnclosed body)))) := by
    rw [segments_eq_scan, Segment.declarations_scan_take, ← ofPieces_eq_ofList]
    rfl
  refine ⟨htable, fun key => ?_⟩
  rw [htable, find?_ofList]

/-- A key after a stray brace, a key right after a group, and a brace that is never closed. -/
example :
    let body := "a\x7done\x7bx\x7dother\x7by\x7d few\x7b many\x7bz\x7d".toList
    Segment.declarations (segments (body.take (firstUnclosed body))) =
      [("one".toList, ['x']), ("other".toList, ['y'])] := by
  decide

end MessageTemplate
