import MessageTemplate.Proofs.PieceReading
import MessageTemplate.Proofs.PlaceholderFields
import MessageTemplate.Proofs.SegmentCuts

/-! Nesting is kept on the way from a template to the category texts: what is cut out of a balanced
content is balanced again, so reading it never meets a brace without a partner. -/
namespace MessageTemplate

/-- Code points that are no braces may be taken from both ends of a balanced text. -/
theorem Balanced.of_append_append {l t r : Text} (hl : openBrace ∉ l ∧ closeBrace ∉ l)
    (hr : openBrace ∉ r ∧ closeBrace ∉ r) (h : Balanced (l ++ (t ++ r))) : Balanced t := by
  have hlo := List.count_eq_zero.mpr hl.1
  have hlc := List.count_eq_zero.mpr hl.2
  have hro := List.count_eq_zero.mpr hr.1
  have hrc := List.count_eq_zero.mpr hr.2
  constructor
  · intro p hp
    have hfront : l ++ p <+: l ++ (t ++ r) :=
      (List.prefix_append_right_inj l).mpr (hp.trans (List.prefix_append t r))
    have := h.1 _ hfront
    simp only [List.count_append] at this
    omega
  · have := h.2
    simp only [List.count_append] at this
    omega

theorem brace_notMem_of_blank {t : Text} (h : ∀ c ∈ t, isBlank c = true) :
    openBrace ∉ t ∧ closeBrace ∉ t :=
  ⟨fun hm => by simpa [isBlank_openBrace] using h _ hm,
    fun hm => by simpa [isBlank_closeBrace] using h _ hm⟩

/-- A text is what is left of it between white space. -/
theorem exists_trim (t : Text) : ∃ l r, (∀ c ∈ l, isBlank c = true) ∧ (∀ c ∈ r, isBlank c = true) ∧
    t = l ++ (trim t ++ r) := by
  refine ⟨t.takeWhile isBlank, ((dropBlank t).reverse.takeWhile isBlank).reverse, ?_, ?_, ?_⟩
  · exact fun c hc => List.mem_takeWhile_imp hc
  · exact fun c hc => List.mem_takeWhile_imp (List.mem_reverse.mp hc)
  · have hback : trim t ++ ((dropBlank t).reverse.takeWhile isBlank).reverse = dropBlank t := by
      unfold trim
      rw [← List.reverse_append]
      change ((dropBlank t).reverse.takeWhile isBlank ++
        (dropBlank t).reverse.dropWhile isBlank).reverse = dropBlank t
      rw [List.takeWhile_append_dropWhile, List.reverse_reverse]
    rw [hback]
    exact (List.takeWhile_append_dropWhile).symm

theorem Balanced.trim {t : Text} (h : Balanced t) : Balanced (trim t) := by
  obtain ⟨l, r, hl, hr, ht⟩ := exists_trim t
  rw [ht] at h
  exact h.of_append_append (brace_notMem_of_blank hl) (brace_notMem_of_blank hr)

/-- Splitting a balanced text never meets a closing brace at depth 0. -/
theorem Balanced.foldl_nesting_ne_zero {p q : Text} (h : Balanced (p ++ closeBrace :: q)) :
    p.foldl nesting 0 ≠ 0 :=
  (closes_cons_iff.mp (closes_foldl_nesting ((balanced_iff _).mp h))).1 rfl

/-- Of a text that closes the open groups, the first argument closes them and the others are
balanced. -/
theorem closes_splitFrom {depth : Nat} {t : Text} (h : closes depth t = true) :
    closes depth (splitFrom depth t).1 = true ∧ ∀ a ∈ (splitFrom depth t).2, Balanced a := by
  induction t generalizing depth with
  | nil => simpa [splitFrom] using h
  | cons c t ih =>
    obtain ⟨hc, ht⟩ := closes_cons_iff.mp h
    obtain ⟨hfirst, hothers⟩ := ih ht
    simp only [splitFrom]
    split
    · rename_i hcomma
      obtain ⟨rfl, rfl⟩ := hcomma
      exact ⟨rfl, List.forall_mem_cons.mpr ⟨(balanced_iff _).mpr hfirst, hothers⟩⟩
    · exact ⟨closes_cons_iff.mpr ⟨hc, hfirst⟩, hothers⟩

theorem Balanced.splitFrom {t : Text} (h : Balanced t) :
    Balanced (splitFrom 0 t).1 ∧ ∀ a ∈ (MessageTemplate.splitFrom 0 t).2, Balanced a := by
  obtain ⟨hfirst, hothers⟩ := closes_splitFrom ((balanced_iff t).mp h)
  exact ⟨(balanced_iff _).mpr hfirst, hothers⟩

theorem balanced_joinArguments {args : List Text} (h : ∀ a ∈ args, Balanced a) :
    Balanced (joinArguments args) := by
  have hcomma : Balanced [separator] := by decide
  induction args with
  | nil => exact balanced_nil
  | cons a args ih =>
    obtain ⟨ha, hargs⟩ := List.forall_mem_cons.mp h
    by_cases hne : args = []
    · subst hne
      rwa [joinArguments_singleton]
    · rw [joinArguments_cons a hne]
      exact ha.append (hcomma.append (ih hargs))

theorem not_balanced_closeBrace {t : Text} : ¬ Balanced (closeBrace :: t) := by
  intro h
  exact (closes_cons_iff.mp ((balanced_iff _).mp h)).1 rfl rfl

theorem Balanced.of_append_left {s t : Text} (hs : Balanced s) (h : Balanced (s ++ t)) :
    Balanced t := by
  rw [balanced_iff] at hs h ⊢
  rwa [← Nat.zero_add 0, closes_append hs] at h

/-- A group at the start of a balanced text is closed, and a balanced text follows it. -/
theorem Balanced.exists_group {t : Text} (h : Balanced (openBrace :: t)) :
    ∃ content rest, closeGroup 0 t = some (content, rest) ∧ Balanced rest := by
  cases hg : closeGroup 0 t with
  | none =>
    have hopen := closeGroup_eq_none_iff.mp hg t List.prefix_rfl
    have htotal := h.2
    rw [List.count_cons_self, List.count_cons_of_ne openBrace_ne_closeBrace] at htotal
    omega
  | some g =>
    obtain ⟨content, rest⟩ := g
    obtain ⟨hsplit, hb⟩ := eq_braced_of_closeGroup hg
    rw [hsplit] at h
    exact ⟨content, rest, rfl, (balanced_braced hb).of_append_left h⟩

namespace Piece

/-- Reading on in a balanced text finds a piece that is no stray brace, no word stops at a closing
brace, and the rest is balanced. -/
theorem read_of_balanced {t : Text} (h : Balanced t) (hne : t ≠ []) :
    ∃ p rest, read t = some (p, rest) ∧ Balanced rest ∧ p ≠ stray ∧
      ∀ key, p = word key → rest.head? ≠ some closeBrace := by
  cases hread : read t with
  | none =>
    obtain ⟨key, u, hkey, hu, rfl⟩ := exists_open_of_read_eq_none hread hne
    have hgroup : Balanced (openBrace :: u) := (balanced_of_isKeyChar hkey).of_append_left h
    obtain ⟨content, rest, hg, -⟩ := hgroup.exists_group
    rw [hu] at hg
    cases hg
  | some r =>
    obtain ⟨p, rest⟩ := r
    obtain ⟨rfl, hfits⟩ := read_eq_some_iff.mp hread
    have hstray : p ≠ stray := by
      rintro rfl
      exact not_balanced_closeBrace h
    have hrest : Balanced rest := (hfits.balanced_source hstray).of_append_left h
    refine ⟨p, rest, rfl, hrest, hstray, fun key _ hstop => ?_⟩
    obtain ⟨u, rfl⟩ := List.head?_eq_some_iff.mp hstop
    exact not_balanced_closeBrace hrest

end Piece

/-- A body is read to its end, so that every group is closed, without a stray brace and without a
word that a closing brace stops. -/
structure ReadsWhole (body : Text) : Prop where
  sources : (pieces body).flatMap Piece.source = body
  noStray : Piece.stray ∉ pieces body
  noStop : ∀ before key after, pieces body = before ++ Piece.word key :: after →
    (after.flatMap Piece.source).head? ≠ some closeBrace

theorem Balanced.readsWhole {body : Text} (h : Balanced body) : ReadsWhole body := by
  induction body using pieces.induct with
  | case1 body hread =>
    have hnil : body = [] := by
      by_contra hne
      obtain ⟨p, rest, hp, -⟩ := Piece.read_of_balanced h hne
      simp [hread] at hp
    subst hnil
    have hpieces := pieces_of_read_eq_none hread
    exact ⟨by rw [hpieces]; rfl, by simp [hpieces], by simp [hpieces]⟩
  | case2 body p rest hread ih =>
    have hne : body ≠ [] := by
      rintro rfl
      cases hread
    obtain ⟨p', rest', hp, hrest, hstray, hword⟩ := Piece.read_of_balanced h hne
    obtain ⟨rfl, rfl⟩ : p = p' ∧ rest = rest' := by simpa [hread] using hp
    have hw := ih hrest
    have hpieces := pieces_of_read_eq_some hread
    refine ⟨?_, ?_, ?_⟩
    · rw [hpieces, List.flatMap_cons, hw.sources, ← (Piece.of_read hread).1]
    · rw [hpieces, List.mem_cons, not_or]
      exact ⟨Ne.symm hstray, hw.noStray⟩
    · intro before key after he
      rw [hpieces] at he
      rcases List.cons_eq_append_iff.mp he with ⟨-, hq⟩ | ⟨before, rfl, hq⟩
      · obtain ⟨hp', rfl⟩ := List.cons.inj hq
        rw [hw.sources]
        exact hword key hp'.symm
      · exact hw.noStop before key after hq

theorem balanced_of_mem_pieces {body key content : Text}
    (h : Piece.entry key content ∈ pieces body) : Balanced content := by
  induction body using pieces.induct with
  | case1 body hread => simp [pieces_of_read_eq_none hread] at h
  | case2 body p rest hread ih =>
    rw [pieces_of_read_eq_some hread] at h
    rcases List.mem_cons.mp h with rfl | h
    · exact (Piece.of_read hread).2.2
    · exact ih h

theorem PluralTable.balanced_of_find? {body : Option Text} {key content : Text}
    (h : (ofBody body).find? key = some content) : Balanced content := by
  rw [ofBody, ofPieces_eq_ofList] at h
  obtain ⟨p, hp, he⟩ := List.mem_filterMap.mp (mem_of_find?_ofList h)
  cases p with
  | entry k text =>
    cases he
    exact balanced_of_mem_pieces hp
  | blank c => cases he
  | stray => cases he
  | keyless text => cases he
  | word k => cases he

/-- All that is cut out of a placeholder of a template is balanced: its arguments, its name, format
type and body, and the category texts of the body. So splitting never counts below depth 0 and comes
back to it, and the body is read to its end without a stray brace. -/
theorem placeholder_balanced {template content : Text} {span : Span}
    (h : Segment.placeholder content span ∈ segments template) :
    Balanced content ∧
    (∀ a ∈ splitArguments content, Balanced a) ∧
    (∀ p q, content = p ++ closeBrace :: q → p.foldl nesting 0 ≠ 0) ∧ content.foldl nesting 0 = 0 ∧
    Balanced (Placeholder.read content (some span)).name ∧
    (∀ f, (Placeholder.read content (some span)).formatName = some f → Balanced f) ∧
    (∀ body, (Placeholder.read content (some span)).body = some body →
      Balanced body ∧ ReadsWhole body) ∧
    ∀ key text,
      (PluralTable.ofBody (Placeholder.read content (some span)).body).find? key = some text →
        Balanced text := by
  obtain ⟨before, after, hss⟩ := List.append_of_mem h
  have hwf := Segment.wellFormed_segments template
  obtain ⟨hb, -, -⟩ := hwf.fits before _ after hss
  obtain ⟨hname, hothers⟩ := hb.splitFrom
  refine ⟨hb, List.forall_mem_cons.mpr ⟨hname, hothers⟩, ?_, hb.foldl_nesting, hname.trim, ?_, ?_,
    fun key text => PluralTable.balanced_of_find?⟩
  · rintro p q rfl
    exact hb.foldl_nesting_ne_zero
  · intro f hf
    obtain ⟨a, ha, rfl⟩ := Option.map_eq_some_iff.mp hf
    exact (hothers a (List.mem_of_mem_head? ha)).trim
  · intro body hbody
    have hargs : body = joinArguments (splitFrom 0 content).2.tail := by
      unfold Placeholder.read at hbody
      dsimp only at hbody
      split at hbody
      · cases hbody
      · exact (Option.some.inj hbody).symm
    have hbalanced : Balanced body := by
      rw [hargs]
      exact balanced_joinArguments fun a ha => hothers a (List.mem_of_mem_tail ha)
    exact ⟨hbalanced, hbalanced.readsWhole⟩

def nestedBody : Text := " one\x7ba, \x7bb\x7d\x7d other\x7b\x7d".toList

def nestedContent : Text := "n, plural,".toList ++ nestedBody

/-- A stray closing brace and an unclosed group stand in front of the placeholder. -/
theorem placeholder_balanced_nested :
    Segment.placeholder nestedContent ⟨3, 35, by omega⟩ ∈
        segments ("\x7d\x7b ".toList ++ braced nestedContent) ∧
      (Placeholder.read nestedContent (some ⟨3, 35, by omega⟩)).body = some nestedBody ∧
      Balanced nestedBody ∧ ReadsWhole nestedBody := by
  have hm : Segment.placeholder nestedContent ⟨3, 35, by omega⟩ ∈
      segments ("\x7d\x7b ".toList ++ braced nestedContent) := by decide
  have hbody : (Placeholder.read nestedContent (some ⟨3, 35, by omega⟩)).body = some nestedBody := by
    decide
  obtain ⟨-, -, -, -, -, -, hread, -⟩ := placeholder_balanced hm
  exact ⟨hm, hbody, hread _ hbody⟩

end MessageTemplate
