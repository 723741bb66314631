import Mathlib.Data.List.TakeWhile
import MessageTemplate.Proofs.PluralEntries

/-! One piece of a plural body. `Piece.read_eq_some_iff` says which piece is read in front of which
text, and `Piece.exists_open_of_read_eq_none` where reading stops before the end. -/
namespace MessageTemplate

def IsKey (key : Text) : Prop := key ≠ [] ∧ ∀ c ∈ key, isKeyChar c = true

instance (key : Text) : Decidable (IsKey key) :=
  decidable_of_iff (key ≠ [] ∧ key.all isKeyChar = true) (by rw [IsKey, List.all_eq_true])

theorem openBrace_notMem_of_isKeyChar {t : Text} (h : ∀ c ∈ t, isKeyChar c = true) :
    openBrace ∉ t := by
  intro hm
  have hbrace : isKeyChar openBrace = false := rfl
  rw [h _ hm] at hbrace
  cases hbrace

/-- White space and closing braces stop a key and do not open a group. -/
theorem stops_key {c : Char} (h : isBlank c = true ∨ c = closeBrace) :
    isKeyChar c = false ∧ c ≠ openBrace := by
  rcases h with hb | rfl
  · refine ⟨by simp [isKeyChar, hb], ?_⟩
    rintro rfl
    rw [isBlank_openBrace] at hb
    cases hb
  · exact ⟨rfl, by decide⟩

/-- Where a run of key characters stops, the text ends, is white space or is a brace. -/
theorem head?_dropWhile_isKeyChar {t : Text} {c : Char}
    (h : c ∈ (t.dropWhile isKeyChar).head?) : isBlank c = true ∨ c = openBrace ∨ c = closeBrace := by
  have hstop : isKeyChar c = false := by
    have := List.head?_dropWhile_not isKeyChar t
    rwa [h] at this
  by_contra hc
  rw [not_or, not_or] at hc
  have hkey : isKeyChar c = true := isKeyChar_eq_true_iff.mpr ⟨by simpa using hc.1, hc.2⟩
  rw [hkey] at hstop
  cases hstop

namespace Piece

/-- The piece is one in front of a text: a group is balanced, and a word stops at white space or a
closing brace if the text goes on. -/
def FitsBefore (rest : Text) : Piece → Prop
  | blank c => isBlank c = true
  | stray => True
  | keyless content => Balanced content
  | word key => IsKey key ∧ ∀ c ∈ rest.head?, isBlank c = true ∨ c = closeBrace
  | entry key content => IsKey key ∧ Balanced content

/-- Only a stray brace is not balanced. -/
theorem FitsBefore.balanced_source {p : Piece} {rest : Text} (h : p.FitsBefore rest)
    (hp : p ≠ stray) : Balanced p.source := by
  cases p with
  | blank c => exact balanced_of_blank (List.forall_mem_singleton.mpr h)
  | stray => exact absurd rfl hp
  | keyless content => exact balanced_braced h
  | word key => exact balanced_of_isKeyChar h.1.2
  | entry key content => exact (balanced_of_isKeyChar h.1.2).append (balanced_braced h.2)

theorem FitsBefore.source_ne_nil {p : Piece} {rest : Text} (h : p.FitsBefore rest) :
    p.source ≠ [] := by
  cases p with
  | blank c => exact List.cons_ne_nil c []
  | stray => exact List.cons_ne_nil closeBrace []
  | keyless content => exact List.cons_ne_nil openBrace _
  | word key => exact h.1.1
  | entry key content => exact List.append_ne_nil_of_left_ne_nil h.1.1 _

theorem read_keyless {content : Text} (hb : Balanced content) (t : Text) :
    read (braced content ++ t) = some (keyless content, t) := by
  rw [braced_append, read_openBrace, closeGroup_of_balanced hb]
  rfl

theorem read_word {key t : Text} (hk : IsKey key)
    (ht : ∀ c ∈ t.head?, isBlank c = true ∨ c = closeBrace) :
    read (key ++ t) = some (word key, t) := by
  obtain ⟨c, k, rfl⟩ := List.exists_cons_of_ne_nil hk.1
  obtain ⟨hc, hrest⟩ := List.forall_mem_cons.mp hk.2
  have hstop : ∀ a ∈ t.head?, isKeyChar a = false := fun a ha => (stops_key (ht a ha)).1
  have hdrop := dropWhile_isKeyChar_append hrest hstop
  have hhead : ((k ++ t).dropWhile isKeyChar).head? ≠ some openBrace := by
    rw [hdrop]
    exact fun h => (stops_key (ht _ h)).2 rfl
  rw [List.cons_append, read_key_of_word hc hhead, takeWhile_isKeyChar_append hrest hstop, hdrop]

theorem read_source_append {p : Piece} {rest : Text} (h : p.FitsBefore rest) :
    read (p.source ++ rest) = some (p, rest) := by
  cases p with
  | blank c => exact read_blank h rest
  | stray => exact read_stray rest
  | keyless content => exact read_keyless h rest
  | word key => exact read_word h.1 h.2
  | entry key content =>
    rw [source, List.append_assoc]
    exact read_entry h.1.1 h.1.2 h.2 rest

theorem isKey_cons_takeWhile {c : Char} (h : isKeyChar c = true) (t : Text) :
    IsKey (c :: t.takeWhile isKeyChar) :=
  ⟨List.cons_ne_nil _ _, List.forall_mem_cons.mpr ⟨h, fun _ => List.mem_takeWhile_imp⟩⟩

/-- What is read stands in front of what is left, and fits there. -/
theorem of_read {t rest : Text} {p : Piece} (h : read t = some (p, rest)) :
    t = p.source ++ rest ∧ p.FitsBefore rest := by
  cases t with
  | nil => cases h
  | cons c t =>
    have hsplit : c :: t = (c :: t.takeWhile isKeyChar) ++ t.dropWhile isKeyChar := by
      rw [List.cons_append, List.takeWhile_append_dropWhile]
    rcases bodyChar_cases c with blank | rfl | rfl | key
    · rw [read_blank blank] at h
      cases h
      exact ⟨rfl, blank⟩
    · rw [read_stray] at h
      cases h
      exact ⟨rfl, trivial⟩
    · rw [read_openBrace] at h
      obtain ⟨g, hg, he⟩ := Option.map_eq_some_iff.mp h
      cases he
      exact eq_braced_of_closeGroup hg
    · have hkey := isKey_cons_takeWhile key t
      by_cases hgroup : (t.dropWhile isKeyChar).head? = some openBrace
      · obtain ⟨u, hu⟩ := List.head?_eq_some_iff.mp hgroup
        rw [read_key_of_group key hu] at h
        obtain ⟨g, hg, he⟩ := Option.map_eq_some_iff.mp h
        cases he
        obtain ⟨hbraced, hb⟩ := eq_braced_of_closeGroup hg
        rw [hu, hbraced, ← List.append_assoc] at hsplit
        exact ⟨hsplit, hkey, hb⟩
      · rw [read_key_of_word key hgroup] at h
        cases h
        refine ⟨hsplit, hkey, fun a ha => ?_⟩
        rcases head?_dropWhile_isKeyChar ha with blank | rfl | close
        · exact .inl blank
        · exact absurd ha hgroup
        · exact .inr close

/-- Reading finds the one piece that the text starts with. -/
theorem read_eq_some_iff {t rest : Text} {p : Piece} :
    read t = some (p, rest) ↔ t = p.source ++ rest ∧ p.FitsBefore rest := by
  constructor
  · exact of_read
  · intro h
    obtain ⟨rfl, hfits⟩ := h
    exact read_source_append hfits

/-- Reading stops before the end of a text at a group that is never closed, with or without a
key. -/
theorem exists_open_of_read_eq_none {t : Text} (h : read t = none) (hne : t ≠ []) :
    ∃ key u, (∀ c ∈ key, isKeyChar c = true) ∧ closeGroup 0 u = none ∧
      t = key ++ openBrace :: u := by
  obtain ⟨c, t, rfl⟩ := List.exists_cons_of_ne_nil hne
  rcases bodyChar_cases c with blank | rfl | rfl | key
  · rw [read_blank blank] at h
    cases h
  · rw [read_stray] at h
    cases h
  · rw [read_openBrace] at h
    exact ⟨[], t, List.forall_mem_nil _, Option.map_eq_none_iff.mp h, rfl⟩
  · by_cases hgroup : (t.dropWhile isKeyChar).head? = some openBrace
    · obtain ⟨u, hu⟩ := List.head?_eq_some_iff.mp hgroup
      rw [read_key_of_group key hu] at h
      refine ⟨c :: t.takeWhile isKeyChar, u, (isKey_cons_takeWhile key t).2,
        Option.map_eq_none_iff.mp h, ?_⟩
      rw [← hu, List.cons_append, List.takeWhile_append_dropWhile]
    · rw [read_key_of_word key hgroup] at h
      cases h

end Piece

theorem pieces_of_fitsBefore {p : Piece} {rest : Text} (h : p.FitsBefore rest) :
    pieces (p.source ++ rest) = p :: pieces rest :=
  pieces_of_read_eq_some (Piece.read_source_append h)

end MessageTemplate
