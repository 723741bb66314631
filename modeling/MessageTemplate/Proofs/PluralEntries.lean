import Mathlib.Data.List.Induction
import Mathlib.Data.List.Nodup
import MessageTemplate.PluralBody
import MessageTemplate.Proofs.OpenGroups

namespace MessageTemplate

theorem balanced_of_blank {t : Text} (h : ∀ c ∈ t, isBlank c = true) : Balanced t := by
  apply balanced_of_notMem
  · intro hm
    exact absurd (h _ hm) (by decide)
  · intro hm
    exact absurd (h _ hm) (by decide)

theorem balanced_of_isKeyChar {t : Text} (h : ∀ c ∈ t, isKeyChar c = true) : Balanced t := by
  apply balanced_of_notMem
  · intro hm
    exact absurd (h _ hm) (by decide)
  · intro hm
    exact absurd (h _ hm) (by decide)

theorem takeWhile_isKeyChar_append {k rest : Text} (hk : ∀ c ∈ k, isKeyChar c = true)
    (hr : ∀ c ∈ rest.head?, isKeyChar c = false) : (k ++ rest).takeWhile isKeyChar = k := by
  rw [List.takeWhile_append_of_pos hk]
  cases rest with
  | nil => simp
  | cons c rest => simp [hr c rfl]

theorem dropWhile_isKeyChar_append {k rest : Text} (hk : ∀ c ∈ k, isKeyChar c = true)
    (hr : ∀ c ∈ rest.head?, isKeyChar c = false) : (k ++ rest).dropWhile isKeyChar = rest := by
  rw [List.dropWhile_append_of_pos hk]
  cases rest with
  | nil => rfl
  | cons c rest => simp [hr c rfl]

namespace Piece

/-- A key in front of a group is read as far as the group. -/
theorem read_entry {key content : Text} (hne : key ≠ []) (hk : ∀ c ∈ key, isKeyChar c = true)
    (hb : Balanced content) (t : Text) :
    read (key ++ (braced content ++ t)) = some (entry key content, t) := by
  obtain ⟨c, k, rfl⟩ := List.exists_cons_of_ne_nil hne
  obtain ⟨hc, hrest⟩ := List.forall_mem_cons.mp hk
  have hstop : ∀ a ∈ (braced content ++ t).head?, isKeyChar a = false := by
    intro a ha
    cases ha
    rfl
  have hdrop := dropWhile_isKeyChar_append hrest hstop
  rw [List.cons_append, read_key_of_group hc (hdrop.trans (braced_append content t)),
    takeWhile_isKeyChar_append hrest hstop, closeGroup_of_balanced hb]
  rfl

def entry? : Piece → Option (Text × Text)
  | entry key content => some (key, content)
  | _ => none

end Piece

theorem pieces_blank_append {gap : Text} (h : ∀ c ∈ gap, isBlank c = true) (t : Text) :
    pieces (gap ++ t) = gap.map Piece.blank ++ pieces t := by
  induction gap with
  | nil => rfl
  | cons c gap ih =>
    have hc := Piece.read_blank (h c List.mem_cons_self) (gap ++ t)
    rw [List.cons_append, pieces_of_read_eq_some hc, ih fun a ha => h a (List.mem_cons_of_mem c ha)]
    rfl

namespace PluralTable

/-- The table of a list has the last text that the list gives a key. -/
theorem find?_ofList (es : List (Text × Text)) (key : Text) :
    (ofList es).find? key = ((es.filter (·.1 = key)).map Prod.snd).getLast? := by
  unfold ofList
  induction es using List.reverseRecOn with
  | nil => rfl
  | append_singleton es e ih =>
    rw [List.foldl_append, List.foldl_cons, List.foldl_nil, find?_insert, ih, List.filter_append,
      List.map_append, List.getLast?_append]
    by_cases he : e.1 = key
    · simp [he]
    · simp [he, Ne.symm he]

theorem mem_of_find?_ofList {es : List (Text × Text)} {key content : Text}
    (h : (ofList es).find? key = some content) : (key, content) ∈ es := by
  rw [find?_ofList] at h
  obtain ⟨e, he, rfl⟩ := List.mem_map.mp (List.mem_of_getLast? h)
  obtain ⟨hm, hkey⟩ := List.mem_filter.mp he
  obtain rfl := of_decide_eq_true hkey
  exact hm

/-- A list of distinct keys has at most one entry for a key, and the same in any order. -/
theorem filter_key_eq_of_perm {es ds : List (Text × Text)} (h : ds.Perm es)
    (hn : (es.map Prod.fst).Nodup) (key : Text) :
    ds.filter (·.1 = key) = es.filter (·.1 = key) := by
  have hperm : (ds.filter (·.1 = key)).Perm (es.filter (·.1 = key)) := h.filter _
  have hone : (es.filter (·.1 = key)).length ≤ 1 := by
    have hcount := List.nodup_iff_count_le_one.mp hn key
    rw [List.count, List.countP_map, List.countP_eq_length_filter] at hcount
    simpa [Function.comp_def, beq_eq_decide] using hcount
  rcases hes : es.filter (·.1 = key) with - | ⟨e, rest⟩
  · rw [hes] at hperm ⊢
    exact hperm.eq_nil
  · rw [hes, List.length_cons] at hone
    obtain rfl : rest = [] := List.eq_nil_of_length_eq_zero (by omega)
    rw [hes] at hperm ⊢
    exact List.perm_singleton.mp hperm

/-- In a list of distinct keys the order does not matter. -/
theorem ofList_eq_of_perm {es ds : List (Text × Text)} (h : ds.Perm es)
    (hn : (es.map Prod.fst).Nodup) : ofList ds = ofList es := by
  apply eq_of_find?_eq
  intro key
  rw [find?_ofList, find?_ofList, filter_key_eq_of_perm h hn]

/-- The table of pieces is the table of their entries. -/
theorem ofPieces_eq_ofList (ps : List Piece) :
    ofPieces ps = ofList (ps.filterMap Piece.entry?) := by
  rw [ofPieces, ofList, List.foldl_filterMap]
  congr 1
  funext table p
  cases p <;> rfl

end PluralTable

end MessageTemplate
