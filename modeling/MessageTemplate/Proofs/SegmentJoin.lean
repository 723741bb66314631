import MessageTemplate.Segment
import MessageTemplate.Proofs.OpenGroups

/-! Segments of concatenated templates. `scan_append` says that they are the segments of the parts,
with the texts at the seam joined, where no group can begin in one part and end in the other. -/
namespace MessageTemplate.Segment

def sources (ss : List Segment) : Text := ss.flatMap source

def literal : Segment → Text
  | text content => content
  | placeholder _ _ => []

def literals (ss : List Segment) : Text := ss.flatMap literal

/-- Put a segment in front; two texts become one. -/
def merge : Segment → List Segment → List Segment
  | text s, text t :: rest => text (s ++ t) :: rest
  | s, rest => s :: rest

/-- Segments after one another; the texts at the seam become one. -/
def join (ss ts : List Segment) : List Segment := ss.foldr merge ts

@[simp] theorem sources_nil : sources [] = [] := rfl

@[simp] theorem sources_cons (s : Segment) (ss : List Segment) :
    sources (s :: ss) = s.source ++ sources ss := rfl

@[simp] theorem sources_append (ss ts : List Segment) :
    sources (ss ++ ts) = sources ss ++ sources ts :=
  List.flatMap_append

@[simp] theorem literals_nil : literals [] = [] := rfl

@[simp] theorem literals_cons (s : Segment) (ss : List Segment) :
    literals (s :: ss) = s.literal ++ literals ss := rfl

theorem prependText_eq_merge (c : Char) (ss : List Segment) :
    prependText c ss = merge (text [c]) ss := by
  rcases ss with - | ⟨⟨t⟩ | ⟨content, span⟩, rest⟩ <;> rfl

/-- What is read off segment by segment, and piece by piece from a text, survives merging. -/
theorem flatMap_merge {f : Segment → Text}
    (hf : ∀ s t, f (text (s ++ t)) = f (text s) ++ f (text t))
    (s : Segment) (ss : List Segment) : (merge s ss).flatMap f = f s ++ ss.flatMap f := by
  rcases s with ⟨s⟩ | ⟨content, span⟩
  · rcases ss with - | ⟨⟨t⟩ | ⟨content, span⟩, rest⟩
    · rfl
    · change f (text (s ++ t)) ++ rest.flatMap f = f (text s) ++ (f (text t) ++ rest.flatMap f)
      rw [hf, List.append_assoc]
    · rfl
  · rfl

theorem sources_merge (s : Segment) (ss : List Segment) :
    sources (merge s ss) = s.source ++ sources ss := flatMap_merge (fun _ _ => rfl) s ss

theorem literals_merge (s : Segment) (ss : List Segment) :
    literals (merge s ss) = s.literal ++ literals ss := flatMap_merge (fun _ _ => rfl) s ss

theorem merge_text_merge (s t : Text) (ss : List Segment) :
    merge (text s) (merge (text t) ss) = merge (text (s ++ t)) ss := by
  rcases ss with - | ⟨⟨u⟩ | ⟨content, span⟩, rest⟩
  · rfl
  · simp [merge]
  · rfl

theorem merge_text_join (s : Text) (ss ts : List Segment) :
    join (merge (text s) ss) ts = merge (text s) (join ss ts) := by
  rcases ss with - | ⟨⟨t⟩ | ⟨content, span⟩, rest⟩
  · rfl
  · exact (merge_text_merge s t (join rest ts)).symm
  · rfl

theorem scan_nil (offset : Nat) : scan offset [] = [] := by
  rw [scan]

theorem scan_group {offset : Nat} {t content rest : Text}
    (h : closeGroup 0 t = some (content, rest)) :
    scan offset (openBrace :: t) =
      group offset content :: scan (offset + content.length + 2) rest := by
  rw [scan, if_pos rfl]
  split <;> simp_all

theorem scan_open {offset : Nat} {t : Text} (h : closeGroup 0 t = none) :
    scan offset (openBrace :: t) = merge (text [openBrace]) (scan (offset + 1) t) := by
  rw [scan, if_pos rfl, ← prependText_eq_merge]
  split <;> simp_all

theorem scan_cons_of_ne {offset : Nat} {c : Char} (hc : c ≠ openBrace) (t : Text) :
    scan offset (c :: t) = merge (text [c]) (scan (offset + 1) t) := by
  rw [scan, if_neg hc, prependText_eq_merge]

/-- Scanning loses nothing. -/
theorem sources_scan (offset : Nat) (t : Text) : sources (scan offset t) = t := by
  fun_induction scan offset t with
  | case1 => rfl
  | case2 offset t content rest h ih =>
    rw [sources_cons, ih]
    exact (eq_braced_of_closeGroup h).1.symm
  | case3 offset t h ih =>
    rw [prependText_eq_merge, sources_merge, ih]
    rfl
  | case4 offset c t hc ih =>
    rw [prependText_eq_merge, sources_merge, ih]
    rfl

/-- No brace opens in the first part and closes in the second if the first has no literal opening
brace or the second closes nothing that it did not open. -/
theorem scan_append {offset : Nat} {s t : Text}
    (h : openBrace ∉ literals (scan offset s) ∨ ClosesAtMost 0 t) :
    scan offset (s ++ t) = join (scan offset s) (scan (offset + s.length) t) := by
  fun_induction scan offset s with
  | case1 offset => rfl
  | case2 offset s content rest hg ih =>
    have hl := closeGroup_length hg
    have hoff : offset + content.length + 2 + rest.length = offset + (openBrace :: s).length := by
      simp only [List.length_cons]
      omega
    rw [List.cons_append, scan_group (closeGroup_append_of_some hg t), ih h, hoff]
    rfl
  | case3 offset s hg ih =>
    rw [prependText_eq_merge] at h ⊢
    rw [literals_merge] at h
    have ht : ClosesAtMost 0 t := h.resolve_left (by simp [literal])
    have hopen : closeGroup 0 (s ++ t) = none :=
      closeGroup_eq_none_iff.mpr ((closeGroup_eq_none_iff.mp hg).append ht)
    rw [List.cons_append, scan_open hopen, ih (.inr ht), merge_text_join, List.length_cons,
      Nat.add_right_comm, Nat.add_assoc]
  | case4 offset c s hc ih =>
    rw [prependText_eq_merge] at h ⊢
    rw [literals_merge] at h
    have h' : openBrace ∉ literals (scan (offset + 1) s) ∨ ClosesAtMost 0 t :=
      h.imp_left fun hn hm => hn (List.mem_append_right _ hm)
    rw [List.cons_append, scan_cons_of_ne hc, ih h', merge_text_join, List.length_cons,
      Nat.add_right_comm, Nat.add_assoc]

end MessageTemplate.Segment
