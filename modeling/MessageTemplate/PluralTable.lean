import MessageTemplate.Text

/-! Category texts by key. Keys increase strictly, so tables that answer alike are equal. -/
namespace MessageTemplate

namespace PluralTable

abbrev Increasing (es : List (Text × Text)) : Prop :=
  es.Pairwise fun a b => precedes a.1 b.1 = true

end PluralTable

structure PluralTable where
  entries : List (Text × Text)
  increasing : PluralTable.Increasing entries
  deriving DecidableEq

namespace PluralTable

def empty : PluralTable := ⟨[], .nil⟩

/-- Set the text of a key in an increasing list. -/
def put (key content : Text) : List (Text × Text) → List (Text × Text)
  | [] => [(key, content)]
  | e :: es =>
      if key = e.1 then (key, content) :: es
      else if precedes key e.1 then (key, content) :: e :: es
      else e :: put key content es

theorem lookup_cons_ite (k : Text) (e : Text × Text) (es : List (Text × Text)) :
    (e :: es).lookup k = if k = e.1 then some e.2 else es.lookup k := by
  rw [List.lookup_cons]
  by_cases hk : k = e.1
  · rw [if_pos hk, beq_iff_eq.mpr hk]
  · rw [if_neg hk, beq_eq_false_iff_ne.mpr hk]

section Put

variable {key content : Text} {e : Text × Text} {es : List (Text × Text)}

theorem put_cons_same (h : key = e.1) : put key content (e :: es) = (key, content) :: es := by
  rw [put, if_pos h]

theorem put_cons_before (h : precedes key e.1 = true) :
    put key content (e :: es) = (key, content) :: e :: es := by
  rw [put, if_neg (ne_of_precedes h), if_pos h]

theorem put_cons_after (h : precedes e.1 key = true) :
    put key content (e :: es) = e :: put key content es := by
  rw [put, if_neg (ne_of_precedes h).symm, if_neg (precedes_asymm h)]

theorem mem_put {d : Text × Text} (h : d ∈ put key content es) : d = (key, content) ∨ d ∈ es := by
  induction es with
  | nil => exact .inl (List.mem_singleton.mp h)
  | cons e es ih =>
    rcases precedes_trichotomy key e.1 with same | before | after
    · rw [put_cons_same same] at h
      exact (List.mem_cons.mp h).imp_right (List.mem_cons_of_mem e)
    · rw [put_cons_before before] at h
      exact List.mem_cons.mp h
    · rw [put_cons_after after] at h
      rcases List.mem_cons.mp h with rfl | h
      · exact .inr List.mem_cons_self
      · exact (ih h).imp_right (List.mem_cons_of_mem e)

theorem Increasing.put (h : Increasing es) (key content : Text) :
    Increasing (put key content es) := by
  induction es with
  | nil => exact List.pairwise_singleton _ _
  | cons e es ih =>
    obtain ⟨he, hes⟩ := List.pairwise_cons.mp h
    rcases precedes_trichotomy key e.1 with same | before | after
    · rw [put_cons_same same]
      exact List.pairwise_cons.mpr ⟨fun d hd => same ▸ he d hd, hes⟩
    · rw [put_cons_before before]
      refine List.pairwise_cons.mpr ⟨fun d hd => ?_, h⟩
      rcases List.mem_cons.mp hd with rfl | hd
      · exact before
      · exact precedes_trans before (he d hd)
    · rw [put_cons_after after]
      refine List.pairwise_cons.mpr ⟨fun d hd => ?_, ih hes⟩
      rcases mem_put hd with rfl | hd
      · exact after
      · exact he d hd

theorem lookup_put (key content k : Text) (es : List (Text × Text)) :
    (put key content es).lookup k = if k = key then some content else es.lookup k := by
  induction es with
  | nil => rw [put, lookup_cons_ite]
  | cons e es ih =>
    rcases precedes_trichotomy key e.1 with same | before | after
    · rw [put_cons_same same, lookup_cons_ite, lookup_cons_ite, ← same]
      split <;> rfl
    · rw [put_cons_before before, lookup_cons_ite]
    · rw [put_cons_after after, lookup_cons_ite, lookup_cons_ite, ih]
      by_cases hk : k = key
      · rw [if_neg (hk ▸ (ne_of_precedes after).symm), if_pos hk, if_pos hk]
      · rw [if_neg hk, if_neg hk]

end Put

def insert (key content : Text) (t : PluralTable) : PluralTable :=
  ⟨put key content t.entries, t.increasing.put key content⟩

/-- Insert in list order: the last text of a key stays. -/
def ofList (entries : List (Text × Text)) : PluralTable :=
  entries.foldl (fun t e => t.insert e.1 e.2) empty

def find? (t : PluralTable) (key : Text) : Option Text := t.entries.lookup key

def keys (t : PluralTable) : List Text := t.entries.map Prod.fst

theorem find?_insert (key content k : Text) (t : PluralTable) :
    (t.insert key content).find? k = if k = key then some content else t.find? k :=
  lookup_put key content k t.entries

theorem lookup_eq_none_of_precedes {k : Text} {es : List (Text × Text)}
    (h : ∀ e ∈ es, precedes k e.1 = true) : es.lookup k = none := by
  rw [List.lookup_eq_none_iff]
  intro e he
  simpa using ne_of_precedes (h e he)

section Extensionality

variable {e d : Text × Text} {es ds : List (Text × Text)}

/-- A key before all keys of a list is not in it. -/
theorem not_precedes_of_lookup_eq (hd : Increasing (d :: ds))
    (h : ∀ k, (e :: es).lookup k = (d :: ds).lookup k) : ¬ precedes e.1 d.1 = true := by
  intro hlt
  have hnone : (d :: ds).lookup e.1 = none := by
    refine lookup_eq_none_of_precedes fun c hc => ?_
    rcases List.mem_cons.mp hc with rfl | hc
    · exact hlt
    · exact precedes_trans hlt ((List.pairwise_cons.mp hd).1 c hc)
  have := h e.1
  simp [hnone, lookup_cons_ite] at this

theorem head_eq_of_lookup_eq (he : Increasing (e :: es)) (hd : Increasing (d :: ds))
    (h : ∀ k, (e :: es).lookup k = (d :: ds).lookup k) : e = d := by
  have hkey : e.1 = d.1 := by
    rcases precedes_trichotomy e.1 d.1 with same | before | after
    · exact same
    · exact absurd before (not_precedes_of_lookup_eq hd h)
    · exact absurd after (not_precedes_of_lookup_eq he fun k => (h k).symm)
  have hcontent := (lookup_cons_ite e.1 e es).symm.trans ((h e.1).trans (lookup_cons_ite e.1 d ds))
  rw [if_pos rfl, if_pos hkey] at hcontent
  exact Prod.ext hkey (Option.some.inj hcontent)

theorem eq_of_lookup_eq (he : Increasing es) (hd : Increasing ds)
    (h : ∀ k, es.lookup k = ds.lookup k) : es = ds := by
  induction es generalizing ds with
  | nil =>
    cases ds with
    | nil => rfl
    | cons d ds => simpa [lookup_cons_ite] using h d.1
  | cons e es ih =>
    cases ds with
    | nil => simpa [lookup_cons_ite] using h e.1
    | cons d ds =>
      obtain rfl := head_eq_of_lookup_eq he hd h
      obtain ⟨hee, hes⟩ := List.pairwise_cons.mp he
      obtain ⟨hed, hds⟩ := List.pairwise_cons.mp hd
      refine congrArg (e :: ·) (ih hes hds fun k => ?_)
      by_cases hk : k = e.1
      · rw [hk, lookup_eq_none_of_precedes hee, lookup_eq_none_of_precedes hed]
      · simpa [lookup_cons_ite, hk] using h k

end Extensionality

/-- Tables with the same text for every key are equal. -/
theorem eq_of_find?_eq {s t : PluralTable} (h : ∀ k, s.find? k = t.find? k) : s = t := by
  have := eq_of_lookup_eq s.increasing t.increasing h
  cases s
  cases t
  simp_all

end PluralTable

end MessageTemplate
