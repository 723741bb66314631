import MessageTemplate.Proofs.PieceReading

/-! A plural body from the items that are printed into it. `PluralTable.ofBody_sources` says that
the table has the last declaration of each key, whatever stands between the declarations. -/
namespace MessageTemplate

/-- What may be printed into a body one after the other: a declaration, a group without a key, a
word that no group follows with the code point that stops it, white space, a closing brace. -/
inductive BodyItem
  | declaration (key content : Text) (isKey : IsKey key) (balanced : Balanced content)
  | keyless (content : Text) (balanced : Balanced content)
  | orphan (word : Text) (stop : Char) (isKey : IsKey word)
      (stops : isBlank stop = true ∨ stop = closeBrace)
  | blank (c : Char) (isBlank : isBlank c = true)
  | stray

namespace BodyItem

def source : BodyItem → Text
  | declaration key content _ _ => key ++ braced content
  | keyless content _ => braced content
  | orphan word stop _ _ => word ++ [stop]
  | blank c _ => [c]
  | stray => [closeBrace]

def sources (items : List BodyItem) : Text := items.flatMap source

def declared? : BodyItem → Option (Text × Text)
  | declaration key content _ _ => some (key, content)
  | _ => none

def declarations (items : List BodyItem) : List (Text × Text) := items.filterMap declared?

def textsFor (key : Text) (items : List BodyItem) : List Text :=
  ((declarations items).filter (·.1 = key)).map Prod.snd

/-- An item as the reader of bodies finds it. -/
def pieces : BodyItem → List Piece
  | declaration key content _ _ => [.entry key content]
  | keyless content _ => [.keyless content]
  | orphan word stop _ _ => [.word word, if isBlank stop then .blank stop else .stray]
  | blank c _ => [.blank c]
  | stray => [.stray]

/-- After an item the reader stands as at the start, whatever comes next. -/
theorem pieces_source_append (i : BodyItem) (t : Text) :
    MessageTemplate.pieces (i.source ++ t) = i.pieces ++ MessageTemplate.pieces t := by
  cases i with
  | declaration key content hk hb => exact pieces_of_fitsBefore (p := .entry key content) ⟨hk, hb⟩
  | keyless content hb => exact pieces_of_fitsBefore (p := .keyless content) hb
  | blank c hc => exact pieces_of_fitsBefore (p := .blank c) hc
  | stray => exact pieces_of_fitsBefore (p := .stray) trivial
  | orphan word stop hk hs =>
    have hword : (Piece.word word).FitsBefore (stop :: t) := by
      refine ⟨hk, fun c hc => ?_⟩
      obtain rfl : stop = c := by simpa using hc
      exact hs
    have hsource : source (orphan word stop hk hs) ++ t = word ++ stop :: t := by simp [source]
    rw [hsource]
    refine (pieces_of_fitsBefore hword).trans (congrArg (Piece.word word :: ·) ?_)
    rcases hs with hb | rfl
    · rw [if_pos hb]
      exact pieces_of_fitsBefore (p := .blank stop) hb
    · rw [isBlank_closeBrace]
      exact pieces_of_fitsBefore (p := .stray) trivial

theorem pieces_sources (items : List BodyItem) :
    MessageTemplate.pieces (sources items) = items.flatMap pieces := by
  induction items with
  | nil => exact pieces_of_read_eq_none rfl
  | cons i items ih =>
    change MessageTemplate.pieces (i.source ++ sources items) = _
    rw [pieces_source_append, ih, List.flatMap_cons]

theorem filterMap_entry?_pieces (i : BodyItem) :
    i.pieces.filterMap Piece.entry? = i.declared?.toList := by
  cases i with
  | orphan word stop hk hs =>
    simp only [pieces, declared?]
    split <;> rfl
  | declaration key content hk hb => rfl
  | keyless content hb => rfl
  | blank c hc => rfl
  | stray => rfl

/-- The entries among the pieces of items are the declarations. -/
theorem filterMap_entry?_flatMap (items : List BodyItem) :
    (items.flatMap pieces).filterMap Piece.entry? = declarations items := by
  rw [declarations]
  induction items with
  | nil => rfl
  | cons i items ih =>
    rw [List.flatMap_cons, List.filterMap_append, ih, filterMap_entry?_pieces, List.filterMap_cons]
    cases i.declared? <;> rfl

theorem sources_append (is js : List BodyItem) : sources (is ++ js) = sources is ++ sources js :=
  List.flatMap_append

theorem declarations_append (is js : List BodyItem) :
    declarations (is ++ js) = declarations is ++ declarations js := List.filterMap_append

def blanks (gap : Text) (h : ∀ c ∈ gap, isBlank c = true) : List BodyItem :=
  gap.attach.map fun c => blank c.1 (h c.1 c.2)

theorem sources_blanks {gap : Text} (h : ∀ c ∈ gap, isBlank c = true) :
    sources (blanks gap h) = gap := by
  rw [sources, blanks, List.flatMap_map]
  change gap.attach.flatMap (fun c => [c.1]) = gap
  rw [← List.map_eq_flatMap, List.attach_map_subtype_val]

theorem declarations_blanks {gap : Text} (h : ∀ c ∈ gap, isBlank c = true) :
    declarations (blanks gap h) = [] := by
  rw [declarations, blanks, List.filterMap_map]
  exact List.filterMap_eq_nil_iff.mpr fun _ _ => rfl

end BodyItem

open BodyItem in
theorem PluralTable.ofBody_sources_eq (items : List BodyItem) :
    ofBody (some (sources items)) = ofList (declarations items) := by
  change ofPieces (pieces (sources items)) = _
  rw [ofPieces_eq_ofList, pieces_sources, filterMap_entry?_flatMap]

open BodyItem in
/-- The table of a printed body has the last text declared for each key. So it does not change with
what stands between the declarations, nor with the order of declarations for different keys: not if
the texts for each key stay in order, and in no order of the declarations if no key occurs twice. -/
theorem PluralTable.ofBody_sources (items : List BodyItem) :
    (∀ key, (ofBody (some (sources items))).find? key = (textsFor key items).getLast?) ∧
    (∀ others, (∀ key, textsFor key others = textsFor key items) →
      ofBody (some (sources others)) = ofBody (some (sources items))) ∧
    ∀ others, (declarations others).Perm (declarations items) →
      ((declarations items).map Prod.fst).Nodup →
        ofBody (some (sources others)) = ofBody (some (sources items)) := by
  have hfind : ∀ (is : List BodyItem) key,
      (ofBody (some (sources is))).find? key = (textsFor key is).getLast? := by
    intro is key
    rw [ofBody_sources_eq, find?_ofList, textsFor]
  have hsame : ∀ others, (∀ key, textsFor key others = textsFor key items) →
      ofBody (some (sources others)) = ofBody (some (sources items)) := by
    intro others h
    apply eq_of_find?_eq
    intro key
    rw [hfind, hfind, h]
  refine ⟨hfind items, hsame, fun others hperm hdistinct => ?_⟩
  rw [ofBody_sources_eq, ofBody_sources_eq, ofList_eq_of_perm hperm hdistinct]

namespace BodyItem

def one : Text := "one".toList

def other : Text := "other".toList

theorem isKey_one : IsKey one := by decide

theorem isKey_other : IsKey other := by decide

/-- A group in a text, a word before a closing brace, a word glued to a group before it. -/
def noisy : List BodyItem :=
  [stray, declaration one "a\x7bb\x7d".toList isKey_one (by decide),
    orphan other closeBrace isKey_other (.inr rfl),
    declaration other "c".toList isKey_other (by decide),
    keyless "\x7bd\x7d".toList (by decide), orphan one ' ' isKey_one (.inl (by decide)),
    blank '\n' (by decide), declaration one "e".toList isKey_one (by decide)]

def plain : List BodyItem :=
  [declaration other "c".toList isKey_other (by decide),
    declaration one "a\x7bb\x7d".toList isKey_one (by decide),
    declaration one "e".toList isKey_one (by decide)]

theorem textsFor_plain (key : Text) : textsFor key plain = textsFor key noisy := by
  have hplain : declarations plain =
      [(other, "c".toList), (one, "a\x7bb\x7d".toList), (one, "e".toList)] := rfl
  have hnoisy : declarations noisy =
      [(one, "a\x7bb\x7d".toList), (other, "c".toList), (one, "e".toList)] := rfl
  rw [textsFor, textsFor, hplain, hnoisy]
  by_cases hone : one = key
  · subst hone
    rfl
  · simp [List.filter_cons, hone]

end BodyItem

open BodyItem in
theorem PluralTable.ofBody_sources_noisy :
    sources noisy = ("\x7done\x7ba\x7bb\x7d\x7dother\x7d" ++
        "other\x7bc\x7d\x7b\x7bd\x7d\x7done \none\x7be\x7d").toList ∧
      (ofBody (some (sources noisy))).find? one = some "e".toList ∧
      ofBody (some (sources plain)) = ofBody (some (sources noisy)) ∧
      (∀ key, textsFor key plain = textsFor key noisy) ∧
      (declarations (plain.take 2).reverse).Perm (declarations (plain.take 2)) ∧
      ((declarations (plain.take 2)).map Prod.fst).Nodup ∧
      ofBody (some (sources (plain.take 2).reverse)) = ofBody (some (sources (plain.take 2))) := by
  obtain ⟨hfind, hnoise, -⟩ := ofBody_sources noisy
  obtain ⟨-, -, hperm⟩ := ofBody_sources (plain.take 2)
  have hp : (declarations (plain.take 2).reverse).Perm (declarations (plain.take 2)) := by decide
  have hn : ((declarations (plain.take 2)).map Prod.fst).Nodup := by decide
  refine ⟨by decide, ?_, hnoise plain textsFor_plain, textsFor_plain, hp, hn, hperm _ hp hn⟩
  rw [hfind]
  rfl

end MessageTemplate
