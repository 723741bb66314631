import MessageTemplate.Proofs.JsonReading

/-! Reading JSON objects of texts and numbers. `readObject?_objectText` says that an object is read
back from its text, and `visible_objectText` that this text is one line. -/
namespace MessageTemplate

/-- Where every result is known, so is the list of them. -/
theorem mapM_eq_ok {ε α β : Type} {f : α → Except ε β} {g : α → β} {xs : List α}
    (h : ∀ a ∈ xs, f a = .ok (g a)) : xs.mapM f = .ok (xs.map g) := by
  induction xs with
  | nil => rfl
  | cons a xs ih =>
    obtain ⟨ha, hxs⟩ := List.forall_mem_cons.mp h
    rw [List.mapM_cons, ha, ih hxs]
    rfl

def Visible (t : Text) : Prop := ∀ c ∈ t, 32 ≤ c.toNat

instance (t : Text) : Decidable (Visible t) := List.decidableBAll _ t

namespace Visible

theorem nil : Visible [] := nofun

theorem cons {c : Char} {t : Text} (hc : 32 ≤ c.toNat) (ht : Visible t) : Visible (c :: t) :=
  List.forall_mem_cons.mpr ⟨hc, ht⟩

theorem append {s t : Text} (hs : Visible s) (ht : Visible t) : Visible (s ++ t) :=
  List.forall_mem_append.mpr ⟨hs, ht⟩

theorem newline_notMem {t : Text} (h : Visible t) : '\n' ∉ t := fun hm =>
  absurd (h _ hm) (by decide)

theorem intercalate {between : Text} (hb : Visible between) {ts : List Text}
    (h : ∀ t ∈ ts, Visible t) : Visible (between.intercalate ts) := by
  induction ts with
  | nil => exact nil
  | cons t ts ih =>
    obtain ⟨ht, hts⟩ := List.forall_mem_cons.mp h
    cases ts with
    | nil => rwa [List.intercalate_singleton]
    | cons u ts =>
      rw [List.intercalate_cons_cons]
      exact (ht.append hb).append (ih hts)

theorem digits (n : Nat) : Visible (digits n) := by
  intro c hc
  have hd := Char.isDigit_iff_toNat.mp (isDigit_of_mem_digits hc)
  exact Nat.le_trans (by decide) hd.1

theorem hexDigits (width n : Nat) : Visible (hexDigits width n) := by
  have hdigit : ∀ d, d < 16 → 32 ≤ (Nat.digitChar d).toNat := by decide
  induction width generalizing n with
  | zero => exact nil
  | succ width ih => exact (ih _).append (cons (hdigit _ (Nat.mod_lt n (by decide))) nil)

end Visible

namespace JsonScalar

/-- What stands for a code point is visible, the more so for a control character. -/
theorem visible_escapeChar (c : Char) : Visible (escapeChar c) := by
  have hpair (d : Char) (hd : 32 ≤ d.toNat) : Visible ['\\', d] := .cons (by decide) (.cons hd .nil)
  unfold escapeChar
  split
  · rename_i h
    rcases h with rfl | rfl
    · exact hpair _ (by decide)
    · exact hpair _ (by decide)
  split
  · exact hpair _ (by decide)
  split
  · exact hpair _ (by decide)
  split
  · exact hpair _ (by decide)
  split
  · exact hpair _ (by decide)
  split
  · exact hpair _ (by decide)
  split
  · exact .cons (by decide) (.cons (by decide) (.hexDigits 4 _))
  · exact .cons (by omega) .nil

theorem visible_quote (t : Text) : Visible (quote t) := by
  refine .append (.cons (by decide) ?_) (.cons (by decide) .nil)
  intro d hd
  obtain ⟨c, -, hc⟩ := List.mem_flatMap.mp hd
  exact visible_escapeChar c d hc

/-- A numeral that is not beyond the digit limit; texts have no limit. -/
def Fits : JsonScalar → Prop
  | text _ => True
  | number n => (digits n).length ≤ digitLimit

def spelling : JsonScalar → Text
  | text t => quote t
  | number n => digits n

def memberText (m : Text × JsonScalar) : Text := quote m.1 ++ ':' :: ' ' :: m.2.spelling

def objectText (members : List (Text × JsonScalar)) : Text :=
  braced ([',', ' '].intercalate (members.map memberText))

theorem write_of_fits {v : JsonScalar} (h : v.Fits) : v.write = .ok v.spelling := by
  cases v with
  | text t => rfl
  | number n =>
    have hn : numeral n = digits n := by simp [numeral, signed]
    have hw : writeInt n = .ok (numeral n) := writeInt_of_le h
    exact hw.trans (congrArg Except.ok hn)

/-- Only numerals beyond the digit limit prevent the writing of an object. -/
theorem writeObject_of_fits {members : List (Text × JsonScalar)} (h : ∀ m ∈ members, m.2.Fits) :
    writeObject members = .ok (objectText members) := by
  have hmember : ∀ m ∈ members, writeMember m = .ok (memberText m) := by
    intro m hm
    rw [writeMember, write_of_fits (h m hm)]
    rfl
  rw [writeObject, mapM_eq_ok hmember]
  rfl

theorem visible_objectText (members : List (Text × JsonScalar)) : Visible (objectText members) := by
  have hvalue : ∀ v : JsonScalar, Visible v.spelling := by
    intro v
    cases v with
    | text t => exact visible_quote t
    | number n => exact .digits n
  have hcolon : Visible [':', ' '] := by decide
  have hmembers : ∀ t ∈ members.map memberText, Visible t := by
    intro t ht
    obtain ⟨m, -, rfl⟩ := List.mem_map.mp ht
    exact (visible_quote m.1).append (hcolon.append (hvalue m.2))
  have hbetween : Visible [',', ' '] := by decide
  exact .append (.cons (by decide) (.intercalate hbetween hmembers)) (.cons (by decide) .nil)

def isSpace (c : Char) : Bool := decide (c = ' ' ∨ c = '\t' ∨ c = '\n' ∨ c = '\r')

def skipSpace (t : Text) : Text := t.dropWhile isSpace

/-- Read a code point that has to come next, after any white space. -/
def expect (c : Char) (t : Text) : Option Text :=
  match skipSpace t with
  | [] => none
  | d :: rest => if d = c then some rest else none

/-- Read the digits of a number as they are written, without leading zeros. -/
def readNumber (t : Text) : Option (Nat × Text) :=
  let ds := t.takeWhile Char.isDigit
  if digits (digitsValue ds) = ds then some (digitsValue ds, t.dropWhile Char.isDigit) else none

def readScalar (t : Text) : Option (JsonScalar × Text) :=
  match expect '"' t with
  | some rest => (readQuoted rest).map (Prod.map text id)
  | none => (readNumber (skipSpace t)).map (Prod.map number id)

def readMember (t : Text) : Option ((Text × JsonScalar) × Text) := do
  let t ← expect '"' t
  let (key, t) ← readQuoted t
  let t ← expect ':' t
  let (v, t) ← readScalar t
  return ((key, v), t)

theorem expect_length {c : Char} {t rest : Text} (h : expect c t = some rest) :
    rest.length < t.length := by
  have hskip : (skipSpace t).length ≤ t.length := (List.dropWhile_sublist _).length_le
  unfold expect at h
  split at h
  · cases h
  · rename_i d u hu
    rw [hu, List.length_cons] at hskip
    split at h
    · cases h
      omega
    · cases h

theorem readScalar_length {t rest : Text} {v : JsonScalar} (h : readScalar t = some (v, rest)) :
    rest.length ≤ t.length := by
  unfold readScalar at h
  split at h
  · rename_i u hu
    obtain ⟨p, hp, he⟩ := Option.map_eq_some_iff.mp h
    cases he
    exact Nat.le_of_lt (Nat.lt_trans (readQuoted_length hp) (expect_length hu))
  · obtain ⟨p, hp, he⟩ := Option.map_eq_some_iff.mp h
    cases he
    simp only [readNumber] at hp
    split at hp
    · cases hp
      exact ((List.dropWhile_sublist _).trans (List.dropWhile_sublist _)).length_le
    · cases hp

/-- Reading a member makes progress. -/
theorem readMember_length {t rest : Text} {m : Text × JsonScalar}
    (h : readMember t = some (m, rest)) : rest.length < t.length := by
  obtain ⟨t₁, h₁, h⟩ := Option.bind_eq_some_iff.mp h
  obtain ⟨⟨key, t₂⟩, h₂, h⟩ := Option.bind_eq_some_iff.mp h
  obtain ⟨t₃, h₃, h⟩ := Option.bind_eq_some_iff.mp h
  obtain ⟨⟨v, t₄⟩, h₄, h⟩ := Option.bind_eq_some_iff.mp h
  cases h
  have hkey := expect_length h₁
  have hquoted := readQuoted_length h₂
  have hcolon := expect_length h₃
  have hvalue := readScalar_length h₄
  omega

/-- Read members with commas between them, and the closing brace after them. -/
def readMembers (t : Text) : Option (List (Text × JsonScalar) × Text) :=
  match _hm : readMember t with
  | none => none
  | some (m, rest) =>
      match _hc : expect ',' rest with
      | some rest => (readMembers rest).map (Prod.map (m :: ·) id)
      | none => (expect '}' rest).map fun rest => ([m], rest)
termination_by t.length
decreasing_by
  exact Nat.lt_trans (expect_length (by assumption)) (readMember_length (by assumption))

/-- The members of a text that is an object and nothing else. -/
def readObject? (t : Text) : Option (List (Text × JsonScalar)) := do
  let t ← expect '{' t
  let (members, rest) ←
    match expect '}' t with
    | some rest => some ([], rest)
    | none => readMembers t
  if skipSpace rest = [] then some members else none

theorem readMembers_eq (t : Text) :
    readMembers t = (readMember t).bind fun p =>
      match expect ',' p.2 with
      | some rest => (readMembers rest).map (Prod.map (p.1 :: ·) id)
      | none => (expect '}' p.2).map fun rest => ([p.1], rest) := by
  rw [readMembers]
  split
  · rename_i h
    rw [h]
    rfl
  · rename_i m rest h
    rw [h, Option.bind_some]
    dsimp only
    split <;> simp_all

theorem isSpace_of_isDigit {c : Char} (h : c.isDigit = true) : isSpace c = false := by
  simp only [isSpace, decide_eq_false_iff_not]
  rintro (rfl | rfl | rfl | rfl) <;> cases h

theorem skipSpace_cons {c : Char} (hc : isSpace c = false) (t : Text) :
    skipSpace (c :: t) = c :: t :=
  List.dropWhile_cons_of_neg (by simp [hc])

/-- The digits of a number are read as far as another code point. -/
theorem readNumber_digits (n : Nat) {rest : Text} (h : ∀ c ∈ rest.head?, c.isDigit = false) :
    readNumber (digits n ++ rest) = some (n, rest) := by
  have hrest : rest.takeWhile Char.isDigit = [] ∧ rest.dropWhile Char.isDigit = rest := by
    cases rest with
    | nil => exact ⟨rfl, rfl⟩
    | cons c rest => simp [h c rfl]
  have hdigits : ∀ c ∈ digits n, c.isDigit = true := fun c hc => isDigit_of_mem_digits hc
  simp only [readNumber, List.takeWhile_append_of_pos hdigits, List.dropWhile_append_of_pos hdigits,
    hrest.1, hrest.2, List.append_nil, digitsValue_digits, if_true]

theorem readScalar_spelling (v : JsonScalar) {rest : Text}
    (h : ∀ c ∈ rest.head?, c.isDigit = false) :
    readScalar (' ' :: (v.spelling ++ rest)) = some (v, rest) := by
  cases v with
  | text t =>
    have hq : expect '"' (' ' :: ((text t).spelling ++ rest)) =
        some (t.flatMap escapeChar ++ '"' :: rest) := by
      simp [spelling, quote, expect, skipSpace, isSpace]
    unfold readScalar
    rw [hq]
    dsimp only
    rw [readQuoted_flatMap_escapeChar]
    rfl
  | number n =>
    obtain ⟨d, ds, hd⟩ := List.exists_cons_of_ne_nil (digits_ne_nil n)
    have hdigit : d.isDigit = true := isDigit_of_mem_digits (hd ▸ List.mem_cons_self)
    have hskip : skipSpace (' ' :: (digits n ++ rest)) = digits n ++ rest := by
      change skipSpace (digits n ++ rest) = _
      rw [hd]
      exact skipSpace_cons (isSpace_of_isDigit hdigit) _
    have hq : expect '"' (' ' :: (digits n ++ rest)) = none := by
      have hne : d ≠ '"' := by
        rintro rfl
        cases hdigit
      unfold expect
      rw [hskip, hd]
      exact if_neg hne
    have hread := readNumber_digits n h
    rw [← hskip] at hread
    unfold readScalar spelling
    dsimp only
    rw [hq]
    dsimp only
    rw [hread]
    rfl

theorem readMember_memberText (m : Text × JsonScalar) {rest : Text}
    (h : ∀ c ∈ rest.head?, c.isDigit = false) :
    readMember (memberText m ++ rest) = some (m, rest) := by
  obtain ⟨key, v⟩ := m
  have hopen : expect '"' (memberText (key, v) ++ rest) =
      some (key.flatMap escapeChar ++ '"' :: ':' :: ' ' :: (v.spelling ++ rest)) := by
    simp [memberText, quote, expect, skipSpace, isSpace]
  have hcolon :
      expect ':' (':' :: ' ' :: (v.spelling ++ rest)) = some (' ' :: (v.spelling ++ rest)) := rfl
  simp [readMember, hopen, readQuoted_flatMap_escapeChar, hcolon, readScalar_spelling v h]

theorem readMembers_space (t : Text) : readMembers (' ' :: t) = readMembers t := by
  have h : readMember (' ' :: t) = readMember t := rfl
  rw [readMembers_eq, h, ← readMembers_eq]

/-- Members are read back in their order. -/
theorem readMembers_intercalate (m : Text × JsonScalar) (ms : List (Text × JsonScalar))
    (rest : Text) :
    readMembers ([',', ' '].intercalate ((m :: ms).map memberText) ++ '}' :: rest) =
      some (m :: ms, rest) := by
  induction ms generalizing m with
  | nil =>
    have hm : readMember (memberText m ++ '}' :: rest) = some (m, '}' :: rest) :=
      readMember_memberText m (by simp)
    have hc : expect ',' ('}' :: rest) = none := rfl
    have hb : expect '}' ('}' :: rest) = some rest := rfl
    rw [List.map_singleton, List.intercalate_singleton, readMembers_eq, hm, Option.bind_some]
    dsimp only
    rw [hc, hb]
    rfl
  | cons n ms ih =>
    have hjoin : [',', ' '].intercalate ((m :: n :: ms).map memberText) ++ '}' :: rest =
        memberText m ++ ',' :: ' ' ::
          ([',', ' '].intercalate ((n :: ms).map memberText) ++ '}' :: rest) := by
      simp
    rw [hjoin, readMembers_eq, readMember_memberText m (by simp), Option.bind_some]
    have hc (t : Text) : expect ',' (',' :: t) = some t := rfl
    dsimp only
    rw [hc]
    dsimp only
    -- The space after the comma is white space before the next member.
    rw [readMembers_space, ih]
    rfl

/-- An object is read back from its text. -/
theorem readObject?_objectText (members : List (Text × JsonScalar)) :
    readObject? (objectText members) = some members := by
  have hopen (t : Text) : expect '{' (braced t) = some (t ++ ['}']) := rfl
  cases members with
  | nil => rfl
  | cons m ms =>
    have hnone :
        expect '}' ([',', ' '].intercalate ((m :: ms).map memberText) ++ ['}']) = none := by
      cases ms with
      | nil => rfl
      | cons n ms => rfl
    simp only [readObject?, objectText, hopen, Option.bind_eq_bind, Option.bind_some, hnone,
      readMembers_intercalate]
    rfl

/-- White space around the parts, and escapes other than those that are written. -/
example : readObject? " \x7b\"a\" :10 ,\"b\":\"\\u004A\\/\"\x7d\n".toList =
    some [(['a'], .number 10), (['b'], .text ['J', '/'])] := by cbv

/-- Neither leading zeros nor a comma at the end. -/
example : readObject? "\x7b\"a\": 01\x7d".toList = none ∧
    readObject? "\x7b\"a\": 1,\x7d".toList = none := ⟨by cbv, by cbv⟩

theorem objectText_injective : Function.Injective objectText := by
  intro ms ns h
  have hread := readObject?_objectText ms
  rw [h, readObject?_objectText ns] at hread
  exact (Option.some.inj hread).symm

end JsonScalar

end MessageTemplate
