import Mathlib.Algebra.Group.Nat.Defs
import MessageTemplate.Braces
import MessageTemplate.Report

/-! Reading quoted JSON texts. `readQuoted_flatMap_escapeChar` says that a quoted text is read back,
so an object shows each text that it holds. -/
namespace MessageTemplate

/-- Results computed from one result are the same where it fails. -/
theorem map_eq_map_iff {ε α β : Type} {p : Prop} {f g : α → β} (x : Except ε α)
    (h : ∀ a, f a = g a ↔ p) : x.map f = x.map g ↔ (∃ e, x.map f = .error e) ∨ p := by
  cases x with
  | error e => exact ⟨fun _ => .inl ⟨e, rfl⟩, fun _ => rfl⟩
  | ok a =>
    rw [← h a]
    constructor
    · intro hfg
      exact .inr (Except.ok.inj hfg)
    · rintro (⟨e, he⟩ | hfg)
      · cases he
      · exact congrArg Except.ok hfg

theorem braced_inj {s t : Text} : braced s = braced t ↔ s = t := by
  simp [braced]

/-- Joined texts tell the text in one place apart. -/
theorem intercalate_middle_eq_iff (between : Text) (before after : List Text) {s t : Text} :
    between.intercalate (before ++ s :: after) = between.intercalate (before ++ t :: after) ↔
      s = t := by
  induction before with
  | nil =>
    rw [List.nil_append, List.nil_append]
    cases after with
    | nil => rw [List.intercalate_singleton, List.intercalate_singleton]
    | cons u rest =>
      rw [List.intercalate_cons_cons, List.intercalate_cons_cons, List.append_cancel_right_eq,
        List.append_cancel_right_eq]
  | cons b before ih =>
    have hne (u : Text) : before ++ u :: after ≠ [] := by simp
    rw [List.cons_append, List.cons_append, List.intercalate_cons_of_ne_nil (hne s),
      List.intercalate_cons_of_ne_nil (hne t), List.append_cancel_left_eq, ih]

def hexDigitValue? (c : Char) : Option Nat :=
  if c.isDigit then some (c.toNat - 48)
  else if 'a' ≤ c ∧ c ≤ 'f' then some (c.toNat - 87)
  else if 'A' ≤ c ∧ c ≤ 'F' then some (c.toNat - 55)
  else none

def hexValue? (t : Text) : Option Nat :=
  t.foldlM (fun n c => (hexDigitValue? c).map (16 * n + ·)) 0

theorem hexDigitValue?_digitChar : ∀ d, d < 16 → hexDigitValue? (Nat.digitChar d) = some d := by
  decide

theorem hexValue?_hexDigits (width n : Nat) :
    hexValue? (hexDigits width n) = some (n % 16 ^ width) := by
  induction width generalizing n with
  | zero => simp [hexValue?, hexDigits, Nat.mod_one]
  | succ width ih =>
    have hlast : hexValue? (hexDigits (width + 1) n) =
        (hexValue? (hexDigits width (n / 16))).bind fun m =>
          (hexDigitValue? (Nat.digitChar (n % 16))).map (16 * m + ·) := by
      simp [hexValue?, hexDigits]
    rw [hlast, ih, hexDigitValue?_digitChar _ (Nat.mod_lt _ (by decide)), Nat.pow_succ,
      Nat.mul_comm _ 16, Nat.mod_mul, Nat.add_comm]
    rfl

namespace JsonScalar

def unescape? (c : Char) : Option Char :=
  if c = '"' ∨ c = '\\' ∨ c = '/' then some c
  else if c = 'n' then some '\n'
  else if c = 'r' then some '\r'
  else if c = 't' then some '\t'
  else if c = 'b' then some '\x08'
  else if c = 'f' then some '\x0c'
  else none

/-- The code point with a hexadecimal number; a surrogate is none. -/
def charOfHex? (t : Text) : Option Char :=
  (hexValue? t).bind fun n => if n.isValidChar then some (Char.ofNat n) else none

/-- Read as far as the closing quote, and return the text after it too. Control characters have to be
escaped, and only the letters that have a meaning may follow a backslash. -/
def readQuoted : Text → Option (Text × Text)
  | [] => none
  | c :: t =>
      if c = '"' then some ([], t)
      else if c = '\\' then
        match t with
        | [] => none
        | e :: t =>
            if e = 'u' then
              match t with
              | d₁ :: d₂ :: d₃ :: d₄ :: t =>
                  (charOfHex? [d₁, d₂, d₃, d₄]).bind fun d => (readQuoted t).map (pushFirst d)
              | _ => none
            else (unescape? e).bind fun d => (readQuoted t).map (pushFirst d)
      else if c.toNat < 32 then none
      else (readQuoted t).map (pushFirst c)

theorem readQuoted_close (t : Text) : readQuoted ('"' :: t) = some ([], t) := by
  rw [readQuoted.eq_def]
  simp

theorem readQuoted_plain {c : Char} (hq : c ≠ '"') (hb : c ≠ '\\') (hc : 32 ≤ c.toNat) (t : Text) :
    readQuoted (c :: t) = (readQuoted t).map (pushFirst c) := by
  have hlow : ¬ c.toNat < 32 := by omega
  rw [readQuoted.eq_def]
  simp [hq, hb, hlow]

theorem readQuoted_escape {e d : Char} (hd : unescape? e = some d) (t : Text) :
    readQuoted ('\\' :: e :: t) = (readQuoted t).map (pushFirst d) := by
  have he : e ≠ 'u' := by
    rintro rfl
    cases hd
  rw [readQuoted.eq_def]
  simp [he, hd]

theorem charOfHex?_hexDigits {c : Char} (hc : c.toNat < 16 ^ 4) :
    charOfHex? (hexDigits 4 c.toNat) = some c := by
  have hvalid : c.toNat.isValidChar := c.valid
  rw [charOfHex?, hexValue?_hexDigits, Nat.mod_eq_of_lt hc, Option.bind_some, if_pos hvalid,
    Char.ofNat_toNat]

theorem readQuoted_hexDigits {c : Char} (hc : c.toNat < 16 ^ 4) (t : Text) :
    readQuoted ('\\' :: 'u' :: hexDigits 4 c.toNat ++ t) = (readQuoted t).map (pushFirst c) := by
  have hv := charOfHex?_hexDigits hc
  rw [readQuoted.eq_def]
  simp only [hexDigits, List.nil_append, List.cons_append] at hv ⊢
  simp [hv]

/-- What stands for a code point is read back as that. -/
theorem readQuoted_escapeChar (c : Char) (t : Text) :
    readQuoted (escapeChar c ++ t) = (readQuoted t).map (pushFirst c) := by
  by_cases hletter : c ∈ ['"', '\\', '\n', '\r', '\t', '\x08', '\x0c']
  · simp only [List.mem_cons, List.not_mem_nil, or_false] at hletter
    rcases hletter with rfl | rfl | rfl | rfl | rfl | rfl | rfl <;>
      exact readQuoted_escape rfl t
  · simp only [List.mem_cons, List.not_mem_nil, or_false, not_or] at hletter
    obtain ⟨hq, hb, hn, hr, ht, hbs, hff⟩ := hletter
    have hescape : escapeChar c =
        if c.toNat < 32 then '\\' :: 'u' :: hexDigits 4 c.toNat else [c] := by
      simp only [escapeChar, hq, hb, hn, hr, ht, hbs, hff, or_self, if_false]
    rw [hescape]
    split
    · exact readQuoted_hexDigits (by omega) t
    · exact readQuoted_plain hq hb (by omega) t

/-- What is quoted is read back, with what follows the closing quote. -/
theorem readQuoted_flatMap_escapeChar (t rest : Text) :
    readQuoted (t.flatMap escapeChar ++ '"' :: rest) = some (t, rest) := by
  induction t with
  | nil => exact readQuoted_close rest
  | cons c t ih =>
    rw [List.flatMap_cons, List.append_assoc, readQuoted_escapeChar, ih]
    rfl

theorem length_of_pushFirst {o : Option (Text × Text)} {c : Char} {s rest : Text} {n : Nat}
    (ho : ∀ {s rest}, o = some (s, rest) → rest.length < n)
    (h : o.map (pushFirst c) = some (s, rest)) : rest.length < n := by
  obtain ⟨p, hp, he⟩ := Option.map_eq_some_iff.mp h
  cases he
  exact ho hp

/-- Reading makes progress. -/
theorem readQuoted_length {t s rest : Text} (h : readQuoted t = some (s, rest)) :
    rest.length < t.length := by
  induction t using readQuoted.induct generalizing s rest with
  | case1 => cases h
  | case2 t =>
    cases (readQuoted_close t).symm.trans h
    exact Nat.lt_succ_self _
  | case3 => cases h
  | case4 d₁ d₂ d₃ d₄ t hq ih =>
    rw [readQuoted.eq_def] at h
    simp only [hq, if_true, if_false] at h
    obtain ⟨d, -, hd⟩ := Option.bind_eq_some_iff.mp h
    have := length_of_pushFirst ih hd
    simp only [List.length_cons]
    omega
  | case5 t hshort hq =>
    rw [readQuoted.eq_def] at h
    simp only [hq, if_true, if_false] at h
    cases h
  | case6 e t he hq ih =>
    rw [readQuoted.eq_def] at h
    simp only [hq, he, if_true, if_false] at h
    obtain ⟨d, -, hd⟩ := Option.bind_eq_some_iff.mp h
    have := length_of_pushFirst ih hd
    simp only [List.length_cons]
    omega
  | case7 c t hq hb hlow =>
    rw [readQuoted.eq_def] at h
    simp [hq, hb, hlow] at h
  | case8 c t hq hb hlow ih =>
    rw [readQuoted.eq_def] at h
    simp only [hq, hb, hlow, if_false] at h
    have := length_of_pushFirst ih h
    simp only [List.length_cons]
    omega

theorem quote_injective : Function.Injective quote := by
  intro s t h
  have hs := readQuoted_flatMap_escapeChar s []
  have ht := readQuoted_flatMap_escapeChar t []
  have hst : s.flatMap escapeChar ++ ['"'] = t.flatMap escapeChar ++ ['"'] :=
    List.tail_eq_of_cons_eq h
  rw [hst, ht] at hs
  cases hs
  rfl

theorem writeMember_text (key t : Text) :
    writeMember (key, .text t) = .ok (quote key ++ ':' :: ' ' :: quote t) := rfl

theorem member_inj {key s t : Text} :
    quote key ++ ':' :: ' ' :: quote s = quote key ++ ':' :: ' ' :: quote t ↔ s = t := by
  rw [List.append_cancel_left_eq, List.cons_inj_right, List.cons_inj_right, quote_injective.eq_iff]

theorem writeObject_text (front back : List (Text × JsonScalar)) (key t : Text) :
    writeObject (front ++ (key, .text t) :: back) =
      (do return (← front.mapM writeMember, ← back.mapM writeMember)).map
        fun p : List Text × List Text =>
          braced ([',', ' '].intercalate (p.1 ++ (quote key ++ ':' :: ' ' :: quote t) :: p.2)) := by
  simp only [writeObject, List.mapM_append, List.mapM_cons, writeMember_text]
  cases front.mapM writeMember with
  | error e => rfl
  | ok before => cases back.mapM writeMember <;> rfl

/-- An object that can be written tells its text members apart. -/
theorem writeObject_text_eq_iff (front back : List (Text × JsonScalar)) (key s t : Text) :
    writeObject (front ++ (key, .text s) :: back) = writeObject (front ++ (key, .text t) :: back) ↔
      (∃ e, writeObject (front ++ (key, .text s) :: back) = .error e) ∨ s = t := by
  rw [writeObject_text, writeObject_text]
  refine map_eq_map_iff _ fun p => ?_
  rw [braced_inj, intercalate_middle_eq_iff, member_inj]

end JsonScalar

end MessageTemplate
