import Mathlib.Algebra.Group.Int.Defs
import MessageTemplate.Proofs.Exhaustion
import MessageTemplate.Proofs.Numerals

/-! When formatting neither succeeds nor rejects the template: where it comes upon a numeral beyond
the digit limit, as the operand of a plural placeholder or as an integer somewhere in a value, and
where the platform has not room enough. -/
namespace MessageTemplate

namespace Value

/-- A value that is in another: the value itself, an item of a collection, a key or a value of a
map. -/
inductive PartOf (x : Value) : Value → Prop
  | self : PartOf x x
  | item {kind : CollectionKind} {items : List Value} {y : Value} (hm : y ∈ items)
      (h : PartOf x y) : PartOf x (collection kind items)
  | key {entries : List (Value × Value)} {e : Value × Value} (hm : e ∈ entries)
      (h : PartOf x e.1) : PartOf x (map entries)
  | value {entries : List (Value × Value)} {e : Value × Value} (hm : e ∈ entries)
      (h : PartOf x e.2) : PartOf x (map entries)

def HasLongInteger (v : Value) : Prop :=
  ∃ n, PartOf (integer n) v ∧ digitLimit < (digits n.natAbs).length

theorem hasLongInteger_integer {n : Int} :
    (integer n).HasLongInteger ↔ digitLimit < (digits n.natAbs).length := by
  constructor
  · rintro ⟨m, hm, hl⟩
    cases hm
    exact hl
  · exact fun h => ⟨n, .self, h⟩

theorem hasLongInteger_collection {kind : CollectionKind} {items : List Value} :
    (collection kind items).HasLongInteger ↔ ∃ x ∈ items, x.HasLongInteger := by
  constructor
  · rintro ⟨n, hn, hl⟩
    cases hn with
    | item hm h => exact ⟨_, hm, n, h, hl⟩
  · rintro ⟨x, hx, n, hn, hl⟩
    exact ⟨n, .item hx hn, hl⟩

theorem hasLongInteger_map {entries : List (Value × Value)} :
    (map entries).HasLongInteger ↔ ∃ e ∈ entries, e.1.HasLongInteger ∨ e.2.HasLongInteger := by
  constructor
  · rintro ⟨n, hn, hl⟩
    cases hn with
    | key hm h => exact ⟨_, hm, .inl ⟨n, h, hl⟩⟩
    | value hm h => exact ⟨_, hm, .inr ⟨n, h, hl⟩⟩
  · rintro ⟨e, he, ⟨n, hn, hl⟩ | ⟨n, hn, hl⟩⟩
    · exact ⟨n, .key he hn, hl⟩
    · exact ⟨n, .value he hn, hl⟩

end Value

/-- Writing fails, as too long, exactly under a condition. -/
def FailsWhen {α : Type} (r : Except NumeralError α) (long : Prop) : Prop :=
  ∀ e, r = .error e ↔ e = .tooLongToWrite ∧ long

namespace FailsWhen

variable {α β : Type} {r : Except NumeralError α} {P Q : Prop}

theorem ok {a : α} (hP : ¬ P) : FailsWhen (.ok a) P := by
  intro e
  constructor
  · exact nofun
  · exact fun h => absurd h.2 hP

theorem congr (h : FailsWhen r P) (hPQ : P ↔ Q) : FailsWhen r Q := fun e =>
  (h e).trans (and_congr_right fun _ => hPQ)

theorem map (h : FailsWhen r P) (f : α → β) : FailsWhen (r.map f) P := by
  intro e
  rw [← h e]
  cases r <;> simp [Except.map]

/-- The first part to fail decides, and there is only one way to fail. -/
theorem bind {f : α → Except NumeralError β} (h : FailsWhen r P) (hf : ∀ a, FailsWhen (f a) Q) :
    FailsWhen (r >>= f) (P ∨ Q) := by
  intro e
  cases r with
  | error g =>
    obtain ⟨rfl, hP⟩ := (h g).mp rfl
    constructor
    · intro he
      cases he
      exact ⟨rfl, .inl hP⟩
    · rintro ⟨rfl, -⟩
      rfl
  | ok a =>
    have hP : ¬ P := fun hP => nomatch (h _).mpr ⟨rfl, hP⟩
    rw [or_iff_right hP]
    exact hf a e

end FailsWhen

namespace Value

theorem writeInt_fails (n : Int) : FailsWhen (writeInt n) (integer n).HasLongInteger := fun e => by
  rw [writeInt_eq_error_iff, hasLongInteger_integer, and_comm]

/-- A value without parts, and no integer itself. -/
theorem not_hasLongInteger {v : Value} (h : ∀ n, ¬ PartOf (integer n) v) : ¬ v.HasLongInteger :=
  fun ⟨n, hn, _⟩ => h n hn

mutual

/-- Only a long integer has no literal. -/
theorem literal_fails : ∀ v : Value, FailsWhen v.literal v.HasLongInteger
  | null => .ok (not_hasLongInteger nofun)
  | boolean _ => .ok (not_hasLongInteger nofun)
  | integer n => writeInt_fails n
  | float _ => .ok (not_hasLongInteger nofun)
  | decimal _ => .ok (not_hasLongInteger nofun)
  | text _ => .ok (not_hasLongInteger nofun)
  | collection kind items =>
    ((literals_fails items).map kind.literal).congr hasLongInteger_collection.symm
  | map entries =>
    ((entryLiterals_fails entries).map fun es => braced (commaSeparated es)).congr
      hasLongInteger_map.symm
  | bytes _ => .ok (not_hasLongInteger nofun)
  | foreign => .ok (not_hasLongInteger nofun)

theorem literals_fails : ∀ vs : List Value,
    FailsWhen (literals vs) (∃ x ∈ vs, x.HasLongInteger)
  | [] => .ok (by simp)
  | x :: xs => by
    have h := (literal_fails x).bind fun s => (literals_fails xs).bind fun rest =>
      FailsWhen.ok (a := s :: rest) not_false
    apply h.congr
    simp

theorem entryLiterals_fails : ∀ es : List (Value × Value),
    FailsWhen (entryLiterals es) (∃ e ∈ es, e.1.HasLongInteger ∨ e.2.HasLongInteger)
  | [] => .ok (by simp)
  | (k, x) :: es => by
    have h := (literal_fails k).bind fun key => (literal_fails x).bind fun s =>
      (entryLiterals_fails es).bind fun rest =>
        FailsWhen.ok (a := (key ++ ':' :: ' ' :: s) :: rest) not_false
    apply h.congr
    simp [or_assoc]

end

/-- Only a long integer prevents the text of a value. -/
theorem toText_fails (v : Value) : FailsWhen v.toText v.HasLongInteger := by
  cases v with
  | null => exact .ok (not_hasLongInteger nofun)
  | boolean b => exact .ok (not_hasLongInteger nofun)
  | integer n => exact writeInt_fails n
  | float x => exact .ok (not_hasLongInteger nofun)
  | decimal d => exact .ok (not_hasLongInteger nofun)
  | text t => exact .ok (not_hasLongInteger nofun)
  | collection kind items => exact literal_fails _
  | map entries => exact literal_fails _
  | bytes data => exact literal_fails _
  | foreign => exact literal_fails _

def IsLongNumeral (v : Value) : Prop :=
  ∃ sign ds, sign ∈ signs ∧ isDigits ds = true ∧ v = text (sign ++ ds) ∧ digitLimit < ds.length

theorem operand?_eq_error_iff {v : Value} {e : NumeralError} :
    v.operand? = some (.error e) ↔
      ∃ sign ds, sign ∈ signs ∧ isDigits ds = true ∧ v = text (sign ++ ds) ∧
        digitLimit < ds.length ∧ e = .tooLongToRead ds.length := by
  constructor
  · intro h
    cases v with
    | text t =>
      obtain ⟨sign, ds, hs, hd, rfl, hl⟩ := readInt?_eq_error_iff.mp h
      exact ⟨sign, ds, hs, hd, rfl, hl⟩
    | float x =>
      obtain ⟨n, -, hn⟩ := Option.map_eq_some_iff.mp h
      cases hn
    | decimal d =>
      obtain ⟨n, -, hn⟩ := Option.map_eq_some_iff.mp h
      cases hn
    | integer n => cases h
    | null => cases h
    | boolean b => cases h
    | collection kind items => cases h
    | map entries => cases h
    | bytes data => cases h
    | foreign => cases h
  · rintro ⟨sign, ds, hs, hd, rfl, hl⟩
    exact readInt?_eq_error_iff.mpr ⟨sign, ds, hs, hd, rfl, hl⟩

theorem isLongNumeral_iff {v : Value} : v.IsLongNumeral ↔ ∃ e, v.operand? = some (.error e) := by
  simp only [operand?_eq_error_iff]
  constructor
  · rintro ⟨sign, ds, hs, hd, hv, hl⟩
    exact ⟨_, sign, ds, hs, hd, hv, hl, rfl⟩
  · rintro ⟨_, sign, ds, hs, hd, hv, hl, -⟩
    exact ⟨sign, ds, hs, hd, hv, hl⟩

theorem operand_numeral_ok_iff {sign ds : Text} (hs : sign ∈ signs) (hd : isDigits ds = true) :
    (∃ n, (text (sign ++ ds)).operand none none = .ok n) ↔ ds.length ≤ digitLimit := by
  simp only [operand_eq_ok_iff]
  change (∃ n, readInt? (sign ++ ds) = some (.ok n)) ↔ _
  rw [readInt?_append hs hd]
  split
  · rename_i hl
    exact iff_of_true ⟨_, rfl⟩ hl
  · rename_i hl
    exact iff_of_false nofun hl

theorem toText_integer_ok_iff {n : Int} :
    (∃ x, (integer n).toText = .ok x) ↔ (digits n.natAbs).length ≤ digitLimit := by
  change (∃ x, writeInt n = .ok x) ↔ _
  rw [← fits_iff]
  unfold writeInt
  split
  · rename_i hf
    exact iff_of_true ⟨_, rfl⟩ hf
  · rename_i hf
    exact iff_of_false nofun hf

end Value

namespace Placeholder

/-- Rendering comes upon a numeral beyond the digit limit: the operand of a plural placeholder, or
an integer in a value that is to be written. -/
def MeetsLongNumeral (p : Placeholder) (ps : Parameters) : Prop :=
  p.name ≠ [] ∧ ∃ v, ps p.name = some v ∧
    ((p.formatType = .plural ∧ v.IsLongNumeral) ∨
      (p.formatType ≠ .plural ∧ (p.formatType = .untyped → v.kind ≠ .nonScalar) ∧
        v.HasLongInteger))

theorem render_numeral_iff {p : Placeholder} {ps : Parameters} :
    (∃ e, (p.render ps).outcome = .error (.numeral e)) ↔ p.MeetsLongNumeral ps := by
  simp only [render_error_iff]
  constructor
  · rintro ⟨e, he⟩
    cases he with
    | choice hn v hv ht hc =>
      cases hc with
      | tooLong _ ho => exact ⟨hn, v, hv, .inl ⟨ht, Value.isLongNumeral_iff.mpr ⟨e, ho⟩⟩⟩
    | tooLong hn v hv ht hs _ hw =>
      exact ⟨hn, v, hv, .inr ⟨ht, hs, ((v.toText_fails e).mp hw).2⟩⟩
  · rintro ⟨hn, v, hv, ⟨ht, hlong⟩ | ⟨ht, hs, hlong⟩⟩
    · obtain ⟨e, ho⟩ := Value.isLongNumeral_iff.mp hlong
      exact ⟨e, .choice hn v hv ht (.tooLong e ho)⟩
    · exact ⟨_, .tooLong hn v hv ht hs _ ((v.toText_fails _).mpr ⟨rfl, hlong⟩)⟩

end Placeholder

theorem format_numeral_iff {template : Text} {ps : Parameters} :
    (∃ e, (format template ps).outcome = .error (.numeral e)) ↔
      ∃ before p after, placeholders template = before ++ p :: after ∧
        (∀ q ∈ before, ∃ x, (q.render ps).outcome = .ok x) ∧ p.MeetsLongNumeral ps := by
  simp only [format_error_iff, ← Placeholder.render_numeral_iff]
  constructor
  · rintro ⟨e, before, p, after, hss, hok, hp⟩
    exact ⟨before, p, after, hss, hok, e, hp⟩
  · rintro ⟨before, p, after, hss, hok, e, hp⟩
    exact ⟨e, before, p, after, hss, hok, hp⟩

theorem format_settles_iff_not_numeral {template : Text} {ps : Parameters} :
    ((∃ x, (format template ps).outcome = .ok x) ∨
        ∃ e, (format template ps).outcome = .error (.rejected e) ∧ e.cause ≠ .general) ↔
      ¬ ∃ e, (format template ps).outcome = .error (.numeral e) := by
  rcases ho : (format template ps).outcome with (e | e) | x
  · obtain ⟨-, content, span, -, -, -, he⟩ := segments_of_format_rejected ho
    simp [he.cause_ne_general]
  · simp
  · simp

/-- On any platform, formatting gives a text or rejects the template for a specific reason, except
where the placeholders before one can be rendered and that one comes upon a numeral beyond the digit
limit or needs more room than there is, or where there is no room for the text as a whole. With room
enough, all platforms come to the same. Numerals are read, and integers are written, up to the
limit. -/
theorem format_settles_iff (i : Platform) (template : Text) (ps : Parameters) :
    (((∃ x, i.format template ps = .ok x) ∨
        ∃ e, i.format template ps = .error (.failure (.rejected e)) ∧ e.cause ≠ .general) ↔
      (¬ ∃ before p after, placeholders template = before ++ p :: after ∧
        (∀ q ∈ before, ∃ x, (q.render ps).outcome = .ok x) ∧
          (p.MeetsLongNumeral ps ∨ p.LacksRoom i ps)) ∧
      ∀ x, (format template ps).outcome = .ok x → i.holds x = true) ∧
    (i.format template ps = .error .exhausted ∨
      i.format template ps = (format template ps).outcome.mapError .failure) ∧
    (∀ sign ds, sign ∈ signs → isDigits ds = true →
      ((∃ n, (Value.text (sign ++ ds)).operand none none = .ok n) ↔ ds.length ≤ digitLimit)) ∧
    ∀ n : Int, (∃ x, (Value.integer n).toText = .ok x) ↔
      (digits n.natAbs).length ≤ digitLimit := by
  refine ⟨?_, ?_, fun sign ds => Value.operand_numeral_ok_iff, fun n => Value.toText_integer_ok_iff⟩
  · simp only [and_or_left, exists_or, not_or, ← format_numeral_iff]
    by_cases hroom : i.format template ps = .error .exhausted
    · -- Neither side holds where there is not room enough.
      rw [hroom]
      refine iff_of_false (by simp) fun h => ?_
      rcases Platform.format_exhausted_iff.mp hroom with hp | ⟨x, hx, hheld⟩
      · exact h.1.2 hp
      · rw [h.2 x hx] at hheld
        cases hheld
    · have hsettles : (∃ x, i.format template ps = .ok x) ∨
          (∃ e, i.format template ps = .error (.failure (.rejected e)) ∧ e.cause ≠ .general) ↔
            ¬ ∃ e, (format template ps).outcome = .error (.numeral e) := by
        rw [← format_settles_iff_not_numeral, Platform.format_eq hroom]
        cases (format template ps).outcome <;> simp [Except.mapError]
      rw [Platform.format_exhausted_iff, not_or] at hroom
      rw [hsettles, and_iff_left hroom.1, and_iff_left]
      intro x hx
      by_contra hheld
      exact hroom.2 ⟨x, hx, Bool.eq_false_iff.mpr hheld⟩
  · by_cases hroom : i.format template ps = .error .exhausted
    · exact .inl hroom
    · exact .inr (Platform.format_eq hroom)

def pluralOfN : Text := "\x7bn, plural, one\x7ba\x7d other\x7bb\x7d\x7d".toList

/-- Zero as a numeral with one digit more than can be read. -/
def longZero : Text := List.replicate (digitLimit + 1) '0'

/-- The least integer that is too long to be written. -/
def longInteger : Int := 10 ^ digitLimit

/-- Neither a numeral of any length is an operand nor is an integer of any size written, and
formatting then neither gives a text nor rejects the template. -/
theorem format_fails_of_long_numerals :
    isDigits longZero = true ∧
      (format pluralOfN (.ofList [(['n'], .text longZero)])).outcome =
        .error (.numeral (.tooLongToRead 4301)) ∧
      (format (braced ['n']) (.ofList [(['n'], .integer longInteger)])).outcome =
        .error (.numeral .tooLongToWrite) := by
  have hd : isDigits longZero = true := by
    simp only [isDigits, Bool.and_eq_true, List.all_eq_true]
    refine ⟨rfl, fun c hc => ?_⟩
    rw [List.eq_of_mem_replicate hc]
    rfl
  have hread : readInt? longZero = some (.error (.tooLongToRead 4301)) := by
    have hsign : [] ∈ signs := List.mem_cons_self
    have h := readInt?_append hsign hd
    rwa [List.nil_append, longZero, List.length_replicate, if_neg (Nat.not_succ_le_self _)] at h
  have hplural : placeholders pluralOfN =
      [.read "n, plural, one\x7ba\x7d other\x7bb\x7d".toList (some ⟨0, 28, by omega⟩)] := by decide
  have hplain : placeholders (braced ['n']) = [.read ['n'] (some ⟨0, 3, by omega⟩)] := by decide
  have hwrite : writeInt longInteger = .error .tooLongToWrite := if_neg (by decide +kernel)
  refine ⟨hd, format_error_iff.mpr ⟨[], _, [], hplural, by simp, ?_⟩,
    format_error_iff.mpr ⟨[], _, [], hplain, by simp, ?_⟩⟩
  · exact Placeholder.render_error_iff.mpr
      (.choice (by decide) (.text longZero) rfl rfl (.tooLong _ hread))
  · exact Placeholder.render_error_iff.mpr
      (.tooLong (by decide) (.integer longInteger) rfl (by decide) (by decide) _ hwrite)

end MessageTemplate
