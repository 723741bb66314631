import MessageTemplate.Proofs.PlaceholderPrinting

/-! Lists of arguments that are told apart after they were joined.
`splitArguments_joinArguments_iff` says that these are exactly the lists that splitting yields. -/
namespace MessageTemplate

/-- No argument is split by a comma of its own, and each but the last closes the groups that it
opens, so that the comma after it counts. -/
structure StayApart (args : List Text) : Prop where
  comma : ∀ a ∈ args, ¬ HasComma 0 a
  closed : ∀ a ∈ args.dropLast, ¬ HasUnmatchedOpen a

theorem stayApart_nil : StayApart [] := ⟨nofun, nofun⟩

theorem stayApart_cons {a : Text} {args : List Text} :
    StayApart (a :: args) ↔
      ¬ HasComma 0 a ∧ (args ≠ [] → ¬ HasUnmatchedOpen a) ∧ StayApart args := by
  cases args with
  | nil =>
    constructor
    · intro h
      exact ⟨h.comma a List.mem_cons_self, nofun, stayApart_nil⟩
    · rintro ⟨ha, -, -⟩
      exact ⟨List.forall_mem_singleton.mpr ha, nofun⟩
  | cons b args =>
    constructor
    · intro h
      obtain ⟨ha, hcomma⟩ := List.forall_mem_cons.mp h.comma
      obtain ⟨hclosed, hrest⟩ := List.forall_mem_cons.mp h.closed
      exact ⟨ha, fun _ => hclosed, hcomma, hrest⟩
    · rintro ⟨ha, hclosed, hrest⟩
      exact ⟨List.forall_mem_cons.mpr ⟨ha, hrest.comma⟩,
        List.forall_mem_cons.mpr ⟨hclosed (List.cons_ne_nil b args), hrest.closed⟩⟩

/-- What splitting yields: the depth is back at 0 wherever it splits, so each argument but the first
is read from depth 0. -/
theorem stayApart_splitFrom (depth : Nat) (t : Text) :
    ¬ HasComma depth (splitFrom depth t).1 ∧
      ((splitFrom depth t).2 ≠ [] → (splitFrom depth t).1.foldl nesting depth = 0) ∧
      StayApart (splitFrom depth t).2 := by
  induction t generalizing depth with
  | nil =>
    exact ⟨not_hasComma_of_notMem (by simp [splitFrom]), fun h => absurd rfl h, stayApart_nil⟩
  | cons c t ih =>
    obtain ⟨hcomma, hclosed, hrest⟩ := ih (nesting depth c)
    simp only [splitFrom]
    split
    · rename_i h
      obtain ⟨rfl, rfl⟩ := h
      refine ⟨not_hasComma_of_notMem (by simp), fun _ => rfl,
        stayApart_cons.mpr ⟨hcomma, ?_, hrest⟩⟩
      exact fun hne => foldl_nesting_zero_iff.mp (hclosed hne)
    · rename_i h
      refine ⟨?_, hclosed, hrest⟩
      rw [hasComma_cons, not_or]
      exact ⟨h, hcomma⟩

theorem stayApart_splitArguments (content : Text) : StayApart (splitArguments content) := by
  obtain ⟨hcomma, hclosed, hrest⟩ := stayApart_splitFrom 0 content
  exact stayApart_cons.mpr ⟨hcomma, fun hne => foldl_nesting_zero_iff.mp (hclosed hne), hrest⟩

/-- The commas between the arguments split, and no others do. -/
theorem StayApart.splitFrom_joinArguments {first : Text} {others : List Text}
    (h : StayApart (first :: others)) :
    splitFrom 0 (joinArguments (first :: others)) = (first, others) := by
  induction others generalizing first with
  | nil =>
    obtain ⟨hcomma, -, -⟩ := stayApart_cons.mp h
    rw [joinArguments_singleton]
    exact splitFrom_of_not_hasComma hcomma
  | cons second others ih =>
    obtain ⟨hcomma, hclosed, hrest⟩ := stayApart_cons.mp h
    have hdepth : first.foldl nesting 0 = 0 :=
      foldl_nesting_zero_iff.mpr (hclosed (List.cons_ne_nil second others))
    rw [joinArguments_cons first (List.cons_ne_nil second others),
      splitFrom_append_comma hcomma hdepth, ih hrest]

/-- Joining undoes splitting. Splitting undoes joining exactly where no argument has a comma at
depth 0 and none but the last has an opening brace without a partner, that is, ends at a depth other
than 0. -/
theorem splitArguments_joinArguments_iff :
    (∀ content, joinArguments (splitArguments content) = content) ∧
    (∀ args, args ≠ [] → (splitArguments (joinArguments args) = args ↔
      (∀ a ∈ args, ¬ HasComma 0 a) ∧ ∀ a ∈ args.dropLast, ¬ HasUnmatchedOpen a)) ∧
    ∀ a : Text, HasUnmatchedOpen a ↔ a.foldl nesting 0 ≠ 0 := by
  refine ⟨joinArguments_splitArguments, ?_, fun a => ?_⟩
  · intro args hne
    obtain ⟨first, others, rfl⟩ := List.exists_cons_of_ne_nil hne
    constructor
    · intro h
      have hapart := stayApart_splitArguments (joinArguments (first :: others))
      rw [h] at hapart
      exact ⟨hapart.comma, hapart.closed⟩
    · rintro ⟨hcomma, hclosed⟩
      have hapart : StayApart (first :: others) := ⟨hcomma, hclosed⟩
      rw [splitArguments, hapart.splitFrom_joinArguments]
  · rw [← not_iff_not, not_not, foldl_nesting_zero_iff]

/-- A stray closing brace, an empty argument, a comma in a group, and a last argument that is never
closed. -/
def unevenArguments : List Text :=
  ["\x7da\x7b,\x7d".toList, [], " b".toList, "\x7bc, d".toList]

theorem splitArguments_joinArguments_iff_uneven :
    unevenArguments ≠ [] ∧ splitArguments (joinArguments unevenArguments) = unevenArguments := by
  have hne : unevenArguments ≠ [] := nofun
  exact ⟨hne, (splitArguments_joinArguments_iff.2.1 unevenArguments hne).mpr (by decide)⟩

end MessageTemplate
