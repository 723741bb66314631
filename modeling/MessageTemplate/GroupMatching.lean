import MessageTemplate.Braces

/-! All groups of a text in one pass from its end. `contentLengths_cons` says that the pass finds
at every opening brace what reading the group from there would find. -/
namespace MessageTemplate

/-- The pass over a text: its length, for each closing brace without a partner (nearest first) the
length of the text after it, and for each code point the content length of the group it opens. -/
structure GroupMatching where
  size : Nat
  waiting : List Nat
  contents : List (Option Nat)

namespace GroupMatching

def empty : GroupMatching := ⟨0, [], []⟩

/-- Extend the pass to the left: an opening brace takes the nearest closing brace without a
partner, if there is one. -/
def prepend (c : Char) (m : GroupMatching) : GroupMatching :=
  if c = openBrace then
    match m.waiting with
    | [] => ⟨m.size + 1, [], none :: m.contents⟩
    | after :: waiting => ⟨m.size + 1, waiting, some (m.size - after - 1) :: m.contents⟩
  else if c = closeBrace then ⟨m.size + 1, m.size :: m.waiting, none :: m.contents⟩
  else ⟨m.size + 1, m.waiting, none :: m.contents⟩

def ofText (t : Text) : GroupMatching := t.foldr prepend empty

theorem ofText_cons (c : Char) (t : Text) : ofText (c :: t) = prepend c (ofText t) := rfl

theorem size_ofText (t : Text) : (ofText t).size = t.length := by
  induction t with
  | nil => rfl
  | cons c t ih =>
    simp only [ofText_cons, prepend, List.length_cons, ← ih]
    split
    · split <;> rfl
    · split <;> rfl

/-- The closing braces that wait are those that close the groups around the text. -/
theorem waiting_ofText (t : Text) (depth : Nat) :
    (ofText t).waiting[depth]? = (closeGroup depth t).map (·.2.length) := by
  induction t generalizing depth with
  | nil => rfl
  | cons c t ih =>
    simp only [ofText_cons, prepend, closeGroup]
    split
    · rw [Option.map_map]
      change _ = (closeGroup (depth + 1) t).map (·.2.length)
      rw [← ih]
      cases (ofText t).waiting <;> rfl
    · split
      · cases depth with
        | zero => simp [size_ofText]
        | succ depth =>
          simp only [List.getElem?_cons_succ, ih, Option.map_map]
          rfl
      · simp only [ih, Option.map_map]
        rfl

end GroupMatching

/-- For each code point of a text, the content length of the group that it opens. -/
def contentLengths (t : Text) : List (Option Nat) := (GroupMatching.ofText t).contents

theorem contentLengths_cons (c : Char) (t : Text) :
    contentLengths (c :: t) =
      (if c = openBrace then (closeGroup 0 t).map (·.1.length) else none) :: contentLengths t := by
  simp only [contentLengths, GroupMatching.ofText_cons, GroupMatching.prepend]
  have hw := GroupMatching.waiting_ofText t 0
  split
  · rw [GroupMatching.size_ofText]
    cases hg : closeGroup 0 t with
    | none =>
      cases h : (GroupMatching.ofText t).waiting <;> simp_all
    | some g =>
      have hl := closeGroup_length hg
      cases h : (GroupMatching.ofText t).waiting with
      | nil => simp_all
      | cons after waiting =>
        have : after = g.2.length := by simpa [h, hg] using hw
        simp only [Option.map_some, List.cons.injEq, Option.some.injEq, and_true]
        omega
  · split <;> rfl

theorem contentLengths_length (t : Text) : (contentLengths t).length = t.length := by
  induction t with
  | nil => rfl
  | cons c t ih => simp [contentLengths_cons, ih]

theorem drop_contentLengths (n : Nat) (t : Text) :
    (contentLengths t).drop n = contentLengths (t.drop n) := by
  induction n generalizing t with
  | zero => rfl
  | succ n ih =>
    cases t with
    | nil => rfl
    | cons c t => simp [contentLengths_cons, ih]

/-- A pass from left to right: the offset it has come to, the offsets of the groups that are open
there, innermost first, and the offsets of the groups that are closed. -/
structure PairingPass where
  offset : Nat
  opened : List Nat
  pairs : List (Nat × Nat)

namespace PairingPass

def start : PairingPass := ⟨0, [], []⟩

/-- A closing brace closes the innermost open group, if there is one. -/
def step (m : PairingPass) (c : Char) : PairingPass :=
  if c = openBrace then ⟨m.offset + 1, m.offset :: m.opened, m.pairs⟩
  else if c = closeBrace then
    match m.opened with
    | [] => ⟨m.offset + 1, [], m.pairs⟩
    | i :: opened => ⟨m.offset + 1, opened, (i, m.offset) :: m.pairs⟩
  else ⟨m.offset + 1, m.opened, m.pairs⟩

end PairingPass

def bracePairs (t : Text) : List (Nat × Nat) := (t.foldl PairingPass.step .start).pairs

end MessageTemplate
