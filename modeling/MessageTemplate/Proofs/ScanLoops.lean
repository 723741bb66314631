import MessageTemplate.Proofs.CursorReading

/-! Loops that move a cursor to the end of its source or stop before it. `ScanLoop.Finds.ends` says
that a loop whose rounds move the cursor ahead ends, and with what. -/
namespace MessageTemplate

namespace ScanLoop

variable {ε ε' σ ρ : Type}

/-- No round fails, and none leaves the cursor where it is or takes it out of its source. -/
structure Progresses (l : ScanLoop ε σ ρ) : Prop where
  total : ∀ s, 0 ≤ (l.cursor s).pos → (l.cursor s).isAtEnd = false → ∃ r, l.round s = .ok r
  ahead : ∀ s s', 0 ≤ (l.cursor s).pos → (l.cursor s).isAtEnd = false →
    l.round s = .ok (.next s') →
      (l.cursor s).Reaches (l.cursor s') ∧ (l.cursor s).pos < (l.cursor s').pos

/-- What a round comes to, where a function says what the loop is to find: the answer, or a state
further on from which the same is to be found. -/
def FindsNext (l : ScanLoop ε σ ρ) (find : σ → Except ε' ρ) (s : σ) : Round σ ρ → Prop
  | .next s' => (l.cursor s).Reaches (l.cursor s') ∧ (l.cursor s).pos < (l.cursor s').pos ∧
      find s' = find s
  | .done answer => find s = .ok answer

/-- Round by round the loop comes to what a function says. -/
structure Finds (l : ScanLoop ε σ ρ) (find : σ → Except ε' ρ) : Prop where
  atEnd : ∀ s, 0 ≤ (l.cursor s).pos → (l.cursor s).isAtEnd = true → find s = .ok (l.atEnd s)
  round : ∀ s, 0 ≤ (l.cursor s).pos → (l.cursor s).isAtEnd = false →
    ∃ r, l.round s = .ok r ∧ l.FindsNext find s r

variable {l : ScanLoop ε σ ρ} {find : σ → Except ε' ρ}

theorem Finds.progresses (h : l.Finds find) : l.Progresses := by
  refine ⟨?_, ?_⟩
  · intro s hpos hend
    obtain ⟨r, hr, -⟩ := h.round s hpos hend
    exact ⟨r, hr⟩
  · intro s s' hpos hend hround
    obtain ⟨r, hr, hnext⟩ := h.round s hpos hend
    cases hr.symm.trans hround
    exact ⟨hnext.1, hnext.2.1⟩

/-- The loop ends after at most one round for each code point ahead, with what it is to find. -/
theorem Finds.ends (h : l.Finds find) {s : σ} (hpos : 0 ≤ (l.cursor s).pos) :
    ∃ n answer, l.Ends s n answer ∧ find s = .ok answer ∧
      n ≤ ((l.cursor s).source.length - (l.cursor s).pos).toNat := by
  -- Every round leaves less of the source ahead.
  induction hleft : ((l.cursor s).source.length - (l.cursor s).pos).toNat
    using Nat.strongRecOn generalizing s with
  | _ left ih =>
    cases hend : (l.cursor s).isAtEnd with
    | true => exact ⟨0, _, .atEnd hend, h.atEnd s hpos hend, Nat.zero_le _⟩
    | false =>
      have hlt := Cursor.pos_lt_of_isAtEnd_eq_false hend
      obtain ⟨r, hround, hnext⟩ := h.round s hpos hend
      cases r with
      | done answer => exact ⟨1, answer, .done hend hround, hnext, by omega⟩
      | next s' =>
        obtain ⟨hreaches, hahead, hfind⟩ := hnext
        rw [← hreaches.source] at hleft hlt
        obtain ⟨n, answer, hends, hanswer, hn⟩ :=
          ih _ (by omega) (Int.le_trans hpos hreaches.le) rfl
        exact ⟨n + 1, answer, .next hend hround hends, hfind ▸ hanswer, by omega⟩

end ScanLoop

namespace Cursor

variable {s t : Text} {c : Cursor}

theorem skipWhile_cons {p : Char → Bool} {a : Char} (h : p a = true) :
    (between s (a :: t)).skipWhile p = (between (s ++ [a]) t).skipWhile p := by
  rw [skipWhile_between, skipWhile_between, List.takeWhile_cons_of_pos h,
    List.dropWhile_cons_of_pos h, List.append_assoc]
  rfl

theorem skipWhile_cons_of_not {p : Char → Bool} {a : Char} (h : ¬ p a = true) :
    (between s (a :: t)).skipWhile p = .ok (between s (a :: t)) := by
  rw [skipWhile_between, List.takeWhile_cons_of_neg h, List.dropWhile_cons_of_neg h,
    List.append_nil]

/-- A code point after which the depth is another is passed over. -/
theorem skipToDepthZero_cons {depth depth' : Int} {a : Char}
    (h : lengthToDepthZero depth (a :: t) = (lengthToDepthZero depth' t).map (· + 1)) :
    (between s (a :: t)).skipToDepthZero depth = (between (s ++ [a]) t).skipToDepthZero depth' := by
  rw [skipToDepthZero_between, skipToDepthZero_between, h, Option.map_map]
  congr 2
  funext n
  simp

end Cursor

theorem whileLoop_finds (p : Char → Bool) : (whileLoop p).Finds (Cursor.skipWhile p) := by
  refine ⟨fun c _ hend => Cursor.skipWhile_of_isAtEnd hend, ?_⟩
  intro c hpos hend
  obtain ⟨s, a, t, rfl⟩ := Cursor.exists_between_cons hpos hend
  by_cases hp : p a = true
  · refine ⟨.next (Cursor.between (s ++ [a]) t), by simp [whileLoop, Except.map, hp], ?_⟩
    exact ⟨Cursor.reaches_between s [a] t, Cursor.pos_between_lt (List.cons_ne_nil a []),
      (Cursor.skipWhile_cons hp).symm⟩
  · exact ⟨.done (Cursor.between s (a :: t)), by simp [whileLoop, Except.map, hp],
      Cursor.skipWhile_cons_of_not hp⟩

theorem groupLoop_findsNext {s t : Text} {a : Char} {depth depth' : Int}
    (h : Cursor.lengthToDepthZero depth (a :: t) =
      (Cursor.lengthToDepthZero depth' t).map (· + 1)) :
    groupLoop.FindsNext (fun s => s.1.skipToDepthZero s.2) (.between s (a :: t), depth)
      (.next (.between (s ++ [a]) t, depth')) :=
  ⟨Cursor.reaches_between s [a] t, Cursor.pos_between_lt (List.cons_ne_nil a []),
    (Cursor.skipToDepthZero_cons h).symm⟩

theorem groupLoop_finds : groupLoop.Finds fun s => s.1.skipToDepthZero s.2 := by
  refine ⟨?_, ?_⟩
  · rintro ⟨c, depth⟩ hpos hend
    have hahead : c.ahead = .ok [] := Cursor.ahead_of_isAtEnd hpos hend
    change c.skipToDepthZero depth = .ok none
    rw [Cursor.skipToDepthZero, hahead]
    rfl
  · rintro ⟨c, depth⟩ hpos hend
    obtain ⟨s, a, t, rfl⟩ := Cursor.exists_between_cons hpos hend
    have hgoOn : ∀ depth', groupLoop.round (.between s (a :: t), depth) =
          .ok (.next (.between (s ++ [a]) t, depth')) →
        Cursor.lengthToDepthZero depth (a :: t) =
          (Cursor.lengthToDepthZero depth' t).map (· + 1) →
        ∃ r, groupLoop.round (.between s (a :: t), depth) = .ok r ∧
          groupLoop.FindsNext (fun s => s.1.skipToDepthZero s.2) (.between s (a :: t), depth) r :=
      fun depth' hround h => ⟨_, hround, groupLoop_findsNext h⟩
    by_cases ho : a = openBrace
    · subst ho
      exact hgoOn (depth + 1) (by simp [groupLoop, Except.map]) rfl
    · by_cases hc : a = closeBrace
      · subst hc
        by_cases hdepth : depth = 1
        · subst hdepth
          exact ⟨.done (some (.between (s ++ [closeBrace]) t)), by simp [groupLoop, Except.map],
            Cursor.skipToDepthZero_between 1⟩
        · exact hgoOn (depth - 1) (by simp [groupLoop, Except.map, hdepth])
            (by simp [Cursor.lengthToDepthZero, hdepth])
      · exact hgoOn depth (by simp [groupLoop, Except.map, ho, hc])
          (by simp [Cursor.lengthToDepthZero, ho, hc])

end MessageTemplate
