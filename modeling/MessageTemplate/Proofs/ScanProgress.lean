import MessageTemplate.Proofs.PieceReading
import MessageTemplate.Proofs.PlainScan
import MessageTemplate.Proofs.ScanLoops

/-! The loops that read a plural body and a template. Each round of the first reads one piece of the
body, and each of the second passes a code point or a group. `scan_loops_progress` says that they
end, and with what the body and the template are. -/
namespace MessageTemplate

namespace Piece

/-- What a round comes to behind a piece. -/
def roundAfter (done : Text) (table : PluralTable) :
    Option (Piece × Text) → Round BodyScan PluralTable
  | none => .done table
  | some (p, rest) => .next (.between (done ++ p.source) rest, p.addTo table)

end Piece

section
open Cursor

variable {s t : Text} {a : Char} {table : PluralTable}

/-- Behind its opening brace, a group has its content ahead as far as its closing brace. -/
theorem sliceTo_closeBrace (s content rest : Text) :
    (between (s ++ [openBrace]) (content ++ closeBrace :: rest)).sliceTo
      ((between (s ++ braced content) rest).pos - 1) = content := by
  have hpos : (between (s ++ braced content) rest).pos - 1 =
      (between (s ++ [openBrace] ++ content) (closeBrace :: rest)).pos := by
    simp only [between, List.length_append, braced_length, List.length_singleton]
    omega
  rw [hpos, sliceTo_between_append]

theorem keyRound_between (ha : isKeyChar a = true) :
    keyRound (between s (a :: t)) table =
      .ok (Piece.roundAfter s table (Piece.read (a :: t))) := by
  have hskip : (between s (a :: t)).skipWhile isKeyChar =
      .ok (between (s ++ a :: t.takeWhile isKeyChar) (t.dropWhile isKeyChar)) := by
    rw [skipWhile_between, List.takeWhile_cons_of_pos ha, List.dropWhile_cons_of_pos ha]
  have hkey : (between s (a :: t)).sliceTo
      (between (s ++ a :: t.takeWhile isKeyChar) (t.dropWhile isKeyChar)).pos =
        a :: t.takeWhile isKeyChar := by
    have h := sliceTo_between_append (s := s) (t := a :: t.takeWhile isKeyChar)
      (u := t.dropWhile isKeyChar)
    rwa [List.cons_append, List.takeWhile_append_dropWhile] at h
  simp only [keyRound, hskip]
  -- The key ends with the body, at its group, or at what makes it a word without a text.
  cases hrest : t.dropWhile isKeyChar with
  | nil =>
    rw [Piece.read_key_of_word ha (by simp [hrest]), hrest]
    simp [bind, Except.bind, pure, Except.pure, Piece.roundAfter, Piece.source, Piece.addTo]
  | cons b rest =>
    by_cases hb : b = openBrace
    · subst hb
      rw [Piece.read_key_of_group ha hrest]
      rw [hrest] at hkey
      simp only [bind, Except.bind, pure, Except.pure, skipGroup_between_open,
        isAtEnd_between, List.isEmpty_cons, current_between_cons, hkey]
      cases hg : closeGroup 0 rest with
      | none => simp [Piece.roundAfter]
      | some g =>
        obtain ⟨content, after⟩ := g
        have hcontent := sliceTo_closeBrace (s ++ a :: t.takeWhile isKeyChar) content after
        simp only [List.append_assoc, List.cons_append] at hcontent
        rw [(closeGroup_eq_some_iff.mp hg).1]
        simp [Piece.roundAfter, Piece.source, Piece.addTo, hcontent]
    · rw [Piece.read_key_of_word ha (by simp [hrest, hb]), hrest]
      simp [bind, Except.bind, pure, Except.pure, Piece.roundAfter, Piece.source, Piece.addTo, hb]

theorem pieceRound_between (ha : isBlank a = false) :
    pieceRound (between s (a :: t)) table =
      .ok (Piece.roundAfter s table (Piece.read (a :: t))) := by
  rcases bodyChar_cases a with blank | rfl | rfl | key
  · rw [ha] at blank
    cases blank
  · rw [Piece.read_stray]
    simp [pieceRound, bind, Except.bind, pure, Except.pure, Piece.roundAfter, Piece.source,
      Piece.addTo]
  · rw [Piece.read_openBrace]
    simp only [pieceRound, bind, Except.bind, current_between_cons, skipGroup_between_open]
    cases hg : closeGroup 0 t with
    | none => simp [pure, Except.pure, Piece.roundAfter]
    | some g => simp [pure, Except.pure, Piece.roundAfter, Piece.source, Piece.addTo]
  · obtain ⟨-, hopen, hclose⟩ := isKeyChar_eq_true_iff.mp key
    rw [← keyRound_between key]
    simp [pieceRound, bind, Except.bind, hopen, hclose]

/-- A round passes over white space and reads a piece. -/
theorem bodyLoop_round_between :
    bodyLoop.round (between s t, table) =
      .ok (Piece.roundAfter (s ++ t.takeWhile isBlank) table
        (Piece.read (t.dropWhile isBlank))) := by
  simp only [bodyLoop, bind, Except.bind, skipBlank, skipWhile_between, isAtEnd_between]
  have hstop := List.head?_dropWhile_not isBlank t
  cases hrest : t.dropWhile isBlank with
  | nil => rfl
  | cons a rest =>
    rw [hrest] at hstop
    exact pieceRound_between hstop

end

theorem foldl_addTo_blank (table : PluralTable) (gap : Text) :
    (gap.map Piece.blank).foldl Piece.addTo table = table := by
  induction gap with
  | nil => rfl
  | cons c gap ih => exact ih

/-- What the pieces ahead of a cursor add to a table. -/
def addPiecesAhead (s : BodyScan) : Except CursorError PluralTable :=
  s.1.ahead.map fun t => (pieces t).foldl Piece.addTo s.2

theorem addPiecesAhead_between (s t : Text) (table : PluralTable) :
    addPiecesAhead (.between s t, table) = .ok ((pieces t).foldl Piece.addTo table) := by
  rw [addPiecesAhead, Cursor.ahead_between]
  rfl

theorem pieces_foldl_dropWhile_isBlank (t : Text) (table : PluralTable) :
    (pieces (t.dropWhile isBlank)).foldl Piece.addTo table =
      (pieces t).foldl Piece.addTo table := by
  have hblank : ∀ c ∈ t.takeWhile isBlank, isBlank c = true := fun c => List.mem_takeWhile_imp
  have hpieces := pieces_blank_append hblank (t.dropWhile isBlank)
  rw [List.takeWhile_append_dropWhile] at hpieces
  rw [hpieces, List.foldl_append, foldl_addTo_blank]

theorem bodyLoop_findsNext (s t : Text) (table : PluralTable) :
    bodyLoop.FindsNext addPiecesAhead (.between s t, table)
      (Piece.roundAfter (s ++ t.takeWhile isBlank) table (Piece.read (t.dropWhile isBlank))) := by
  have hfind := addPiecesAhead_between s t table
  rw [← pieces_foldl_dropWhile_isBlank] at hfind
  cases hread : Piece.read (t.dropWhile isBlank) with
  | none =>
    rw [pieces_of_read_eq_none hread] at hfind
    exact hfind
  | some r =>
    obtain ⟨p, rest⟩ := r
    rw [pieces_of_read_eq_some hread] at hfind
    obtain ⟨hsource, hfits⟩ := Piece.of_read hread
    have ht : t = (t.takeWhile isBlank ++ p.source) ++ rest := by
      rw [List.append_assoc, ← hsource, List.takeWhile_append_dropWhile]
    have hne : t.takeWhile isBlank ++ p.source ≠ [] :=
      List.append_ne_nil_of_right_ne_nil _ hfits.source_ne_nil
    have hreaches := Cursor.reaches_between s (t.takeWhile isBlank ++ p.source) rest
    have hlt := Cursor.pos_between_lt (s := s) (u := rest) hne
    rw [← ht, ← List.append_assoc] at hreaches hlt
    exact ⟨hreaches, hlt, (addPiecesAhead_between _ _ _).trans hfind.symm⟩

theorem bodyLoop_finds : bodyLoop.Finds addPiecesAhead := by
  refine ⟨?_, ?_⟩
  · rintro ⟨c, table⟩ hpos hend
    have hahead : c.ahead = .ok [] := Cursor.ahead_of_isAtEnd hpos hend
    rw [addPiecesAhead, hahead, Except.map, pieces_of_read_eq_none rfl]
    rfl
  · rintro ⟨c, table⟩ hpos hend
    obtain ⟨s, a, t, rfl⟩ := Cursor.exists_between_cons hpos hend
    exact ⟨_, bodyLoop_round_between, bodyLoop_findsNext s (a :: t) table⟩

namespace Segment

theorem walk_of_length_le {t : Text} {textStart pos : Nat} (h : t.length ≤ pos) :
    walk t textStart pos = .ok (textBetween t textStart t.length) := by
  rw [walk, if_neg (Nat.not_lt.mpr h)]

theorem walk_succ {t : Text} {textStart pos : Nat} (hlt : pos < t.length)
    (h : ∀ j, (pos, j) ∉ bracePairs t) : walk t textStart pos = walk t textStart (pos + 1) := by
  rw [walk, if_pos hlt]
  split
  · rename_i ho
    have hskip := (findersAgree ho).no_skip.mpr ((findersAgree ho).no_pair.mp h)
    split <;> simp_all
  · rfl

theorem walk_group {t : Text} {textStart pos closer : Nat} (h : (pos, closer) ∈ bracePairs t)
    {span : Span} (hspan : Span.ofBounds pos (closer + 1) = .ok span) :
    walk t textStart pos = (walk t (closer + 1) (closer + 1)).map fun ss =>
      textBetween t textStart pos ++ placeholder (cut t (pos + 1 : Nat) closer) span :: ss := by
  obtain ⟨ho, hgroup⟩ := mem_bracePairs_iff.mp h
  have hskip := (findersAgree ho).skip closer |>.mpr hgroup
  have hlt := (List.getElem?_eq_some_iff.mp ho).1
  have hpair := hgroup.1
  have hspan' : span = ⟨pos, closer + 1, by omega⟩ :=
    Except.ok.inj (hspan.symm.trans (Span.ofBounds_natCast ⟨pos, closer + 1, by omega⟩))
  subst hspan'
  rw [walk, if_pos hlt, dif_pos ho]
  split
  · simp_all
  · simp_all
  · rename_i stop hs
    cases hskip.symm.trans hs
    have hlast : ((closer + 1 : Nat) : Int) - 1 = closer := by omega
    simp only [hlast, Int.toNat_natCast]

end Segment

/-- The segments that are written and those that are found from there on. -/
def writtenAndFound (t : Text) (s : TemplateScan) : Except CursorError (List Segment) :=
  (Segment.walk t s.textStart s.pos).map (s.written ++ ·)

theorem templateLoop_ahead (t : Text) (s s' : TemplateScan) (hlt : s.pos < s'.pos)
    (hle : s'.pos ≤ t.length) :
    ((templateLoop t).cursor s).Reaches ((templateLoop t).cursor s') ∧
      ((templateLoop t).cursor s).pos < ((templateLoop t).cursor s').pos :=
  ⟨⟨rfl, Int.ofNat_le.mpr (Nat.le_of_lt hlt), Int.ofNat_le.mpr hle⟩, Int.ofNat_lt.mpr hlt⟩

theorem templateLoop_findsNext_plain {t : Text} {s : TemplateScan} (hlt : s.pos < t.length)
    (h : ∀ j, (s.pos, j) ∉ bracePairs t) :
    (templateLoop t).FindsNext (writtenAndFound t) s (.next { s with pos := s.pos + 1 }) := by
  obtain ⟨hreaches, hahead⟩ :=
    templateLoop_ahead t s { s with pos := s.pos + 1 } (Nat.lt_succ_self _) hlt
  refine ⟨hreaches, hahead, ?_⟩
  rw [writtenAndFound, writtenAndFound, Segment.walk_succ hlt h]

theorem templateLoop_findsNext_group {t : Text} {s : TemplateScan} {closer : Nat}
    (h : (s.pos, closer) ∈ bracePairs t) {span : Span}
    (hspan : Span.ofBounds s.pos (closer + 1) = .ok span) :
    (templateLoop t).FindsNext (writtenAndFound t) s
      (.next ⟨closer + 1, closer + 1, s.written ++ Segment.textBetween t s.textStart s.pos ++
        [.placeholder (cut t (s.pos + 1 : Nat) closer) span]⟩) := by
  obtain ⟨hpair, hclose, -⟩ := (mem_bracePairs_iff.mp h).2
  have hlt := (List.getElem?_eq_some_iff.mp hclose).1
  obtain ⟨hreaches, hahead⟩ := templateLoop_ahead t s
    ⟨closer + 1, closer + 1, s.written ++ Segment.textBetween t s.textStart s.pos ++
      [.placeholder (cut t (s.pos + 1 : Nat) closer) span]⟩ (Nat.lt_succ_of_lt hpair) hlt
  refine ⟨hreaches, hahead, ?_⟩
  rw [writtenAndFound, writtenAndFound, Segment.walk_group h hspan]
  cases Segment.walk t (closer + 1) (closer + 1) with
  | error e => rfl
  | ok ss => simp [Except.map]

theorem templateLoop_finds (t : Text) : (templateLoop t).Finds (writtenAndFound t) := by
  refine ⟨?_, ?_⟩
  · intro s hpos hend
    have hle : (t.length : Int) ≤ s.pos := Cursor.isAtEnd_eq_true_iff.mp hend
    rw [writtenAndFound, Segment.walk_of_length_le (by omega)]
    rfl
  · intro s hpos hend
    have hlt : (s.pos : Int) < t.length := Cursor.pos_lt_of_isAtEnd_eq_false hend
    cases hfind : (bracePairs t).find? (·.1 = s.pos) with
    | none =>
      have hplain : ∀ j, (s.pos, j) ∉ bracePairs t := by
        intro j hj
        simpa using List.find?_eq_none.mp hfind _ hj
      have hadvance : ((⟨t, s.pos⟩ : Cursor).advance 1).pos.toNat = s.pos + 1 :=
        congrArg (fun c : Cursor => c.pos.toNat) (Cursor.advance_of_le (n := 1) (by omega))
      refine ⟨.next { s with pos := s.pos + 1 }, ?_, ?_⟩
      · simp only [templateLoop, hfind, hadvance]
      · exact templateLoop_findsNext_plain (by omega) hplain
    | some pair =>
      obtain ⟨opener, closer⟩ := pair
      have hpair := List.mem_of_find?_eq_some hfind
      have hopener : opener = s.pos := by simpa using List.find?_some hfind
      subst hopener
      have hle := (mem_bracePairs_iff.mp hpair).2.1
      have hspan : Span.ofBounds s.pos (closer + 1) = .ok ⟨s.pos, closer + 1, by omega⟩ :=
        Span.ofBounds_natCast ⟨s.pos, closer + 1, by omega⟩
      refine ⟨_, ?_, templateLoop_findsNext_group hpair hspan⟩
      simp only [templateLoop, hfind, hspan]
      rfl

namespace Cursor

/-- A run of key characters is not empty where a key character is ahead. -/
theorem pos_lt_of_skipWhile {c d : Cursor} {p : Char → Bool} {a : Char} (hc : 0 ≤ c.pos)
    (ha : c.current = .ok a) (hp : p a = true) (hskip : c.skipWhile p = .ok d) : c.pos < d.pos := by
  obtain ⟨s, t, rfl⟩ := exists_between_of_current hc ha
  rw [skipWhile_between, List.takeWhile_cons_of_pos hp, List.dropWhile_cons_of_pos hp] at hskip
  cases hskip
  have hlt := pos_between_lt (s := s) (u := t.dropWhile p) (List.cons_ne_nil a (t.takeWhile p))
  rwa [List.cons_append, List.takeWhile_append_dropWhile] at hlt

/-- A group has at least its two braces. -/
theorem pos_add_two_le_of_skipGroup {c d : Cursor} (hc : 0 ≤ c.pos)
    (hopen : c.current = .ok openBrace) (hskip : c.skipGroup = .ok (some d)) :
    c.pos + 2 ≤ d.pos := by
  obtain ⟨s, t, rfl⟩ := exists_between_of_current hc hopen
  rw [skipGroup_between_open] at hskip
  obtain ⟨⟨content, rest⟩, -, rfl⟩ := Option.map_eq_some_iff.mp (Except.ok.inj hskip)
  simp only [between, List.length_append, braced_length]
  omega

/-- The loops that start at the cursor end with what it skips, and what is skipped is not empty. -/
structure SkipsEnd (c : Cursor) : Prop where
  blank : ∃ n d, (whileLoop isBlank).Ends c n d ∧ c.skipBlank = .ok d
  key : ∃ n d, (whileLoop isKeyChar).Ends c n d ∧ c.skipWhile isKeyChar = .ok d ∧
    ∀ a, c.current = .ok a → isKeyChar a = true → c.pos < d.pos
  group : ∃ n stop, groupLoop.Ends (c, 0) n stop ∧ c.skipGroup = .ok stop ∧
    ∀ d ∈ stop, c.current = .ok openBrace → c.pos + 2 ≤ d.pos

theorem skipsEnd {c : Cursor} (hc : 0 ≤ c.pos) : c.SkipsEnd := by
  refine ⟨?_, ?_, ?_⟩
  · obtain ⟨n, d, hends, hd, -⟩ := (whileLoop_finds isBlank).ends (s := c) hc
    exact ⟨n, d, hends, hd⟩
  · obtain ⟨n, d, hends, hd, -⟩ := (whileLoop_finds isKeyChar).ends (s := c) hc
    exact ⟨n, d, hends, hd, fun a ha hkey => pos_lt_of_skipWhile hc ha hkey hd⟩
  · obtain ⟨n, stop, hends, hstop, -⟩ := groupLoop_finds.ends (s := (c, 0)) hc
    refine ⟨n, stop, hends, hstop, ?_⟩
    rintro d rfl hopen
    exact pos_add_two_le_of_skipGroup hc hopen hstop

end Cursor

/-- A body of a number of code points is read in at most as many rounds. -/
theorem bodyLoop_ends (body : Text) :
    ∃ n ≤ body.length, bodyLoop.Ends (⟨body, 0⟩, .empty) n (.ofBody (some body)) := by
  obtain ⟨n, table, hends, htable, hn⟩ :=
    bodyLoop_finds.ends (s := (⟨body, 0⟩, .empty)) (Int.le_refl 0)
  have hfind : addPiecesAhead (⟨body, 0⟩, .empty) = .ok (.ofBody (some body)) :=
    addPiecesAhead_between [] body .empty
  cases htable.symm.trans hfind
  exact ⟨n, by simpa [bodyLoop] using hn, hends⟩

/-- A template of a number of code points is read in at most as many rounds. -/
theorem templateLoop_ends (t : Text) :
    ∃ n ≤ t.length, (templateLoop t).Ends .start n (segments t) := by
  obtain ⟨n, ss, hends, hss, hn⟩ := (templateLoop_finds t).ends (s := .start) (Int.le_refl 0)
  have hfind : writtenAndFound t .start = .ok (segments t) := by
    rw [writtenAndFound]
    exact congrArg _ (Segment.walk_eq_segments t)
  cases hss.symm.trans hfind
  exact ⟨n, by simpa [templateLoop, TemplateScan.start] using hn, hends⟩

/-- No round of a scanning loop fails, each that goes on moves the cursor ahead in its source, and
the loops end: a skip with what is skipped, and a body and a template after at most as many rounds
as they have code points. -/
theorem scan_loops_progress (t : Text) {c : Cursor} (hc : 0 ≤ c.pos) :
    (∀ p, (whileLoop p).Progresses) ∧ groupLoop.Progresses ∧ bodyLoop.Progresses ∧
      (templateLoop t).Progresses ∧ c.SkipsEnd ∧
      (∃ n ≤ t.length, bodyLoop.Ends (⟨t, 0⟩, .empty) n (.ofBody (some t))) ∧
      (∃ n ≤ t.length, (templateLoop t).Ends .start n (segments t)) ∧
      ∀ i j, (i, j) ∈ bracePairs t → i < j := by
  refine ⟨fun p => (whileLoop_finds p).progresses, groupLoop_finds.progresses,
    bodyLoop_finds.progresses, (templateLoop_finds t).progresses, Cursor.skipsEnd hc,
    bodyLoop_ends t, templateLoop_ends t, ?_⟩
  exact fun i j h => (mem_bracePairs_iff.mp h).2.1

/-- An entry, and a group that is never closed. -/
theorem scan_loops_progress_unclosed :
    let t := "few\x7b\x7d \x7bx".toList
    let c : Cursor := ⟨t, 6⟩
    0 ≤ c.pos ∧ (∃ n, groupLoop.Ends (c, 0) n none) ∧
      (∃ n ≤ 8, bodyLoop.Ends (⟨t, 0⟩, .empty) n (.ofBody (some t))) ∧
      ∃ n ≤ 8, (templateLoop t).Ends .start n (segments t) := by
  intro t c
  have hc : 0 ≤ c.pos := by decide
  obtain ⟨-, -, -, -, hskips, hbody, htemplate, -⟩ := scan_loops_progress t hc
  obtain ⟨n, stop, hgroup, hstop, -⟩ := hskips.group
  have hunclosed : c.skipGroup = .ok none := by decide
  cases hstop.symm.trans hunclosed
  exact ⟨hc, ⟨n, hgroup⟩, hbody, htemplate⟩

end MessageTemplate
