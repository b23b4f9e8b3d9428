import BuildLog.Proofs.Buffers

/-!
# Columns — an offset as a line and a column, and back

An offset is on the last line that begins at it or before it, and a line and a column lead to the
place that far behind the start of the line.  The two agree for every offset but one in the middle of
a break.  A column that is past the end of its line means the end, where only line feeds and carriage
returns count as the end of a line, although lines end at other characters, too.
-/

namespace BuildLog

namespace Text

/-! ## 1. The end of a line -/

/-- Whether an offset is between a carriage return and the line feed right behind it. -/
def splitsBreak (t : Text) (n : Nat) : Bool :=
  n ≠ 0 && t[n - 1]? = some '\r' && t[n]? = some '\n'

variable {t : Text} {n : Nat}

theorem splitsBreak_iff :
    t.splitsBreak n ↔ ∃ i, n = i + 1 ∧ t[i]? = some '\r' ∧ t[i + 1]? = some '\n' := by
  cases n with
  | zero => simp [splitsBreak]
  | succ i => simp [splitsBreak]

theorem endsLine_newline (following : Text) : endsLine '\n' following := rfl

theorem endsLine_return_iff {i : Nat} :
    endsLine '\r' (t.drop (i + 1)) ↔ t[i + 1]? ≠ some '\n' := by
  simp [endsLine, List.head?_drop]

/-- An offset of a line is at most at the end of what the line holds, unless it splits a break. -/
theorem le_end_of_line (hn : n ≤ t.length) (hsplit : ¬ t.splitsBreak n) :
    n ≤ t.lineStart (t.lineAt n) + (t.line (t.lineAt n)).dropLineEnd.length := by
  have hstart := t.lineStart_lineAt_le n
  have hstop := le_lineStart_succ_lineAt hn
  by_cases hfirst : t.lineStart (t.lineAt n) = n
  · omega
  · -- the character before the offset is in its line, so it is no break
    obtain ⟨i, rfl⟩ : ∃ i, n = i + 1 := ⟨n - 1, by omega⟩
    obtain ⟨c, hc⟩ : ∃ c, t[i]? = some c := ⟨t[i], List.getElem?_eq_getElem hn⟩
    have hinside : ¬ endsLine c (t.drop (i + 1)) :=
      fun hends => hfirst (lineStart_lineAt_of_endsLine hc hends)
    have hline : (t.line (t.lineAt (i + 1)))[i - t.lineStart (t.lineAt (i + 1))]? = some c := by
      rw [getElem?_line, if_pos (by omega), ← hc]
      congr 1
      omega
    have hlt := lt_length_dropLineEnd hline (by
      rintro (rfl | rfl)
      · exact hinside (endsLine_newline _)
      · rw [endsLine_return_iff, not_not] at hinside
        exact hsplit (splitsBreak_iff.mpr ⟨i, rfl, hc, hinside⟩))
    omega

/-- An offset that splits a break is right behind what its line holds. -/
theorem end_of_line_of_splitsBreak (hsplit : t.splitsBreak n) :
    t.lineStart (t.lineAt n) + (t.line (t.lineAt n)).dropLineEnd.length = n - 1 := by
  obtain ⟨i, rfl, hreturn, hnewline⟩ := splitsBreak_iff.mp hsplit
  have hlength : i + 1 < t.length := (List.getElem?_eq_some_iff.mp hnewline).1
  have hinside : ¬ endsLine '\r' (t.drop (i + 1)) := by
    rw [endsLine_return_iff, not_not]
    exact hnewline
  -- no line begins between the two characters, and one begins behind them
  have hstart : t.lineStart (t.lineAt (i + 1)) ≤ i := by
    have hle := t.lineStart_lineAt_le (i + 1)
    have hne := lineStart_ne (t.lineAt_lt (i + 1)) hreturn hinside
    omega
  have hstop : t.lineStart (t.lineAt (i + 1) + 1) ≤ i + 1 + 1 :=
    lineStart_succ_le hnewline (endsLine_newline _) (by omega)
  have hbefore : t.lineAt i = t.lineAt (i + 1) := by
    apply (lineAt_eq_iff (t.lineAt_lt (i + 1))).mpr
    refine ⟨hstart, fun hnext => ?_⟩
    have := ((lineAt_eq_iff (t.lineAt_lt (i + 1))).mp rfl).2 hnext
    omega
  have hle : i ≤ t.lineStart (t.lineAt (i + 1)) + (t.line (t.lineAt (i + 1))).dropLineEnd.length := by
    rw [← hbefore]
    apply le_end_of_line (by omega)
    rw [splitsBreak_iff]
    rintro ⟨j, rfl, -, hj⟩
    simp [hreturn] at hj
  have hge : (t.line (t.lineAt (i + 1))).dropLineEnd.length
      ≤ i - t.lineStart (t.lineAt (i + 1)) := by
    apply length_dropLineEnd_le_of
    intro j c hc hj
    rw [getElem?_line] at hc
    split at hc
    · -- only the two characters of the break are left
      rcases (by omega : t.lineStart (t.lineAt (i + 1)) + j = i
        ∨ t.lineStart (t.lineAt (i + 1)) + j = i + 1) with heq | heq
      · rw [heq, hreturn] at hc
        exact .inr (Option.some.inj hc).symm
      · rw [heq, hnewline] at hc
        exact .inl (Option.some.inj hc).symm
    · cases hc
  omega

/-! ## 2. Cells of a line -/

/-- The character of a line at a column, counting from 0; past its end, the end. -/
def offsetOfColumn (tabWidth : Nat) (screen : Bool) (l : Text) (column : Nat) : Nat :=
  if screen then l.offsetOfCell tabWidth column else min column l.length

section

variable (tabWidth : Nat) (screen : Bool) (l : Text) (column : Nat)

end

end Text

namespace Sources

open Text

theorem offsetIn_some (t : Text) (tabWidth line column : Nat) (screen : Bool) :
    offsetIn t tabWidth line (some column) screen
      = t.lineStart (min (line - 1) (t.lineCount - 1))
        + (t.line (min (line - 1) (t.lineCount - 1))).dropLineEnd.offsetOfColumn tabWidth screen
          (column - 1) := by
  unfold offsetIn offsetOfColumn
  dsimp only
  split <;> rfl

/-- The line and column of an offset lead back to it, and the column is the first one just at the
start of the text and behind each break.  Only an offset in the middle of a break is taken for the one
before it. -/
theorem offset_lineColumn {s : Sources} {b : BufferId} {t : Text} (h : s.text? b = some t)
    {n : Nat} (hn : n ≤ t.length) : ∃ l c, s.lineColumn? b n = some (l, c)
      ∧ (c = 1 ↔ n = 0 ∨ ∃ i d, n = i + 1 ∧ t[i]? = some d ∧ endsLine d (t.drop (i + 1)))
      ∧ s.offset? b l (some c) false = some (if t.splitsBreak n then n - 1 else n) := by
  have hline := t.lineAt_lt n
  have hstart := t.lineStart_lineAt_le n
  refine ⟨t.lineAt n + 1, n - t.lineStart (t.lineAt n) + 1, ?_, ?_, ?_⟩
  · simp [lineColumn?, h, Nat.min_eq_left hn]
  · rw [← mem_lineStarts, ← lineStart_lineAt_iff]
    omega
  · have hk : min (t.lineAt n + 1 - 1) (t.lineCount - 1) = t.lineAt n := by omega
    rw [offset?, h, Option.map_some, offsetIn_some, hk, offsetOfColumn, if_neg Bool.false_ne_true]
    congr 1
    split
    · have hend := end_of_line_of_splitsBreak ‹t.splitsBreak n›
      omega
    · have hend := le_end_of_line hn ‹¬ t.splitsBreak n›
      omega

/-- The text has three lines, the second of which ends with a vertical tab.  It begins behind the
break of the first one, and the middle of that break counts as the end of the first line. -/
theorem offset_lineColumn_break :
    let opened := empty.openText ⟨"/virtual/a.c".toList⟩ []
    let s := opened.2.insert opened.1 0 "a\r\nb\x0bc".toList
    s.text? opened.1 = some "a\r\nb\x0bc".toList
      ∧ (∃ l c, s.lineColumn? opened.1 3 = some (l, c)
          ∧ s.offset? opened.1 l (some c) false = some 3)
      ∧ (∃ l c, s.lineColumn? opened.1 2 = some (l, c)
          ∧ s.offset? opened.1 l (some c) false = some 1) := by
  intro opened s
  have htext : s.text? opened.1 = some "a\r\nb\x0bc".toList := by decide
  obtain ⟨l₂, c₂, hsecond, -, hback⟩ := offset_lineColumn htext (n := 2) (by decide)
  obtain ⟨l₃, c₃, hthird, -, hback'⟩ := offset_lineColumn htext (n := 3) (by decide)
  exact ⟨htext, ⟨l₃, c₃, hthird, hback'⟩, l₂, c₂, hsecond, hback⟩

end Sources

end BuildLog
