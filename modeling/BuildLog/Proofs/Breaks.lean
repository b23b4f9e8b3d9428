import BuildLog.Text.Line
import Mathlib.Data.List.DropRight

/-!
# Breaks — where the lines of a text begin and end

The lines of a text begin behind its breaks, one after the other, and an offset is on the last line
that begins at it or before it.  So what a line holds, but for its end, is no break.
-/

namespace BuildLog.Text

/-! ## 1. Where lines begin -/

theorem mem_laterLineStarts {pos k : Nat} {t : Text} : k ∈ laterLineStarts pos t ↔
    ∃ i c, k = pos + i + 1 ∧ t[i]? = some c ∧ endsLine c (t.drop (i + 1)) := by
  induction t generalizing pos with
  | nil => simp [laterLineStarts]
  | cons c t ih =>
    have hrest : k ∈ laterLineStarts (pos + 1) t ↔ ∃ i d, k = pos + (i + 1) + 1
        ∧ (c :: t)[i + 1]? = some d ∧ endsLine d ((c :: t).drop (i + 1 + 1)) := by
      rw [ih]
      simp only [List.getElem?_cons_succ, List.drop_succ_cons, Nat.add_assoc, Nat.add_comm 1]
    have hsplit : (∃ i d, k = pos + i + 1 ∧ (c :: t)[i]? = some d
          ∧ endsLine d ((c :: t).drop (i + 1)))
        ↔ (k = pos + 1 ∧ endsLine c t) ∨ k ∈ laterLineStarts (pos + 1) t := by
      rw [hrest]
      constructor
      · rintro ⟨_ | i, d, hk, hd, hends⟩
        · cases hd
          exact .inl ⟨hk, hends⟩
        · exact .inr ⟨i, d, hk, hd, hends⟩
      · rintro (⟨hk, hends⟩ | ⟨i, d, hk, hd, hends⟩)
        · exact ⟨0, c, hk, rfl, hends⟩
        · exact ⟨i + 1, d, hk, hd, hends⟩
    rw [hsplit, laterLineStarts]
    split
    · rename_i hends
      rw [List.mem_cons, and_iff_left hends]
    · rename_i hends
      exact (or_iff_right fun hk => hends hk.2).symm

/-- A line begins at the head of a text and behind every line break. -/
theorem mem_lineStarts {k : Nat} {t : Text} : k ∈ lineStarts t ↔
    k = 0 ∨ ∃ i c, k = i + 1 ∧ t[i]? = some c ∧ endsLine c (t.drop (i + 1)) := by
  rw [lineStarts, List.mem_cons, mem_laterLineStarts]
  simp only [Nat.zero_add]

theorem lineStarts_le {k : Nat} {t : Text} (h : k ∈ lineStarts t) : k ≤ t.length := by
  rcases mem_lineStarts.mp h with rfl | ⟨i, c, rfl, hc, -⟩
  · exact Nat.zero_le _
  · exact (List.getElem?_eq_some_iff.mp hc).1

theorem pairwise_laterLineStarts (pos : Nat) (t : Text) :
    (laterLineStarts pos t).Pairwise (· < ·) := by
  induction t generalizing pos with
  | nil => exact .nil
  | cons c t ih =>
    rw [laterLineStarts]
    split
    · refine List.pairwise_cons.mpr ⟨fun k hk => ?_, ih (pos + 1)⟩
      obtain ⟨i, -, rfl, -⟩ := mem_laterLineStarts.mp hk
      omega
    · exact ih (pos + 1)

theorem pairwise_lineStarts (t : Text) : (lineStarts t).Pairwise (· < ·) := by
  refine List.pairwise_cons.mpr ⟨fun k hk => ?_, pairwise_laterLineStarts 0 t⟩
  obtain ⟨i, -, rfl, -⟩ := mem_laterLineStarts.mp hk
  omega

section

variable {t : Text} {j k n : Nat}

theorem lineStart_eq_getElem (hk : k < t.lineCount) : t.lineStart k = t.lineStarts[k] := by
  show (t.lineStarts[k]?).getD t.length = _
  simp [List.getElem?_eq_getElem hk]

theorem lineStart_mem (hk : k < t.lineCount) : t.lineStart k ∈ t.lineStarts := by
  rw [lineStart_eq_getElem hk]
  exact List.getElem_mem hk

theorem lineStart_of_le (hk : t.lineCount ≤ k) : t.lineStart k = t.length := by
  show (t.lineStarts[k]?).getD t.length = _
  simp [List.getElem?_eq_none hk]

theorem lineStart_le (t : Text) (k : Nat) : t.lineStart k ≤ t.length := by
  by_cases hk : k < t.lineCount
  · rw [lineStart_eq_getElem hk]
    exact lineStarts_le (List.getElem_mem hk)
  · rw [lineStart_of_le (Nat.le_of_not_lt hk)]

theorem lineStart_lt (hjk : j < k) (hk : k < t.lineCount) : t.lineStart j < t.lineStart k := by
  rw [lineStart_eq_getElem hk, lineStart_eq_getElem (Nat.lt_trans hjk hk)]
  exact List.pairwise_iff_getElem.mp (pairwise_lineStarts t) j k (Nat.lt_trans hjk hk) hk hjk

theorem lineStart_mono (hjk : j ≤ k) : t.lineStart j ≤ t.lineStart k := by
  by_cases hk : k < t.lineCount
  · rcases Nat.eq_or_lt_of_le hjk with rfl | hlt
    · exact Nat.le_refl _
    · exact Nat.le_of_lt (lineStart_lt hlt hk)
  · rw [lineStart_of_le (Nat.le_of_not_lt hk)]
    exact t.lineStart_le j

theorem exists_lineStart_eq (h : n ∈ t.lineStarts) : ∃ k < t.lineCount, t.lineStart k = n := by
  obtain ⟨k, hk, rfl⟩ := List.getElem_of_mem h
  exact ⟨k, hk, lineStart_eq_getElem hk⟩

/-! ## 2. The line of an offset -/

/-- As long as the items of an ascending list are at most `n`, they are taken. -/
theorem lt_length_takeWhile_iff {l : List Nat} (h : l.Pairwise (· < ·)) (hk : k < l.length) :
    k < (l.takeWhile (· ≤ n)).length ↔ l[k] ≤ n := by
  induction l generalizing k with
  | nil => exact absurd hk (Nat.not_lt_zero k)
  | cons a l ih =>
    obtain ⟨hfirst, hl⟩ := List.pairwise_cons.mp h
    rw [List.takeWhile_cons]
    by_cases ha : a ≤ n
    · cases k with
      | zero => simp [ha]
      | succ k => simpa [ha] using ih hl (Nat.lt_of_succ_lt_succ hk)
    · -- the first item is the least one, and is above `n`
      have hleast : a ≤ (a :: l)[k] := by
        cases k with
        | zero => exact Nat.le_refl a
        | succ k => exact Nat.le_of_lt (hfirst _ (List.getElem_mem _))
      simp only [ha, decide_false, Bool.false_eq_true, if_false, List.length_nil]
      omega

/-- The lines that begin at or before an offset are those up to the line of the offset. -/
theorem le_lineAt_iff (hk : k < t.lineCount) : k ≤ t.lineAt n ↔ t.lineStart k ≤ n := by
  have hpos : 0 < (t.lineStarts.takeWhile (· ≤ n)).length := by
    simp [lineStarts]
  have hiff := lt_length_takeWhile_iff (n := n) (pairwise_lineStarts t) hk
  rw [lineStart_eq_getElem hk, ← hiff]
  show k ≤ (t.lineStarts.takeWhile (· ≤ n)).length - 1 ↔ _
  omega

theorem lineAt_lt (t : Text) (n : Nat) : t.lineAt n < t.lineCount := by
  have hle : (t.lineStarts.takeWhile (· ≤ n)).length ≤ t.lineCount :=
    (List.takeWhile_prefix _).length_le
  have hpos := length_lineStarts_pos t
  show (t.lineStarts.takeWhile (· ≤ n)).length - 1 < t.lineStarts.length
  change _ ≤ t.lineStarts.length at hle
  omega

theorem lineStart_lineAt_le (t : Text) (n : Nat) : t.lineStart (t.lineAt n) ≤ n :=
  (le_lineAt_iff (t.lineAt_lt n)).mp (Nat.le_refl _)

/-- A line holds the offsets from its start to the start of the next one; the last line holds all that
follow its start. -/
theorem lineAt_eq_iff (hk : k < t.lineCount) : t.lineAt n = k ↔
    t.lineStart k ≤ n ∧ (k + 1 < t.lineCount → n < t.lineStart (k + 1)) := by
  have hlt := t.lineAt_lt n
  constructor
  · intro h
    refine ⟨h ▸ t.lineStart_lineAt_le n, fun hnext => ?_⟩
    have hnot := (le_lineAt_iff (n := n) hnext).not.mp (by omega)
    omega
  · rintro ⟨hstart, hstop⟩
    have hle := (le_lineAt_iff hk).mpr hstart
    by_cases hnext : k + 1 < t.lineCount
    · have hnot := (le_lineAt_iff (n := n) hnext).not.mpr (Nat.not_le.mpr (hstop hnext))
      omega
    · omega

theorem lineStart_lineAt_iff : t.lineStart (t.lineAt n) = n ↔ n ∈ t.lineStarts := by
  constructor
  · intro h
    have hmem := lineStart_mem (t.lineAt_lt n)
    rwa [h] at hmem
  · intro h
    obtain ⟨k, hk, hstart⟩ := exists_lineStart_eq h
    have hmono : t.lineStart k ≤ t.lineStart (t.lineAt n) :=
      lineStart_mono ((le_lineAt_iff hk).mpr (Nat.le_of_eq hstart))
    have hle := t.lineStart_lineAt_le n
    omega

theorem le_lineStart_succ_lineAt (hn : n ≤ t.length) : n ≤ t.lineStart (t.lineAt n + 1) := by
  by_cases hnext : t.lineAt n + 1 < t.lineCount
  · exact Nat.le_of_lt (((lineAt_eq_iff (t.lineAt_lt n)).mp rfl).2 hnext)
  · rw [lineStart_of_le (Nat.le_of_not_lt hnext)]
    exact hn

/-! ## 3. Where lines end -/

variable {i : Nat} {c : Char}

/-- A line begins behind each break. -/
theorem lineStart_lineAt_of_endsLine (hc : t[i]? = some c) (hends : endsLine c (t.drop (i + 1))) :
    t.lineStart (t.lineAt (i + 1)) = i + 1 :=
  lineStart_lineAt_iff.mpr (mem_lineStarts.mpr (.inr ⟨i, c, rfl, hc, hends⟩))

/-- No line begins behind a character that is no break. -/
theorem lineStart_ne (hk : k < t.lineCount) (hc : t[i]? = some c)
    (hnot : ¬ endsLine c (t.drop (i + 1))) : t.lineStart k ≠ i + 1 := by
  intro heq
  rcases mem_lineStarts.mp (heq ▸ lineStart_mem hk) with hzero | ⟨j, d, hj, hd, hends⟩
  · omega
  · obtain rfl : i = j := Nat.succ.inj hj
    rw [hc] at hd
    cases hd
    exact hnot hends

/-- A line goes no further than to the first break that is in it. -/
theorem lineStart_succ_le (hc : t[i]? = some c) (hends : endsLine c (t.drop (i + 1)))
    (hk : t.lineStart k ≤ i) : t.lineStart (k + 1) ≤ i + 1 := by
  obtain ⟨j, hj, hstart⟩ := exists_lineStart_eq (mem_lineStarts.mpr (.inr ⟨i, c, rfl, hc, hends⟩))
  rw [← hstart]
  apply lineStart_mono
  by_contra hlt
  have hmono : t.lineStart j ≤ t.lineStart k := lineStart_mono (by omega)
  omega

theorem length_line (t : Text) (k : Nat) :
    (t.line k).length = t.lineStart (k + 1) - t.lineStart k := by
  rw [line, length_slice, Nat.min_eq_left (t.lineStart_le _)]

theorem getElem?_line (t : Text) (k j : Nat) : (t.line k)[j]?
    = if t.lineStart k + j < t.lineStart (k + 1) then t[t.lineStart k + j]? else none := by
  rw [line, slice, List.getElem?_drop, List.getElem?_take]

theorem lineStart_add_line_le (t : Text) (k : Nat) :
    t.lineStart k + (t.line k).length ≤ t.length := by
  have hstart := t.lineStart_le k
  have hstop := t.lineStart_le (k + 1)
  rw [length_line]
  omega

theorem dropLineEnd_concat (l : Text) (d : Char) :
    (l ++ [d]).dropLineEnd = if d = '\n' ∨ d = '\r' then l.dropLineEnd else l ++ [d] := by
  show List.rdropWhile (fun c => c = '\n' || c = '\r') (l ++ [d]) = _
  rw [List.rdropWhile_concat]
  simp only [Bool.or_eq_true, decide_eq_true_eq]
  rfl

theorem length_dropLineEnd_le (l : Text) : l.dropLineEnd.length ≤ l.length :=
  (List.rdropWhile_prefix _ l).length_le

/-- A character that is no line feed and no carriage return stays, with all before it. -/
theorem lt_length_dropLineEnd {l : Text} (hc : l[i]? = some c) (hne : ¬ (c = '\n' ∨ c = '\r')) :
    i < l.dropLineEnd.length := by
  induction l using List.reverseRecOn with
  | nil => simp at hc
  | append_singleton l d ih =>
    rw [dropLineEnd_concat]
    split
    · -- the character is not the one that goes
      apply ih
      rw [List.getElem?_append] at hc
      split at hc
      · exact hc
      · have hdc := List.mem_singleton.mp (List.mem_of_getElem? hc)
        simp_all
    · exact (List.getElem?_eq_some_iff.mp hc).1

/-- No more stays than what comes before some line feeds and carriage returns at the end. -/
theorem length_dropLineEnd_le_of {l : Text} {n : Nat}
    (h : ∀ i c, l[i]? = some c → n ≤ i → c = '\n' ∨ c = '\r') : l.dropLineEnd.length ≤ n := by
  induction l using List.reverseRecOn with
  | nil => simp [dropLineEnd]
  | append_singleton l d ih =>
    rw [dropLineEnd_concat]
    split
    · apply ih
      intro i c hc
      apply h
      rw [List.getElem?_append_left (List.getElem?_eq_some_iff.mp hc).1, hc]
    · rename_i hd
      by_contra hlt
      simp only [List.length_append, List.length_singleton] at hlt
      exact hd (h l.length d (by simp) (by omega))

end

end BuildLog.Text
