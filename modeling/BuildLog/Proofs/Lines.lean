import BuildLog.Text.Basic
import Mathlib.Data.List.Basic

/-!
# Lines — where the lines of a growing text begin and end

A text is *terminated* when no line of it is left open: it is empty or ends with a newline.  The
three measures of a log — the length of its complete lines, the end of the line of a match, and
the start of its last lines — are stated here for a text in two pieces, of which the first is
terminated.
-/

namespace BuildLog.Text

/-! ## 1. Terminated texts -/

/-- No line of the text is left open. -/
def Terminated (t : Text) : Prop := t.terminatedLength = t.length

instance (t : Text) : Decidable t.Terminated := inferInstanceAs (Decidable (_ = _))

theorem terminatedLength_cons_of_pos (c : Char) {t : Text} (h : 0 < t.terminatedLength) :
    terminatedLength (c :: t) = t.terminatedLength + 1 := by
  rw [terminatedLength]
  split
  · omega
  · omega

theorem terminatedLength_append_of_pos (a : Text) {b : Text} (h : 0 < b.terminatedLength) :
    terminatedLength (a ++ b) = a.length + b.terminatedLength := by
  -- by the text in front: what is behind it holds a newline already, so each character counts
  induction a with
  | nil => simp
  | cons c a ih =>
    rw [List.cons_append, terminatedLength_cons_of_pos c (by omega), ih, List.length_cons]
    omega

theorem terminatedLength_append_of_zero (a : Text) {b : Text} (h : b.terminatedLength = 0) :
    terminatedLength (a ++ b) = a.terminatedLength := by
  induction a with
  | nil => exact h
  | cons c a ih => rw [List.cons_append, terminatedLength, terminatedLength, ih]

theorem terminated_nil : Terminated [] := rfl

theorem terminatedLength_append {a : Text} (ha : Terminated a) (b : Text) :
    terminatedLength (a ++ b) = a.length + b.terminatedLength := by
  by_cases h : b.terminatedLength = 0
  · rw [terminatedLength_append_of_zero a h, ha, h, Nat.add_zero]
  · exact terminatedLength_append_of_pos a (by omega)

theorem terminatedLength_le_append (a b : Text) :
    a.terminatedLength ≤ (a ++ b).terminatedLength := by
  by_cases h : b.terminatedLength = 0
  · exact Nat.le_of_eq (terminatedLength_append_of_zero a h).symm
  · rw [terminatedLength_append_of_pos a (by omega)]
    have := terminatedLength_le a
    omega

theorem Terminated.append {a b : Text} (ha : Terminated a) (hb : Terminated b) :
    Terminated (a ++ b) := by
  rw [Terminated, terminatedLength_append ha, hb, List.length_append]

theorem Terminated.of_append {a b : Text} (ha : Terminated a) (hab : Terminated (a ++ b)) :
    Terminated b := by
  rw [Terminated, terminatedLength_append ha, List.length_append] at hab
  exact Nat.add_left_cancel hab

theorem terminated_singleton_newline : Terminated ['\n'] := rfl

theorem terminated_append_newline (t : Text) : Terminated (t ++ ['\n']) := by
  rw [Terminated, terminatedLength_append_of_pos t (by decide), List.length_append]
  rfl

theorem not_terminated_append {c : Char} (h : c ≠ '\n') (t : Text) : ¬ Terminated (t ++ [c]) := by
  have hc : terminatedLength [c] = 0 := by simp [terminatedLength, h]
  rw [Terminated, terminatedLength_append_of_zero t hc, List.length_append]
  have := terminatedLength_le t
  simp only [List.length_singleton]
  omega

theorem terminated_iff {t : Text} : Terminated t ↔ t = [] ∨ t.getLast? = some '\n' := by
  -- whether a text is terminated is seen from its last character
  rcases List.eq_nil_or_concat t with rfl | ⟨u, c, rfl⟩
  · simp [terminated_nil]
  · simp only [List.concat_eq_append, List.append_eq_nil_iff, List.cons_ne_nil, and_false,
      List.getLast?_concat, Option.some.injEq, false_or]
    by_cases h : c = '\n'
    · subst h
      simp [terminated_append_newline]
    · simp [h, not_terminated_append h]

theorem terminated_take_terminatedLength (t : Text) : Terminated (t.take t.terminatedLength) := by
  induction t with
  | nil => rfl
  | cons c t ih =>
    rw [terminatedLength]
    split
    · split
      · rename_i hc
        subst hc
        rfl
      · rfl
    · -- the rest of the text holds a newline, so its complete lines are one character longer now
      rename_i n hn
      rw [hn] at ih
      rw [List.take_succ_cons]
      have hpos : 0 < terminatedLength (t.take (n + 1)) := by
        rw [ih, List.length_take]
        have := terminatedLength_le t
        omega
      rw [Terminated, terminatedLength_cons_of_pos c hpos, ih, List.length_cons]

theorem terminatedLength_eq_zero_iff {t : Text} : t.terminatedLength = 0 ↔ '\n' ∉ t := by
  induction t with
  | nil => exact iff_of_true rfl List.not_mem_nil
  | cons c t ih =>
    rw [List.mem_cons, not_or, ← ih]
    by_cases h : terminatedLength t = 0
    · have hc : terminatedLength (c :: t) = if c = '\n' then 1 else 0 := by rw [terminatedLength, h]
      rw [hc, and_iff_left h, eq_comm (a := '\n')]
      split
      · exact iff_of_false Nat.one_ne_zero (not_not_intro ‹_›)
      · exact iff_of_true rfl ‹_›
    · rw [terminatedLength_cons_of_pos c (Nat.pos_of_ne_zero h)]
      exact iff_of_false (Nat.succ_ne_zero _) fun hboth => h hboth.2

/-- Behind the complete lines there is no newline. -/
theorem newline_not_mem_drop_terminatedLength (t : Text) :
    '\n' ∉ t.drop t.terminatedLength := by
  have h := terminatedLength_append (terminated_take_terminatedLength t) (t.drop t.terminatedLength)
  rw [List.take_append_drop, List.length_take, Nat.min_eq_left (terminatedLength_le t)] at h
  exact terminatedLength_eq_zero_iff.mp (by omega)

/-- The start of the last line: every line start up to `stop` is a line start up to there. -/
theorem le_terminatedLength_take {t : Text} {k stop : Nat} (hk : Terminated (t.take k))
    (hks : k ≤ stop) (hs : stop ≤ t.length) : k ≤ terminatedLength (t.take stop) := by
  -- up to `k` the text is terminated, so the complete lines up to `stop` go as far at least
  have h : t.take stop = t.take k ++ (t.drop k).take (stop - k) := by
    rw [← List.take_add]
    congr 1
    omega
  rw [h, terminatedLength_append hk, List.length_take]
  omega

theorem terminatedLength_take_le (t : Text) (stop : Nat) :
    terminatedLength (t.take stop) ≤ stop :=
  Nat.le_trans (terminatedLength_le _) (List.length_take_le _ _)

/-- The text up to the start of the line that `stop` is in is terminated. -/
theorem terminated_take_terminatedLength_take (t : Text) (stop : Nat) :
    Terminated (t.take (terminatedLength (t.take stop))) := by
  have h := terminated_take_terminatedLength (t.take stop)
  rwa [List.take_take, Nat.min_eq_left (terminatedLength_take_le t stop)] at h

/-- The text up to `k` is terminated if and only if a line starts at `k`. -/
theorem terminated_take_iff {t : Text} {k : Nat} (hk : k ≤ t.length) :
    Terminated (t.take k) ↔ k = 0 ∨ t[k - 1]? = some '\n' := by
  rw [terminated_iff, List.take_eq_nil_iff, List.getLast?_take]
  rcases Nat.eq_zero_or_pos k with rfl | hpos
  · simp
  · have hget : t[k - 1]? = some t[k - 1] := List.getElem?_eq_getElem (by omega)
    have hne : t ≠ [] := by
      rintro rfl
      simp at hk
      omega
    rw [if_neg (by omega), hget]
    simp [hne]

theorem take_append_drop_append (n : Nat) (a b : Text) : a.take n ++ (a.drop n ++ b) = a ++ b := by
  rw [← List.append_assoc, List.take_append_drop]

/-! ## 2. The end of a line -/

theorem firstLineLength_pos {t : Text} (h : t ≠ []) : 0 < firstLineLength t := by
  cases t with
  | nil => exact absurd rfl h
  | cons c t =>
    rw [firstLineLength]
    split <;> omega

theorem firstLineLength_append {a : Text} (h : '\n' ∈ a) (b : Text) :
    firstLineLength (a ++ b) = firstLineLength a := by
  induction a with
  | nil => simp at h
  | cons c a ih =>
    rw [List.cons_append, firstLineLength, firstLineLength]
    by_cases hc : c = '\n'
    · rw [if_pos hc, if_pos hc]
    · rw [if_neg hc, if_neg hc, ih ((List.mem_cons.mp h).resolve_left (Ne.symm hc))]

theorem terminated_take_firstLineLength {t : Text} (h : '\n' ∈ t) :
    Terminated (t.take (firstLineLength t)) := by
  induction t with
  | nil => simp at h
  | cons c t ih =>
    rw [firstLineLength]
    by_cases hc : c = '\n'
    · subst hc
      rw [if_pos rfl]
      rfl
    · rw [if_neg hc, List.take_succ_cons]
      have ht : '\n' ∈ t := (List.mem_cons.mp h).resolve_left (Ne.symm hc)
      have hpos : 0 < firstLineLength t := firstLineLength_pos (List.ne_nil_of_mem ht)
      have hle := firstLineLength_le t
      have h := ih ht
      rw [Terminated, terminatedLength_cons_of_pos c (by rw [h, List.length_take]; omega), h,
        List.length_cons]

theorem Terminated.drop {t : Text} (h : Terminated t) (k : Nat) : Terminated (t.drop k) := by
  rw [terminated_iff, List.getLast?_drop]
  rcases terminated_iff.mp h with rfl | hlast
  · simp
  · by_cases hk : t.length ≤ k
    · exact .inl (List.drop_eq_nil_of_le hk)
    · rw [if_neg hk]
      exact .inr hlast

theorem mem_newline_of_drop {t : Text} (h : Terminated t) {k : Nat} (hne : t.drop k ≠ []) :
    '\n' ∈ t.drop k := by
  rcases terminated_iff.mp h with rfl | h
  · simp at hne
  · have hlt : k < t.length := by
      by_contra hge
      exact hne (List.drop_eq_nil_of_le (by omega))
    apply List.mem_of_getLast?
    rw [List.getLast?_drop, if_neg (by omega), h]

/-- Inside a line, a terminated text goes on. -/
theorem drop_ne_nil_of_not_terminated {t : Text} (ht : Terminated t) {stop : Nat}
    (h : ¬ Terminated (t.take stop)) : t.drop stop ≠ [] := by
  intro hnil
  have hsplit : t.take stop ++ t.drop stop = t := List.take_append_drop stop t
  rw [hnil, List.append_nil] at hsplit
  exact h (hsplit.symm ▸ ht)

theorem le_lineEndAfter (t : Text) (stop : Nat) : stop ≤ t.lineEndAfter stop := by
  rw [lineEndAfter]
  split <;> omega

theorem lineEndAfter_le {t : Text} {stop : Nat} (h : stop ≤ t.length) :
    t.lineEndAfter stop ≤ t.length := by
  rw [lineEndAfter]
  split
  · exact h
  · have := firstLineLength_le (t.drop stop)
    rw [List.length_drop] at this
    omega

theorem lineEndAfter_of_terminated {t : Text} {stop : Nat} (h : Terminated (t.take stop)) :
    t.lineEndAfter stop = stop := by
  rw [lineEndAfter]
  rcases terminated_iff.mp h with h | h
  · rcases List.take_eq_nil_iff.mp h with h | h
    · simp [h]
    · simp [h, firstLineLength]
  · simp [h]

theorem lineEndAfter_of_not_terminated {t : Text} {stop : Nat} (h : ¬ Terminated (t.take stop)) :
    t.lineEndAfter stop = stop + firstLineLength (t.drop stop) := by
  rw [terminated_iff, not_or, List.take_eq_nil_iff, not_or] at h
  rw [lineEndAfter, if_neg (by simp [h])]

/-- Behind a terminated text, the end of a line is found in what follows. -/
theorem lineEndAfter_append_left {a : Text} (ha : Terminated a) (b : Text) (stop : Nat) :
    lineEndAfter (a ++ b) (a.length + stop) = a.length + lineEndAfter b stop := by
  have htake : (a ++ b).take (a.length + stop) = a ++ b.take stop := List.take_length_add_append stop
  by_cases h : Terminated (b.take stop)
  · rw [lineEndAfter_of_terminated h, lineEndAfter_of_terminated]
    rw [htake]
    exact ha.append h
  · rw [lineEndAfter_of_not_terminated h, lineEndAfter_of_not_terminated, List.drop_length_add_append,
      Nat.add_assoc]
    rw [htake]
    exact fun h' => h (ha.of_append h')

/-- In a terminated text, the end of a line does not depend on what follows the text. -/
theorem lineEndAfter_append_right {t : Text} (ht : Terminated t) (x : Text) {stop : Nat}
    (hs : stop ≤ t.length) : lineEndAfter (t ++ x) stop = t.lineEndAfter stop := by
  have htake : (t ++ x).take stop = t.take stop := List.take_append_of_le_length hs
  by_cases h : Terminated (t.take stop)
  · rw [lineEndAfter_of_terminated h, lineEndAfter_of_terminated (by rw [htake]; exact h)]
  · rw [lineEndAfter_of_not_terminated h, lineEndAfter_of_not_terminated (by rw [htake]; exact h),
      List.drop_append_of_le_length hs, firstLineLength_append]
    -- the line that `stop` is in ends with a newline before the end of `t`
    exact mem_newline_of_drop ht (drop_ne_nil_of_not_terminated ht h)

theorem terminated_take_lineEndAfter {t : Text} (ht : Terminated t) (stop : Nat) :
    Terminated (t.take (t.lineEndAfter stop)) := by
  by_cases h : Terminated (t.take stop)
  · rw [lineEndAfter_of_terminated h]
    exact h
  · -- inside a line, the text is not at its end, and the line ends with a newline
    have hne := drop_ne_nil_of_not_terminated ht h
    have hmem := mem_newline_of_drop ht hne
    rw [lineEndAfter_of_not_terminated h, List.take_add, terminated_iff]
    right
    rcases terminated_iff.mp (terminated_take_firstLineLength hmem) with h | h
    · have hpos := firstLineLength_pos hne
      rcases List.take_eq_nil_iff.mp h with h | h
      · omega
      · exact absurd h hne
    · rw [List.getLast?_append, h]
      rfl

/-! ## 3. The last lines -/

theorem tailStart_zero (t : Text) : t.tailStart 0 = t.length := by
  rw [tailStart, dropLastLines, List.length_reverse]

theorem dropLastLines_suffix (n : Nat) (rev : Text) : dropLastLines n rev <:+ rev := by
  induction n generalizing rev with
  | zero => exact List.suffix_rfl
  | succ n ih =>
    cases rev with
    | nil => exact List.suffix_rfl
    | cons c rev =>
      exact (ih _).trans ((List.dropWhile_suffix _).trans (List.suffix_cons c rev))

/-- What is left of a text when its last lines are taken away begins the text. -/
theorem take_tailStart (t : Text) (n : Nat) :
    t.take (t.tailStart n) = (dropLastLines n t.reverse).reverse := by
  -- the lines are taken away from the reversed text, so what is left is a suffix of that
  obtain ⟨u, hu⟩ := dropLastLines_suffix n t.reverse
  have hp : (dropLastLines n t.reverse).reverse <+: t :=
    ⟨u.reverse, by rw [← List.reverse_append, hu, List.reverse_reverse]⟩
  have h := List.prefix_iff_eq_take.mp hp
  rw [List.length_reverse] at h
  exact h.symm

theorem tailStart_le (t : Text) (n : Nat) : t.tailStart n ≤ t.length := by
  have h := (dropLastLines_suffix n t.reverse).length_le
  rwa [List.length_reverse] at h

theorem dropLastLines_succ_length_le (n : Nat) (rev : Text) :
    (dropLastLines (n + 1) rev).length ≤ (dropLastLines n rev).length := by
  induction n generalizing rev with
  | zero => exact (dropLastLines_suffix 1 rev).length_le
  | succ n ih =>
    cases rev with
    | nil => exact Nat.le_refl _
    | cons c rev => exact ih _

theorem tailStart_antitone (t : Text) {m n : Nat} (h : m ≤ n) : t.tailStart n ≤ t.tailStart m := by
  induction h with
  | refl => exact Nat.le_refl _
  | step _ ih => exact Nat.le_trans (dropLastLines_succ_length_le _ t.reverse) ih

/-- A list that is empty or begins with a newline: a terminated text, written backwards. -/
theorem dropLastLines_head {n : Nat} {rev : Text} (h : rev = [] ∨ rev.head? = some '\n') :
    dropLastLines n rev = [] ∨ (dropLastLines n rev).head? = some '\n' := by
  induction n generalizing rev with
  | zero => exact h
  | succ n ih =>
    cases rev with
    | nil => exact .inl rfl
    | cons c rev =>
      apply ih
      -- taking a line away stops before the next newline, which then is the head
      cases hd : rev.dropWhile (· ≠ '\n') with
      | nil => exact .inl rfl
      | cons d ds =>
        right
        have hnot := List.head?_dropWhile_not (· ≠ '\n') rev
        rw [hd] at hnot
        simpa using hnot

theorem reverse_of_terminated {t : Text} (h : Terminated t) :
    t.reverse = [] ∨ t.reverse.head? = some '\n' := by
  rcases terminated_iff.mp h with h | h
  · exact .inl (by rw [h]; rfl)
  · exact .inr (by rw [List.head?_reverse, h])

theorem terminated_take_tailStart {t : Text} (ht : Terminated t) (n : Nat) :
    Terminated (t.take (t.tailStart n)) := by
  rw [take_tailStart, terminated_iff]
  rcases dropLastLines_head (n := n) (reverse_of_terminated ht) with h | h
  · exact .inl (by rw [h]; rfl)
  · exact .inr (by rw [List.getLast?_reverse, h])

/-- Dropping the break that ends a line stops at the next one, or at the break before `rx`. -/
theorem dropWhile_append_terminated {rx : Text} (h : rx = [] ∨ rx.head? = some '\n') (ry : Text) :
    (ry ++ rx).dropWhile (· ≠ '\n') = ry.dropWhile (· ≠ '\n') ++ rx := by
  induction ry with
  | nil =>
    rcases h with rfl | h
    · rfl
    · cases rx with
      | nil => rfl
      | cons c rx =>
        have hc : c = '\n' := Option.some.inj h
        rw [List.nil_append, List.dropWhile_cons_of_neg (by simp [hc])]
        rfl
  | cons c ry ih =>
    by_cases hc : c = '\n'
    · rw [List.cons_append, List.dropWhile_cons_of_neg (by simp [hc]),
        List.dropWhile_cons_of_neg (by simp [hc])]
      rfl
    · rw [List.cons_append, List.dropWhile_cons_of_pos (by simp [hc]),
        List.dropWhile_cons_of_pos (by simp [hc]), ih]

/-- The last lines are those of the text that follows, as far as it has so many. -/
theorem dropLastLines_append {rx : Text} (h : rx = [] ∨ rx.head? = some '\n') (n : Nat) (ry : Text) :
    dropLastLines n (ry ++ rx) = dropLastLines n ry ++ rx
      ∨ (dropLastLines n ry = [] ∧ (dropLastLines n (ry ++ rx)).length ≤ rx.length) := by
  induction n generalizing ry with
  | zero => exact .inl rfl
  | succ n ih =>
    -- if the text behind has no line left to take away, the others are taken from that before it
    cases ry with
    | nil => exact .inr ⟨rfl, (dropLastLines_suffix (n + 1) rx).length_le⟩
    | cons c ry =>
      rw [List.cons_append, dropLastLines, dropLastLines, dropWhile_append_terminated h]
      exact ih _

/-- Behind a terminated text, the last lines begin in what follows, as far as it has so many. -/
theorem tailStart_append {a : Text} (ha : Terminated a) (b : Text) (n : Nat) :
    tailStart (a ++ b) n = a.length + tailStart b n
      ∨ (tailStart b n = 0 ∧ tailStart (a ++ b) n ≤ a.length) := by
  unfold tailStart
  rw [List.reverse_append]
  rcases dropLastLines_append (reverse_of_terminated ha) n b.reverse with h | ⟨hnil, hle⟩
  · left
    rw [h, List.length_append, List.length_reverse, Nat.add_comm]
  · right
    rw [List.length_reverse] at hle
    exact ⟨by rw [hnil]; rfl, hle⟩

theorem length_dropLastLines_le {rx : Text} (h : rx = [] ∨ rx.head? = some '\n') (n : Nat)
    (ry : Text) : (dropLastLines n rx).length ≤ (dropLastLines n (ry ++ rx)).length := by
  induction n generalizing ry with
  | zero =>
    rw [dropLastLines, dropLastLines, List.length_append]
    omega
  | succ n ih =>
    -- each line taken from the longer text may be one that the shorter one does not have
    cases ry with
    | nil => exact Nat.le_refl _
    | cons c ry =>
      rw [List.cons_append, dropLastLines, dropWhile_append_terminated h]
      exact Nat.le_trans (dropLastLines_succ_length_le n rx) (ih _)

theorem tailStart_le_append {a : Text} (ha : Terminated a) (b : Text) (n : Nat) :
    tailStart a n ≤ tailStart (a ++ b) n := by
  unfold tailStart
  rw [List.reverse_append]
  exact length_dropLastLines_le (reverse_of_terminated ha) n b.reverse

end BuildLog.Text
