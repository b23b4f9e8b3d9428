import BuildLog.Proofs.Measures

/-!
# Extents — how many lines a match can touch

A bound on the lines that the matches of an expression touch is computed from the expression.  It
holds for every search: the lines that a match can still touch are a measure of the instructions of
its program, and no thread exceeds it.
-/

namespace BuildLog

/-! ## 1. The lines of a text -/

/-- How many lines a character touches together with what follows it, if that touches `n` lines: a
newline ends its line, and any other character is in the first line of what follows. -/
def linesFrom (newline : Bool) (n : Nat) : Nat := if newline then n + 1 else max 1 n

theorem linesFrom_mono {b c : Bool} {m n : Nat} (hb : b → c) (h : m ≤ n) :
    linesFrom b m ≤ linesFrom c n := by
  cases b with
  | true =>
    rw [hb rfl]
    exact Nat.succ_le_succ h
  | false =>
    show max 1 m ≤ _
    cases c with
    | true => exact Nat.max_le.mpr ⟨Nat.succ_pos n, Nat.le_succ_of_le h⟩
    | false => exact Nat.max_le.mpr ⟨Nat.le_max_left _ _, Nat.le_trans h (Nat.le_max_right _ _)⟩

/-- How many lines a text touches together with what follows it, if that touches `n` lines. -/
def Text.linesBefore (n : Nat) (t : Text) : Nat := t.foldr (fun c => linesFrom (c = '\n')) n

namespace Text

theorem linesBefore_mono {m n : Nat} (h : m ≤ n) (t : Text) : t.linesBefore m ≤ t.linesBefore n := by
  induction t with
  | nil => exact h
  | cons c t ih => exact linesFrom_mono id ih

theorem linesBefore_concat (n : Nat) (t : Text) (c : Char) :
    linesBefore n (t ++ [c]) = t.linesBefore (linesFrom (c = '\n') n) :=
  List.foldr_append

/-- A text touches one line more than it has newlines, apart from one at its end. -/
theorem linesBefore_zero {t : Text} (h : t ≠ []) :
    t.linesBefore 0 = t.dropLast.count '\n' + 1 := by
  induction t with
  | nil => exact absurd rfl h
  | cons c t ih =>
    show linesFrom (c = '\n') (linesBefore 0 t) = _
    cases t with
    | nil => cases hc : decide (c = '\n') <;> rfl
    | cons d t =>
      rw [ih (List.cons_ne_nil d t), List.dropLast_cons_cons, List.count_cons]
      by_cases hc : c = '\n'
      · simp [linesFrom, hc]
      · simp [linesFrom, hc]

theorem count_dropLast_lt {t : Text} {n : Nat} (h : t.linesBefore 0 ≤ n) (hn : 0 < n) :
    t.dropLast.count '\n' < n := by
  by_cases ht : t = []
  · rw [ht]
    exact hn
  · rw [linesBefore_zero ht] at h
    exact h

end Text

namespace Pattern

/-! ## 2. The lines of an expression -/

/-- A bound on the lines that a match touches together with what follows it, if that touches `n`
lines at most.  There is none if a repetition without a bound can match newlines. -/
def Expr.linesBefore : Expr → (n : Nat) → Option Nat
  | .empty, n | .look _, n => some n
  | .one set, n => some (linesFrom (set.contains '\n') n)
  | .group _ _ e, n => e.linesBefore n
  | .cat a b, n => (b.linesBefore n).bind a.linesBefore
  | .alt a b, n => (a.linesBefore n).bind fun i => (b.linesBefore n).map (max i)
  | .times e low (some high) _, n =>
    (optionalBound e.linesBefore n (high - low) n).bind (copiesBound e.linesBefore low)
  | .times e low none _, n =>
    (loopBound e.linesBefore n).bind (copiesBound e.linesBefore (low - 1))

/-- The lines that a match can still touch: a character that may be a newline adds to them, and a
mark does not. -/
def Measure.lines : Measure where
  final := 0
  take set n := some (linesFrom (set.contains '\n') n)
  mark _ n := some n
  take_mono := by
    intro set m n k h hk
    cases hk
    exact ⟨_, linesFrom_mono id h, rfl⟩
  mark_mono := by
    intro slot m n k h hk
    cases hk
    exact ⟨m, h, rfl⟩

theorem Expr.bound_lines (e : Expr) : e.bound .lines = e.linesBefore := by
  induction e with
  | empty | one | look => rfl
  | group i name e ih =>
    funext n
    show ((some n).bind (e.bound .lines)).bind some = e.linesBefore n
    rw [ih, Option.bind_some, Option.bind_fun_some]
  | cat a b iha ihb =>
    funext n
    rw [bound, linesBefore, iha, ihb]
  | alt a b iha ihb =>
    funext n
    rw [bound, linesBefore, iha, ihb]
  | times e low high greedy ih =>
    funext n
    cases high with
    | some high => rw [bound, linesBefore, ih]
    | none => rw [bound, linesBefore, ih]

/-! ## 3. Searches -/

section

variable {text : Array Char}

theorem extract_succ {start pos : Nat} {c : Char} (hle : start ≤ pos) (hc : text[pos]? = some c) :
    (text.extract start (pos + 1)).toList = (text.extract start pos).toList ++ [c] := by
  rw [Array.toList_extract, Array.toList_extract, List.extract_eq_take_drop,
    List.extract_eq_take_drop, Nat.succ_sub hle, List.take_add_one, List.getElem?_drop,
    Nat.add_sub_cancel' hle, Array.getElem?_toList, hc]
  rfl

/-- What a thread has read and can read still touches `n` lines at most. -/
structure Thread.Touches (v : Nat → Nat) (text : Array Char) (start n : Nat) (t : Thread) :
    Prop where
  start_le : start ≤ t.pos
  lines : Text.linesBefore (v t.pc) (text.extract start t.pos).toList ≤ n

theorem Thread.Touches.becomes {v : Nat → Nat} {start n : Nat} {t u : Thread}
    (h : t.Touches v text start n) (hu : t.Becomes .lines v text u) : u.Touches v text start n := by
  cases hu with
  | @take set c next _ hc hset htake hk =>
    cases htake
    refine ⟨Nat.le_succ_of_le h.start_le, ?_⟩
    show Text.linesBefore (v next) (text.extract start (t.pos + 1)).toList ≤ n
    rw [extract_succ h.start_le hc, Text.linesBefore_concat]
    refine Nat.le_trans (Text.linesBefore_mono (Nat.le_trans ?_ hk) _) h.lines
    refine linesFrom_mono (fun hnewline => ?_) (Nat.le_refl _)
    rw [decide_eq_true_iff] at hnewline
    exact hnewline ▸ hset
  -- to go on where fewer lines can be touched is to touch no more
  | mark hmark hk =>
    cases hmark
    exact ⟨h.start_le, Nat.le_trans (Text.linesBefore_mono hk _) h.lines⟩
  | stay hk => exact ⟨h.start_le, Nat.le_trans (Text.linesBefore_mono hk _) h.lines⟩

end

/-- A match of an expression touches no more lines than its bound says, whatever the text and
wherever the search begins. -/
theorem Expr.linesBefore_of_find? {e : Expr} {n : Nat} (h : e.linesBefore 0 = some n)
    {text : Array Char} {start : Nat} {m : Match} (hm : e.program.find? text start = some m) :
    Text.linesBefore 0 (text.extract m.span.start m.span.stop).toList ≤ n := by
  rw [← e.bound_lines] at h
  have hstart : ∀ v : Nat → Nat, v e.program.entry ≤ n →
      Thread.Touches v text m.span.start n ⟨e.program.entry, m.span.start, []⟩ := by
    intro v hentry
    refine ⟨Nat.le_refl _, ?_⟩
    show Text.linesBefore _ (text.extract m.span.start m.span.start).toList ≤ n
    rw [Array.toList_extract, List.extract_eq_take_drop, Nat.sub_self, List.take_zero]
    exact hentry
  obtain ⟨v, t, ht, -, hstop, -⟩ :=
    exists_thread_of_find? h hm hstart fun _ _ _ ht hu => ht.becomes hu
  rw [hstop]
  exact Nat.le_trans (Text.linesBefore_mono (Nat.zero_le _) _) ht.lines

end Pattern

end BuildLog
