import BuildLog.Proofs.View
import BuildLog.Proofs.Hits

/-!
# Labels — the labels of a log that is edited

Labels stay in order of their starts and within the text.  An edit that comes after the labels of
a beginning of the log leaves these as they are.
-/

namespace BuildLog

open LabelIndex

theorem Span.not_meets_iff {s : Span} {start stop : Nat} :
    (!s.meets start stop) = true ↔ s.stop ≤ start ∨ stop ≤ s.start := by
  unfold meets
  simp only [Bool.not_eq_true', Bool.and_eq_false_iff, decide_eq_false_iff_not, Nat.not_lt]
  exact Or.comm

/-! ## 1. Labels in order -/

/-- Labels in order of their starts. -/
def LabelsInOrder (ls : List LabelledSpan) : Prop :=
  ls.Pairwise fun l m => l.span.start ≤ m.span.start

theorem mem_insertSorted {s x : LabelledSpan} {ls : List LabelledSpan} :
    x ∈ insertSorted s ls ↔ x = s ∨ x ∈ ls := by
  induction ls with
  | nil => simp [insertSorted]
  | cons t ts ih =>
    rw [insertSorted]
    split
    · rw [List.mem_cons, ih, List.mem_cons]
      exact ⟨fun h => by rcases h with h | h | h <;> simp [h],
        fun h => by rcases h with h | h | h <;> simp [h]⟩
    · exact List.mem_cons

theorem inOrder_insertSorted (s : LabelledSpan) {ls : List LabelledSpan} (h : LabelsInOrder ls) :
    LabelsInOrder (insertSorted s ls) := by
  induction ls with
  | nil => exact List.pairwise_singleton _ _
  | cons t ts ih =>
    obtain ⟨hle, hts⟩ := List.pairwise_cons.mp h
    rw [insertSorted]
    split
    · rename_i hst
      refine List.pairwise_cons.mpr ⟨fun x hx => ?_, ih hts⟩
      rcases mem_insertSorted.mp hx with rfl | hx
      · exact hst
      · exact hle x hx
    · refine List.pairwise_cons.mpr ⟨fun x hx => ?_, h⟩
      rcases List.mem_cons.mp hx with rfl | hx
      · omega
      · have := hle x hx
        omega

theorem insertSorted_of_last {s : LabelledSpan} {ls : List LabelledSpan}
    (h : ∀ l ∈ ls, l.span.start ≤ s.span.start) : insertSorted s ls = ls ++ [s] := by
  induction ls with
  | nil => rfl
  | cons t ts ih =>
    rw [insertSorted, if_pos (h t List.mem_cons_self), List.cons_append,
      ih fun l hl => h l (List.mem_cons_of_mem t hl)]

/-- A label is put among those that start in some part of the text just as it is put among all. -/
theorem filter_insertSorted (p : Nat → Bool) (s : LabelledSpan) {ls : List LabelledSpan}
    (h : LabelsInOrder ls) :
    (insertSorted s ls).filter (p ·.span.start)
      = if p s.span.start then insertSorted s (ls.filter (p ·.span.start))
        else ls.filter (p ·.span.start) := by
  induction ls with
  | nil =>
    rw [insertSorted, List.filter_cons]
    rfl
  | cons t ts ih =>
    obtain ⟨hle, hts⟩ := List.pairwise_cons.mp h
    rw [insertSorted]
    by_cases hst : t.span.start ≤ s.span.start
    · rw [if_pos hst, List.filter_cons, List.filter_cons, ih hts]
      by_cases ht : p t.span.start
      · rw [if_pos ht, if_pos ht]
        by_cases hs : p s.span.start
        · rw [if_pos hs, if_pos hs, insertSorted, if_pos hst]
        · rw [if_neg hs, if_neg hs]
      · rw [if_neg ht, if_neg ht]
    · rw [if_neg hst, List.filter_cons]
      by_cases hs : p s.span.start
      · rw [if_pos hs, if_pos hs]
        -- every label that stays starts after `s`, so `s` comes first
        have hafter : ∀ x ∈ (t :: ts).filter (p ·.span.start), ¬ x.span.start ≤ s.span.start := by
          intro x hx
          rcases List.mem_cons.mp (List.mem_filter.mp hx).1 with rfl | hx
          · exact hst
          · have := hle x hx
            omega
        cases hf : (t :: ts).filter (p ·.span.start) with
        | nil => rfl
        | cons x xs =>
          rw [insertSorted, if_neg (hafter x (by rw [hf]; exact List.mem_cons_self))]
      · rw [if_neg hs, if_neg hs]

section Fold

variable {ls acc : List LabelledSpan}

theorem inOrder_foldInsert (hacc : LabelsInOrder acc) :
    LabelsInOrder (ls.foldl (fun acc s => insertSorted s acc) acc) := by
  induction ls generalizing acc with
  | nil => exact hacc
  | cons s ss ih => exact ih (inOrder_insertSorted s hacc)

theorem mem_foldInsert {x : LabelledSpan} :
    x ∈ ls.foldl (fun acc s => insertSorted s acc) acc ↔ x ∈ acc ∨ x ∈ ls := by
  induction ls generalizing acc with
  | nil => simp
  | cons s ss ih =>
    rw [List.foldl_cons, ih, mem_insertSorted, List.mem_cons]
    exact ⟨fun h => by rcases h with (h | h) | h <;> simp [h],
      fun h => by rcases h with h | h | h <;> simp [h]⟩

/-- Labels that come in order after all others are put at the end. -/
theorem foldInsert_of_inOrder (h : LabelsInOrder (acc ++ ls)) :
    ls.foldl (fun acc s => insertSorted s acc) acc = acc ++ ls := by
  induction ls generalizing acc with
  | nil => exact (List.append_nil acc).symm
  | cons s ss ih =>
    have hlast : ∀ l ∈ acc, l.span.start ≤ s.span.start := fun l hl =>
      (List.pairwise_append.mp h).2.2 l hl s List.mem_cons_self
    rw [List.foldl_cons, insertSorted_of_last hlast, ih, List.append_assoc, List.singleton_append]
    rwa [List.append_assoc, List.singleton_append]

theorem filter_foldInsert (p : Nat → Bool) (hacc : LabelsInOrder acc) :
    (ls.foldl (fun acc s => insertSorted s acc) acc).filter (p ·.span.start)
      = (ls.filter (p ·.span.start)).foldl (fun acc s => insertSorted s acc)
          (acc.filter (p ·.span.start)) := by
  induction ls generalizing acc with
  | nil => rfl
  | cons s ss ih =>
    rw [List.foldl_cons, ih (inOrder_insertSorted s hacc), filter_insertSorted p s hacc,
      List.filter_cons]
    by_cases hs : p s.span.start
    · rw [if_pos hs, if_pos hs, List.foldl_cons]
    · rw [if_neg hs, if_neg hs]

end Fold

namespace View

theorem labelAll_eq (fs : List Finding) (ls : List LabelledSpan) :
    labelAll fs ls
      = (fs.map Finding.labelledSpan).foldl (fun acc s => insertSorted s acc) ls := by
  rw [labelAll, List.foldl_map]

theorem mem_labelAll {fs : List Finding} {ls : List LabelledSpan} {x : LabelledSpan} :
    x ∈ labelAll fs ls ↔ x ∈ ls ∨ x ∈ fs.map Finding.labelledSpan := by
  rw [labelAll_eq, mem_foldInsert]

theorem labelAll_of_inOrder {fs : List Finding} {ls : List LabelledSpan}
    (h : LabelsInOrder (ls ++ fs.map Finding.labelledSpan)) :
    labelAll fs ls = ls ++ fs.map Finding.labelledSpan := by
  rw [labelAll_eq]
  exact foldInsert_of_inOrder h

end View

/-! ## 2. Edits of the text -/

/-- Labels that lie in a text of a given length. -/
def LabelsWithin (length : Nat) (ls : List LabelledSpan) : Prop :=
  ∀ l ∈ ls, l.span.stop ≤ length

/-- No label is empty. -/
def LabelsNonempty (ls : List LabelledSpan) : Prop := ∀ l ∈ ls, l.span.start < l.span.stop

/-- The labels after `delta` characters were put in at `pos`. -/
def labelsAfterInsertion (pos delta : Nat) (ls : List LabelledSpan) : List LabelledSpan :=
  ls.map fun l => { l with span := spanAfterInsertion pos delta l.span }

/-- The labels after the text from `start` to `stop` was taken out. -/
def labelsAfterDeletion (start stop : Nat) (ls : List LabelledSpan) : List LabelledSpan :=
  (ls.filterMap fun l => (spanAfterDeletion start stop l.span).map fun p =>
    { l with span := p }).foldl (fun acc s => insertSorted s acc) []

theorem spans_insert (l : Transcript) (offset : Nat) (t : Text) :
    (l.insert offset t).labels.spans
      = labelsAfterInsertion (min offset l.text.length) t.length l.labels.spans := rfl

theorem mem_labelsAfterDeletion {start stop : Nat} {ls : List LabelledSpan} {x : LabelledSpan} :
    x ∈ labelsAfterDeletion start stop ls ↔
      ∃ l ∈ ls, ∃ p, spanAfterDeletion start stop l.span = some p ∧ x = { l with span := p } := by
  unfold labelsAfterDeletion
  rw [mem_foldInsert, List.mem_filterMap]
  simp only [List.not_mem_nil, false_or, Option.map_eq_some_iff]
  exact ⟨fun ⟨l, hl, p, hp, hx⟩ => ⟨l, hl, p, hp, hx.symm⟩,
    fun ⟨l, hl, p, hp, hx⟩ => ⟨l, hl, p, hp, hx.symm⟩⟩

theorem labelsAfterInsertion_eq_filterMap (pos delta : Nat) (ls : List LabelledSpan) :
    labelsAfterInsertion pos delta ls = ls.filterMap fun l =>
      some { l with span := spanAfterInsertion pos delta l.span } := by
  unfold labelsAfterInsertion
  rw [← List.filterMap_eq_map]
  rfl

section Insertion

variable {pos delta : Nat} {ls : List LabelledSpan}

theorem spanAfterInsertion_of_le {s : Span} (h : s.start < pos) (h' : s.stop ≤ pos) :
    spanAfterInsertion pos delta s = s := by
  unfold spanAfterInsertion
  rw [if_neg (by omega), if_neg (by omega)]

theorem start_spanAfterInsertion (s : Span) : (spanAfterInsertion pos delta s).start
    = if pos ≤ s.start then s.start + delta else s.start := by
  unfold spanAfterInsertion Span.shift
  split
  · rfl
  · split <;> rfl

theorem inOrder_labelsAfterInsertion (h : LabelsInOrder ls) :
    LabelsInOrder (labelsAfterInsertion pos delta ls) := by
  unfold LabelsInOrder labelsAfterInsertion
  rw [List.pairwise_map]
  refine h.imp fun {l m} hle => ?_
  rw [start_spanAfterInsertion, start_spanAfterInsertion]
  split <;> split <;> omega

theorem within_labelsAfterInsertion {n : Nat} (h : LabelsWithin n ls) :
    LabelsWithin (n + delta) (labelsAfterInsertion pos delta ls) := by
  intro x hx
  obtain ⟨l, hl, rfl⟩ := List.mem_map.mp hx
  have := h l hl
  dsimp only
  unfold spanAfterInsertion Span.shift
  split
  · exact Nat.add_le_add_right this delta
  · split
    · exact Nat.add_le_add_right this delta
    · omega

theorem nonempty_labelsAfterInsertion (h : LabelsNonempty ls) :
    LabelsNonempty (labelsAfterInsertion pos delta ls) := by
  intro x hx
  obtain ⟨l, hl, rfl⟩ := List.mem_map.mp hx
  have := h l hl
  dsimp only
  unfold spanAfterInsertion Span.shift
  split
  · dsimp only
    omega
  · split
    · dsimp only
      omega
    · exact this

theorem labelsAfterInsertion_of_within (hn : LabelsNonempty ls) (h : LabelsWithin pos ls) :
    labelsAfterInsertion pos delta ls = ls := by
  unfold labelsAfterInsertion
  conv_rhs => rw [← List.map_id ls]
  apply List.map_congr_left
  intro l hl
  have hlt := hn l hl
  have hle := h l hl
  rw [spanAfterInsertion_of_le (by omega) hle]
  rfl

/-- Labels that start before `k` stay as they are, if they end before the text put in and that is
behind `k`. -/
theorem filter_labelsAfterInsertion {k : Nat} (hk : k ≤ pos)
    (h : ∀ l ∈ ls, l.span.start < k → l.span.stop ≤ pos) :
    (labelsAfterInsertion pos delta ls).filter (·.span.start < k)
      = ls.filter (·.span.start < k) := by
  induction ls with
  | nil => rfl
  | cons l ls ih =>
    have hrest := ih fun m hm => h m (List.mem_cons_of_mem l hm)
    show List.filter _ ({ l with span := spanAfterInsertion pos delta l.span }
      :: labelsAfterInsertion pos delta ls) = _
    by_cases hl : l.span.start < k
    · have hstop := h l List.mem_cons_self hl
      rw [spanAfterInsertion_of_le (by omega) hstop, List.filter_cons_of_pos (by simpa using hl),
        hrest, List.filter_cons_of_pos (by simpa using hl)]
    · -- a label is moved to the right only, so one from `k` on stays there
      have hstart : ¬ (spanAfterInsertion pos delta l.span).start < k := by
        rw [start_spanAfterInsertion]
        split <;> omega
      rw [List.filter_cons_of_neg (by simpa using hstart), hrest,
        List.filter_cons_of_neg (by simpa using hl)]

end Insertion

section Deletion

variable {start stop : Nat} {ls : List LabelledSpan}

theorem spanAfterDeletion_of_le {s : Span} (h : s.stop ≤ start) :
    spanAfterDeletion start stop s = some s := by
  unfold spanAfterDeletion
  rw [if_pos h]

/-- A label that starts behind `k` stays behind it when the text taken out is behind it too. -/
theorem le_start_of_spanAfterDeletion {k : Nat} {s p : Span} (hk : k ≤ start) (hss : start ≤ stop)
    (hs : k ≤ s.start) (hp : spanAfterDeletion start stop s = some p) : k ≤ p.start := by
  unfold spanAfterDeletion Span.shiftBack at hp
  split at hp
  · cases hp
    exact hs
  · split at hp
    · cases hp
      dsimp only
      omega
    · split at hp
      · cases hp
      · cases hp
        dsimp only
        omega

theorem inOrder_labelsAfterDeletion : LabelsInOrder (labelsAfterDeletion start stop ls) :=
  inOrder_foldInsert List.Pairwise.nil

theorem within_labelsAfterDeletion {n : Nat} (hss : start ≤ stop) (hn : stop ≤ n)
    (h : LabelsWithin n ls) :
    LabelsWithin (n - (stop - start)) (labelsAfterDeletion start stop ls) := by
  intro x hx
  obtain ⟨l, hl, p, hp, rfl⟩ := mem_labelsAfterDeletion.mp hx
  have := h l hl
  unfold spanAfterDeletion Span.shiftBack at hp
  dsimp only
  -- before the text taken out, behind it, in it, or across one of its ends
  split at hp
  · cases hp
    omega
  · split at hp
    · cases hp
      dsimp only
      omega
    · split at hp
      · cases hp
      · cases hp
        dsimp only
        split <;> omega

theorem nonempty_labelsAfterDeletion (hss : start ≤ stop) (h : LabelsNonempty ls) :
    LabelsNonempty (labelsAfterDeletion start stop ls) := by
  intro x hx
  obtain ⟨l, hl, p, hp, rfl⟩ := mem_labelsAfterDeletion.mp hx
  have := h l hl
  unfold spanAfterDeletion Span.shiftBack at hp
  dsimp only
  split at hp
  · cases hp
    exact this
  · split at hp
    · cases hp
      dsimp only
      omega
    · split at hp
      · cases hp
      · rename_i hout
        simp only [Bool.and_eq_true, decide_eq_true_eq, not_and] at hout
        cases hp
        dsimp only
        split <;> omega

theorem labelsAfterDeletion_of_within (ho : LabelsInOrder ls) (h : LabelsWithin start ls) :
    labelsAfterDeletion start stop ls = ls := by
  have hsame : (ls.filterMap fun l => (spanAfterDeletion start stop l.span).map fun p =>
      ({ l with span := p } : LabelledSpan)) = ls.filterMap some := by
    apply List.filterMap_congr
    intro l hl
    rw [spanAfterDeletion_of_le (h l hl)]
    rfl
  unfold labelsAfterDeletion
  rw [hsame, List.filterMap_some]
  exact foldInsert_of_inOrder ho

/-- Labels that start before `k` stay as they are, if they end before the text taken out and that
is behind `k`. -/
theorem filter_labelsAfterDeletion {k : Nat} (hk : k ≤ start) (hss : start ≤ stop)
    (ho : LabelsInOrder ls) (h : ∀ l ∈ ls, l.span.start < k → l.span.stop ≤ start) :
    (labelsAfterDeletion start stop ls).filter (·.span.start < k)
      = ls.filter (·.span.start < k) := by
  -- the spans are moved first, and put in order again afterwards
  have hmoved : (ls.filterMap fun l => (spanAfterDeletion start stop l.span).map fun p =>
      ({ l with span := p } : LabelledSpan)).filter (·.span.start < k)
        = ls.filter (·.span.start < k) := by
    clear ho
    induction ls with
    | nil => rfl
    | cons l ls ih =>
      have hrest := ih fun m hm => h m (List.mem_cons_of_mem l hm)
      rw [List.filterMap_cons]
      by_cases hl : l.span.start < k
      · rw [spanAfterDeletion_of_le (h l List.mem_cons_self hl)]
        dsimp only [Option.map_some]
        rw [List.filter_cons_of_pos (by simpa using hl), hrest,
          List.filter_cons_of_pos (by simpa using hl)]
      · rw [List.filter_cons_of_neg (by simpa using hl)]
        cases hp : spanAfterDeletion start stop l.span with
        | none => exact hrest
        | some p =>
          have hle : k ≤ p.start := le_start_of_spanAfterDeletion hk hss (by omega) hp
          dsimp only [Option.map_some]
          rw [List.filter_cons_of_neg (by simpa using hle), hrest]
  unfold labelsAfterDeletion
  rw [filter_foldInsert (fun n => decide (n < k)) List.Pairwise.nil, hmoved, List.filter_nil]
  exact foldInsert_of_inOrder (ho.filter _)

end Deletion

namespace Transcript

theorem within_delete {l : Transcript} (h : LabelsWithin l.text.length l.labels.spans)
    (s : Span) : LabelsWithin (l.delete s).text.length (l.delete s).labels.spans := by
  unfold Transcript.delete
  dsimp only
  split
  · exact h
  · rename_i hne
    have hle : (l.clamp s).start ≤ (l.clamp s).stop := Nat.le_max_left _ _
    have hstop : (l.clamp s).stop ≤ l.text.length :=
      Nat.max_le.mpr ⟨Nat.min_le_right _ _, Nat.min_le_right _ _⟩
    have hlen : (l.text.take (l.clamp s).start ++ l.text.drop (l.clamp s).stop).length
        = l.text.length - ((l.clamp s).stop - (l.clamp s).start) := by
      rw [List.length_append, List.length_take, List.length_drop]
      omega
    dsimp only
    rw [hlen]
    exact within_labelsAfterDeletion hle hstop h

theorem within_insert {l : Transcript} (h : LabelsWithin l.text.length l.labels.spans)
    (offset : Nat) (t : Text) :
    LabelsWithin (l.insert offset t).text.length (l.insert offset t).labels.spans := by
  have hlen : (l.insert offset t).text.length = l.text.length + t.length := by
    show (l.text.take _ ++ t ++ l.text.drop _).length = _
    rw [List.length_append, List.length_append, List.length_take, List.length_drop]
    omega
  rw [hlen]
  exact within_labelsAfterInsertion h

end Transcript

end BuildLog
