import BuildLog.Proofs.Labels
import Mathlib.Data.List.Induction

/-!
# Reach — queries of the labels of a log

A query walks back through the labels and stops where none before reaches far enough.  It finds what
a search through all labels finds: whatever is done to an index, its labels stay in order, and the
furthest ends beside them right, as long as no label is moved beyond the machine numbers.  A removal,
though, takes labels away from a place between two characters that no query finds there.
-/

namespace BuildLog.LabelIndex

/-! ## 1. Furthest ends -/

/-- The furthest ends are kept right. -/
def Indexed (x : LabelIndex) : Prop := x = ofSorted x.spans

theorem indexed_ofSorted (ls : List LabelledSpan) : (ofSorted ls).Indexed := rfl

theorem indexed_iff {x : LabelIndex} : x.Indexed ↔ x.reach = reachFrom 0 x.spans :=
  ⟨fun h => congrArg reach h, fun h => by rw [Indexed, ofSorted, ← h]⟩

/-- The last of the furthest ends is that of all labels. -/
theorem getLast?_reachFrom (furthest : Nat) (ls : List LabelledSpan) :
    (reachFrom furthest ls).getLast?.getD furthest = (ls.map (·.span.stop)).foldl max furthest := by
  induction ls generalizing furthest with
  | nil => rfl
  | cons l ls ih => rw [reachFrom, List.getLast?_cons, Option.getD_some, ih, List.map_cons,
      List.foldl_cons]

theorem reachFrom_append (furthest : Nat) (ls ms : List LabelledSpan) :
    reachFrom furthest (ls ++ ms)
      = reachFrom furthest ls ++ reachFrom ((ls.map (·.span.stop)).foldl max furthest) ms := by
  induction ls generalizing furthest with
  | nil => rfl
  | cons l ls ih => rw [List.cons_append, reachFrom, ih, reachFrom, List.cons_append, List.map_cons,
      List.foldl_cons]

theorem stop_le_foldl_max (furthest : Nat) {ls : List LabelledSpan} {l : LabelledSpan} (hl : l ∈ ls) :
    l.span.stop ≤ (ls.map (·.span.stop)).foldl max furthest := by
  have hmem : l.span.stop ∈ ls.map (·.span.stop) := List.mem_map_of_mem hl
  rw [List.foldl_max]
  cases hmax : (ls.map (·.span.stop)).max? with
  | none =>
    rw [List.max?_eq_none_iff.mp hmax] at hmem
    cases hmem
  | some n => exact Nat.le_trans ((List.max?_eq_some_iff.mp hmax).2 _ hmem) (Nat.le_max_right _ _)

theorem foldl_max_zero (ns : List Nat) : ns.foldl max 0 = ns.max?.getD 0 := by
  rw [List.foldl_max]
  exact Nat.zero_max _

section

variable {x : LabelIndex} (h : x.Indexed)
include h

theorem Indexed.furthestEnd_eq : x.furthestEnd = (x.spans.map (·.span.stop)).max?.getD 0 := by
  rw [furthestEnd, indexed_iff.mp h, getLast?_reachFrom, foldl_max_zero]

theorem Indexed.stop_le_furthestEnd {l : LabelledSpan} (hl : l ∈ x.spans) :
    l.span.stop ≤ x.furthestEnd := by
  rw [h.furthestEnd_eq, ← foldl_max_zero]
  exact stop_le_foldl_max 0 hl

theorem Indexed.exists_stop_eq (hpos : x.furthestEnd ≠ 0) :
    ∃ l ∈ x.spans, l.span.stop = x.furthestEnd := by
  rw [h.furthestEnd_eq] at hpos ⊢
  cases hmax : (x.spans.map (·.span.stop)).max? with
  | none =>
    rw [hmax] at hpos
    exact absurd rfl hpos
  | some n => exact List.mem_map.mp (List.max?_mem hmax)

end

/-! ## 2. Changes -/

/-- The furthest ends that are worked out anew from a place on are right if those before it are. -/
theorem rebuildReach_eq {k : Nat} {reach : List Nat} {ls : List LabelledSpan} (hk : k ≤ reach.length)
    (hbefore : reach.take k = reachFrom 0 (ls.take k)) :
    rebuildReach k reach ls = reachFrom 0 ls := by
  -- the last of the ends that are kept is what the others go on from
  have hlast : (if k = 0 then 0 else reach[k - 1]?.getD 0)
      = ((ls.take k).map (·.span.stop)).foldl max 0 := by
    rw [← getLast?_reachFrom, ← hbefore, List.getLast?_take]
    split
    · rfl
    · rw [List.getElem?_eq_getElem (by omega)]
      rfl
  rw [rebuildReach, hlast, hbefore, ← reachFrom_append, List.take_append_drop]

/-- A label is put behind those that start no later, which stay where they are. -/
theorem take_insertSorted (s : LabelledSpan) (ls : List LabelledSpan) :
    (insertSorted s ls).take (ls.takeWhile fun t => t.span.start ≤ s.span.start).length
      = ls.takeWhile fun t => t.span.start ≤ s.span.start := by
  induction ls with
  | nil => rfl
  | cons t ls ih =>
    rw [insertSorted, List.takeWhile_cons]
    by_cases ht : t.span.start ≤ s.span.start
    · rw [if_pos ht, if_pos (decide_eq_true ht), List.length_cons, List.take_succ_cons, ih]
    · rw [if_neg ht, if_neg (by simpa using ht)]
      rfl

section

variable {x : LabelIndex} (h : x.Indexed)
include h

theorem Indexed.insert (s : LabelledSpan) : (x.insert s).Indexed := by
  rw [indexed_iff]
  have hreach := indexed_iff.mp h
  -- the labels before the new one are those that were there, and so are the ends beside them
  obtain ⟨after, hafter⟩ := List.takeWhile_prefix (l := x.spans)
    fun t => decide (t.span.start ≤ s.span.start)
  have hsplit := congrArg (reachFrom 0) hafter
  rw [reachFrom_append] at hsplit
  refine rebuildReach_eq ?_ ?_
  · rw [hreach, length_reachFrom]
    exact (List.takeWhile_prefix _).length_le
  · rw [take_insertSorted, hreach, ← hsplit]
    exact List.take_left' (length_reachFrom _ _)

theorem Indexed.removeRange (start stop : Nat) : (x.removeRange start stop).2.Indexed := by
  rw [indexed_iff]
  unfold LabelIndex.removeRange
  dsimp only
  split
  · rfl
  · -- nothing was removed, so the furthest ends are those of the same labels
    rename_i hnone
    have hle := List.length_filter_le (fun s : LabelledSpan => !s.span.meets start stop) x.spans
    have hall : x.spans.filter (fun s => !s.span.meets start stop) = x.spans :=
      List.filter_eq_self.mpr (List.length_filter_eq_length_iff.mp (by omega))
    rw [hall]
    exact indexed_iff.mp h

end

/-- What can be done to an index. -/
inductive Change
  | insert (s : LabelledSpan)
  | removeRange (start stop : Nat)
  | moveForInsertion (pos delta : Nat)
  | moveForDeletion (start stop : Nat)
  | clear

/-- The index after a change, however far labels are moved. -/
def change (x : LabelIndex) : Change → LabelIndex
  | .insert s => x.insert s
  | .removeRange start stop => (x.removeRange start stop).2
  | .moveForInsertion pos delta => x.openGap pos delta
  | .moveForDeletion start stop => x.moveForDeletion start stop
  | .clear => empty

/-- The index after some changes in turn. -/
def changeAll (x : LabelIndex) (cs : List Change) : LabelIndex := cs.foldl change x

/-- An index in which queries find what there is. -/
structure Kept (x : LabelIndex) : Prop where
  inOrder : LabelsInOrder x.spans
  indexed : x.Indexed

theorem kept_empty : empty.Kept := ⟨List.Pairwise.nil, rfl⟩

theorem Kept.change {x : LabelIndex} (h : x.Kept) (c : Change) : (x.change c).Kept := by
  cases c with
  | insert s => exact ⟨inOrder_insertSorted s h.inOrder, h.indexed.insert s⟩
  | removeRange start stop => exact ⟨h.inOrder.filter _, h.indexed.removeRange start stop⟩
  | moveForInsertion pos delta => exact ⟨inOrder_labelsAfterInsertion h.inOrder, rfl⟩
  | moveForDeletion start stop => exact ⟨inOrder_labelsAfterDeletion, rfl⟩
  | clear => exact kept_empty

theorem Kept.changeAll {x : LabelIndex} (h : x.Kept) (cs : List Change) : (x.changeAll cs).Kept := by
  induction cs generalizing x with
  | nil => exact h
  | cons c cs ih => exact ih (h.change c)

/-! ## 3. Machine numbers -/

/-- Whether a change takes and leaves machine numbers: none is too large, and no length is negative. -/
def Change.fits (x : LabelIndex) : Change → Bool
  | .insert s => s.span.fits
  | .moveForInsertion pos delta => x.spans.all fun s => (spanAfterInsertion pos delta s.span).fits
  | .moveForDeletion start stop => start ≤ stop
  | .removeRange _ _ | .clear => true

section Walk

variable {furthest : Nat} {ls : List LabelledSpan} {p : LabelledSpan → Bool}

/-- A part of the labels that is found by a look at each of them has its furthest ends beside it. -/
theorem takeWhile_zip_reachFrom (furthest : Nat) (ls : List LabelledSpan) (p : LabelledSpan → Bool) :
    (ls.zip (reachFrom furthest ls)).takeWhile (fun e => p e.1)
      = (ls.takeWhile p).zip (reachFrom furthest (ls.takeWhile p)) := by
  induction ls generalizing furthest with
  | nil => rfl
  | cons l ls ih =>
    rw [reachFrom, List.zip_cons_cons, List.takeWhile_cons, List.takeWhile_cons]
    cases p l with
    | true => rw [if_pos rfl, if_pos rfl, ih, reachFrom, List.zip_cons_cons]
    | false => rfl

theorem takeWhile_drop_zip_reachFrom (furthest n : Nat) (ls : List LabelledSpan)
    (p : LabelledSpan → Bool) :
    (((ls.zip (reachFrom furthest ls)).drop n).takeWhile fun e => p e.1).map (·.1)
      = (ls.drop n).takeWhile p := by
  have hfst : (ls.zip (reachFrom furthest ls)).map (·.1) = ls :=
    List.map_fst_zip (Nat.le_of_eq (length_reachFrom furthest ls).symm)
  calc
    _ = (((ls.zip (reachFrom furthest ls)).drop n).map (·.1)).takeWhile p :=
      List.takeWhile_map.symm
    _ = (ls.drop n).takeWhile p := by rw [List.map_drop, hfst]

/-- One step of the walk back. -/
theorem walkBack_concat (pos furthest : Nat) (ls : List LabelledSpan) (l : LabelledSpan) :
    walkBack pos ((ls ++ [l]).zip (reachFrom furthest (ls ++ [l])))
      = if pos < ((ls ++ [l]).map (·.span.stop)).foldl max furthest
        then l :: walkBack pos (ls.zip (reachFrom furthest ls)) else [] := by
  rw [reachFrom_append, List.zip_append (length_reachFrom furthest ls).symm, List.map_append,
    List.foldl_append]
  unfold walkBack
  simp only [reachFrom, List.zip_cons_cons, List.zip_nil_left, List.reverse_append,
    List.reverse_singleton, List.singleton_append, List.takeWhile_cons, List.map_singleton,
    List.foldl_cons, List.foldl_nil, decide_eq_true_iff]
  rw [apply_ite (List.map Prod.fst)]
  rfl

/-- The walk back misses no label that ends behind an offset: where it stops, the furthest of the
ends of all labels left does not reach beyond the offset. -/
theorem filter_walkBack {pos : Nat} (hp : ∀ l ∈ ls, p l = true → pos < l.span.stop) :
    (walkBack pos (ls.zip (reachFrom furthest ls))).filter p = ls.reverse.filter p := by
  -- from the end of the list, the way the walk goes
  induction ls using List.reverseRecOn with
  | nil => rfl
  | append_singleton ls l ih =>
    have hrest := ih fun m hm => hp m (List.mem_append_left [l] hm)
    rw [walkBack_concat]
    split
    · rw [List.reverse_append, List.reverse_singleton, List.singleton_append, List.filter_cons,
        List.filter_cons, hrest]
    · rename_i hstop
      refine (List.filter_eq_nil_iff.mpr fun m hm hpm => hstop ?_).symm
      rw [List.mem_reverse] at hm
      exact Nat.lt_of_lt_of_le (hp m hm hpm) (stop_le_foldl_max furthest hm)

/-- Labels in order that start before an offset are the first ones. -/
theorem takeWhile_start_eq_filter (h : LabelsInOrder ls) (q : Nat → Bool)
    (hq : ∀ m n, m ≤ n → q n = true → q m = true) :
    ls.takeWhile (q ·.span.start) = ls.filter (q ·.span.start) := by
  induction ls with
  | nil => rfl
  | cons l ls ih =>
    obtain ⟨hle, hls⟩ := List.pairwise_cons.mp h
    rw [List.takeWhile_cons, List.filter_cons]
    cases hl : q l.span.start with
    | true => rw [if_pos rfl, if_pos rfl, ih hls]
    | false =>
      symm
      refine List.filter_eq_nil_iff.mpr fun m hm hqm => ?_
      rw [hq _ _ (hle m hm) hqm] at hl
      cases hl

end Walk

section

variable {x : LabelIndex} (h : x.Kept)
include h

/-- What covers an offset is found among all labels, the last one first. -/
theorem Kept.atOffset_eq (pos : Nat) :
    x.atOffset pos = (x.spans.filter (·.span.covers pos)).reverse := by
  have hcovers : ∀ l : LabelledSpan, l.span.covers pos = true →
      l.span.start ≤ pos ∧ pos < l.span.stop := fun l hl => by simpa [Span.covers] using hl
  unfold atOffset
  rw [indexed_iff.mp h.indexed,
    takeWhile_zip_reachFrom 0 x.spans fun l => decide (l.span.start ≤ pos),
    filter_walkBack fun l _ hl => (hcovers l hl).2,
    takeWhile_start_eq_filter h.inOrder (fun n => decide (n ≤ pos)) fun m n hmn hn =>
      decide_eq_true (Nat.le_trans hmn (of_decide_eq_true hn)),
    List.filter_reverse, filter_filter_of_imp]
  exact fun l _ hl => decide_eq_true (hcovers l hl).1

/-- What meets a part of the text is found among all labels, in order. -/
theorem Kept.inRange_eq {start stop : Nat} (hlt : start < stop) :
    x.inRange start stop = x.spans.filter (·.span.meets start stop) := by
  have hmeets : ∀ l : LabelledSpan, l.span.meets start stop = true →
      l.span.start < stop ∧ start < l.span.stop := fun l hl => by simpa [Span.meets] using hl
  obtain ⟨before, hbefore⟩ : ∃ before, before = x.spans.takeWhile fun l => l.span.start < start :=
    ⟨_, rfl⟩
  obtain ⟨after, hafter⟩ : ∃ after, after = x.spans.drop before.length := ⟨_, rfl⟩
  have hsplit : before ++ after = x.spans := by
    obtain ⟨rest, hrest⟩ := hbefore ▸ List.takeWhile_prefix (l := x.spans) _
    rw [hafter, ← hrest, List.drop_left]
  -- labels that start behind the part are left out of what comes after
  have hwithin : (after.takeWhile fun l => l.span.start < stop).filter (·.span.meets start stop)
      = after.filter (·.span.meets start stop) := by
    have horder : LabelsInOrder after := hafter ▸ h.inOrder.drop
    rw [takeWhile_start_eq_filter horder (fun n => decide (n < stop)) fun m n hmn hn =>
      decide_eq_true (Nat.lt_of_le_of_lt hmn (of_decide_eq_true hn)), filter_filter_of_imp]
    exact fun l _ hl => decide_eq_true (hmeets l hl).1
  unfold inRange
  rw [if_neg (Nat.not_le.mpr hlt), indexed_iff.mp h.indexed]
  dsimp only
  rw [takeWhile_zip_reachFrom 0 x.spans fun l => decide (l.span.start < start), ← hbefore,
    List.filter_append, List.filter_reverse, filter_walkBack fun l _ hl => (hmeets l hl).2,
    ← List.filter_reverse, List.reverse_reverse,
    takeWhile_drop_zip_reachFrom 0 _ _ fun l => decide (l.span.start < stop), List.length_zip,
    length_reachFrom, Nat.min_self, ← hafter, hwithin, ← List.filter_append, hsplit]

end

/-- A removal takes away the labels that a query finds and no others, and tells how many these are;
the query finds nothing any more. -/
def RemovesFound (x : LabelIndex) (start stop : Nat) : Prop :=
  (x.removeRange start stop).2.spans = x.spans.filter (· ∉ x.inRange start stop)
    ∧ (x.removeRange start stop).1 = (x.inRange start stop).length
    ∧ (x.removeRange start stop).2.inRange start stop = []

instance (x : LabelIndex) (start stop : Nat) : Decidable (x.RemovesFound start stop) :=
  inferInstanceAs (Decidable (_ ∧ _))

theorem fst_removeRange (x : LabelIndex) (start stop : Nat) :
    (x.removeRange start stop).1 = (x.spans.filter (·.span.meets start stop)).length := by
  have := List.length_eq_length_filter_add (l := x.spans) (·.span.meets start stop)
  show x.spans.length - (x.spans.filter fun l => !l.span.meets start stop).length = _
  omega

theorem inRange_of_le (x : LabelIndex) {start stop : Nat} (h : stop ≤ start) :
    x.inRange start stop = [] := if_pos h

section

variable {x : LabelIndex} {start stop : Nat}

theorem not_meets_eq_true_iff {l : LabelledSpan} :
    (!l.span.meets start stop) = true ↔ (l.span.start < stop → l.span.stop ≤ start) := by
  rw [Span.not_meets_iff]
  omega

/-- After a removal a query for the same part of the text finds nothing. -/
theorem Kept.inRange_removeRange (h : x.Kept) :
    (x.removeRange start stop).2.inRange start stop = [] := by
  rcases Nat.lt_or_ge start stop with hlt | hle
  · have hkept : (x.removeRange start stop).2.Kept := h.change (.removeRange start stop)
    rw [hkept.inRange_eq hlt]
    refine List.filter_eq_nil_iff.mpr fun l hl hmeets => ?_
    have hnot := (List.mem_filter.mp hl).2
    rw [hmeets] at hnot
    cases hnot
  · exact inRange_of_le _ hle

/-- From the bounds of a part of the text in order a removal and a query make out the same labels. -/
theorem Kept.removesFound_of_lt (h : x.Kept) (hlt : start < stop) : x.RemovesFound start stop := by
  refine ⟨?_, ?_, h.inRange_removeRange⟩
  · rw [h.inRange_eq hlt]
    refine List.filter_congr fun l hl => ?_
    simp [List.mem_filter, hl]
  · rw [fst_removeRange, h.inRange_eq hlt]

/-- Where a query finds nothing, a removal still takes away what reaches over both bounds. -/
theorem removesFound_iff_of_le (hle : stop ≤ start) :
    x.RemovesFound start stop ↔ ∀ l ∈ x.spans, l.span.start < stop → l.span.stop ≤ start := by
  have hall : (∀ l ∈ x.spans, l.span.start < stop → l.span.stop ≤ start)
      ↔ (x.removeRange start stop).2.spans = x.spans := by
    show _ ↔ x.spans.filter (fun l => !l.span.meets start stop) = x.spans
    rw [List.filter_eq_self]
    exact forall₂_congr fun l _ => not_meets_eq_true_iff.symm
  rw [RemovesFound, inRange_of_le x hle, hall]
  -- the query finds nothing, so what is left must be all there was
  constructor
  · rintro ⟨hspans, -, -⟩
    rw [hspans]
    exact List.filter_eq_self.mpr fun l _ => decide_eq_true List.not_mem_nil
  · intro hspans
    refine ⟨?_, ?_, inRange_of_le _ hle⟩
    · rw [hspans]
      exact (List.filter_eq_self.mpr fun l _ => decide_eq_true List.not_mem_nil).symm
    · show x.spans.length - (x.removeRange start stop).2.spans.length = 0
      rw [hspans, Nat.sub_self]

end

/-- Whatever was done to an index, a removal takes away the labels that begin before the one bound
and end behind the other, tells how many these are and leaves all others as they are, in order; a
query for the same part of the text then finds nothing.  It takes away just what the query found
before, unless the bounds are equal or the wrong way round and a label reaches over both: this one no
query finds there. -/
theorem removesFound_iff (cs : List Change) (start stop : Nat) :
    let x := empty.changeAll cs
    let r := x.removeRange start stop
    r.2.spans = x.spans.filter (fun l => ¬ (l.span.start < stop ∧ start < l.span.stop))
      ∧ r.1 = (x.spans.filter fun l => l.span.start < stop ∧ start < l.span.stop).length
      ∧ r.2.inRange start stop = []
      ∧ (x.RemovesFound start stop
        ↔ start < stop ∨ ∀ l ∈ x.spans, l.span.start < stop → l.span.stop ≤ start) := by
  intro x r
  have h : x.Kept := kept_empty.changeAll cs
  have hmeets : ∀ l : LabelledSpan, l.span.meets start stop
      = decide (l.span.start < stop ∧ start < l.span.stop) := fun l => (Bool.decide_and _ _).symm
  refine ⟨?_, ?_, h.inRange_removeRange, ?_⟩
  · show x.spans.filter (fun l => !l.span.meets start stop) = _
    refine List.filter_congr fun l _ => ?_
    rw [hmeets, decide_not]
  · rw [fst_removeRange]
    exact congrArg List.length (List.filter_congr fun l _ => hmeets l)
  · rcases Nat.lt_or_ge start stop with hlt | hle
    · exact iff_of_true (h.removesFound_of_lt hlt) (.inl hlt)
    · rw [removesFound_iff_of_le hle, or_iff_right (Nat.not_lt.mpr hle)]

/-- Between two characters of a label a query finds nothing, and a removal takes the label away. -/
theorem removesFound_differs :
    let note : Label := ⟨.error, "a.c", some 1, none⟩
    let x := empty.changeAll [.insert ⟨⟨3, 8⟩, note⟩]
    x.inRange 5 5 = [] ∧ x.removeRange 5 5 = (1, empty) ∧ ¬ x.RemovesFound 5 5 := by
  decide

end BuildLog.LabelIndex
