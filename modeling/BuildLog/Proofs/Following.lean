import BuildLog.Proofs.Edits
import BuildLog.Proofs.Reach

/-!
# Following — labels stay with their characters

The text of a log and the index of its labels are edited each by itself.  Still each character has
the labels after an edit that it had before, a label goes just if all its characters do, and text
that is put in has the labels that reach over its place.
-/

namespace BuildLog

theorem Span.covers_iff {s : Span} {i : Nat} : s.covers i = true ↔ s.start ≤ i ∧ i < s.stop := by
  rw [covers, Bool.and_eq_true, decide_eq_true_iff, decide_eq_true_iff]

/-! ## 1. Spans -/

namespace LabelIndex

section Spans

variable {pos delta start stop i : Nat} {s p : Span}

/-- A character that was there before text was put in is covered as it was. -/
theorem covers_spanAfterInsertion :
    (spanAfterInsertion pos delta s).covers (if pos ≤ i then i + delta else i) = s.covers i := by
  rw [Bool.eq_iff_iff, Span.covers_iff, Span.covers_iff]
  unfold spanAfterInsertion Span.shift
  by_cases hbefore : pos ≤ s.start
  · rw [if_pos hbefore]
    dsimp only
    split <;> omega
  · rw [if_neg hbefore]
    split
    · dsimp only
      split <;> omega
    · split <;> omega

/-- A character that is put in is covered by what reaches over the place. -/
theorem covers_spanAfterInsertion_iff (hi : i < delta) :
    (spanAfterInsertion pos delta s).covers (pos + i) = true ↔ s.start < pos ∧ pos < s.stop := by
  rw [Span.covers_iff]
  unfold spanAfterInsertion Span.shift
  split
  · dsimp only
    omega
  · split
    · dsimp only
      omega
    · omega

theorem spanAfterDeletion_eq_none_iff (hs : s.start < s.stop) :
    spanAfterDeletion start stop s = none ↔ start ≤ s.start ∧ s.stop ≤ stop := by
  unfold spanAfterDeletion
  split
  · exact iff_of_false nofun (by omega)
  · split
    · exact iff_of_false nofun (by omega)
    · split
      · rename_i hin
        rw [Bool.and_eq_true, decide_eq_true_iff, decide_eq_true_iff] at hin
        exact iff_of_true rfl hin
      · rename_i hin
        rw [Bool.and_eq_true, decide_eq_true_iff, decide_eq_true_iff] at hin
        exact iff_of_false nofun hin

/-- A span that is not empty is cut at the text that is taken out, and closes up behind it. -/
theorem spanAfterDeletion_eq_some (hs : s.start < s.stop) (hss : start ≤ stop)
    (hp : spanAfterDeletion start stop s = some p) :
    p.start = (if s.start < start then s.start else max s.start stop - (stop - start))
      ∧ p.stop = if s.stop ≤ start then s.stop else max s.stop stop - (stop - start) := by
  unfold spanAfterDeletion Span.shiftBack at hp
  by_cases hbefore : s.stop ≤ start
  · rw [if_pos hbefore] at hp
    cases hp
    exact ⟨(if_pos (by omega)).symm, (if_pos hbefore).symm⟩
  · rw [if_neg hbefore] at hp ⊢
    by_cases hbehind : stop ≤ s.start
    · rw [if_pos hbehind] at hp
      cases hp
      dsimp only
      rw [if_neg (by omega)]
      omega
    · rw [if_neg hbehind] at hp
      split at hp
      · cases hp
      · cases hp
        dsimp only
        constructor
        · split <;> omega
        · split <;> omega

/-- A character that is not taken out is covered as it was. -/
theorem covers_spanAfterDeletion (hs : s.start < s.stop) (hss : start ≤ stop)
    (hp : spanAfterDeletion start stop s = some p) (hi : i < start ∨ stop ≤ i) :
    p.covers (if i < start then i else i - (stop - start)) = s.covers i := by
  obtain ⟨hstart, hstop⟩ := spanAfterDeletion_eq_some hs hss hp
  rw [Bool.eq_iff_iff, Span.covers_iff, Span.covers_iff, hstart, hstop]
  -- the character, and each end of the span, is before the text taken out or behind its start
  split <;> split <;> split <;> omega

/-- To take nothing out leaves a span as it was. -/
theorem spanAfterDeletion_self (pos : Nat) (s : Span) : spanAfterDeletion pos pos s = some s := by
  unfold spanAfterDeletion Span.shiftBack
  split
  · rfl
  · split
    · rw [Nat.sub_self]
      rfl
    · rw [if_neg (by simp; omega), Nat.sub_self, Nat.min_eq_left (by omega), if_pos (by omega)]
      rfl

/-- What is put in and taken out again leaves a span as it was. -/
theorem spanAfterDeletion_spanAfterInsertion (hs : s.start < s.stop) :
    spanAfterDeletion pos (pos + delta) (spanAfterInsertion pos delta s) = some s := by
  unfold spanAfterInsertion Span.shift
  split
  · unfold spanAfterDeletion Span.shiftBack
    rw [if_neg (by dsimp only; omega), if_pos (by dsimp only; omega)]
    dsimp only
    rw [Nat.add_sub_cancel_left, Nat.add_sub_cancel, Nat.add_sub_cancel]
  · split
    · unfold spanAfterDeletion
      dsimp only
      rw [if_neg (by omega), if_neg (by omega), if_neg (by simp; omega), if_pos (by omega),
        Nat.min_eq_left (by omega)]
      congr 2
      omega
    · exact spanAfterDeletion_of_le (by omega)

end Spans

/-! ## 2. Labels -/

/-- What becomes of a label under an edit of a text of some length, unless all of it is deleted. -/
def followed (length : Nat) : Edit → LabelledSpan → Option LabelledSpan
  | .insert offset t, l =>
    some { l with span := spanAfterInsertion (min offset length) t.length l.span }
  | .delete span, l =>
    let start := min span.start length
    (spanAfterDeletion start (max start (min span.stop length)) l.span).map fun p =>
      { l with span := p }

section Labels

variable {length : Nat} {e : Edit} {l m : LabelledSpan} {ls : List LabelledSpan}

/-- A label goes just if all its characters are deleted. -/
theorem followed_eq_none_iff (hn : l.span.start < l.span.stop) (hw : l.span.stop ≤ length) :
    followed length e l = none ↔ ∀ i, l.span.covers i = true → e.Deletes i := by
  cases e with
  | insert offset t =>
    exact iff_of_false nofun fun h =>
      h l.span.start (Span.covers_iff.mpr ⟨Nat.le_refl _, hn⟩)
  | delete span =>
    unfold followed
    rw [Option.map_eq_none_iff, spanAfterDeletion_eq_none_iff hn]
    constructor
    · rintro ⟨hstart, hstop⟩ i hi
      have := Span.covers_iff.mp hi
      exact ⟨by omega, by omega⟩
    · intro h
      -- the first and the last character of the label
      have hfirst := h l.span.start (Span.covers_iff.mpr ⟨Nat.le_refl _, hn⟩)
      have hlast := h (l.span.stop - 1) (Span.covers_iff.mpr ⟨by omega, by omega⟩)
      unfold Edit.Deletes at hfirst hlast
      omega

theorem label_followed (hm : followed length e l = some m) : m.label = l.label := by
  cases e with
  | insert offset t =>
    cases hm
    rfl
  | delete span =>
    obtain ⟨p, -, rfl⟩ := Option.map_eq_some_iff.mp hm
    rfl

/-- A character that is not deleted has a label that follows it just if it had the label before. -/
theorem covers_followed (hn : l.span.start < l.span.stop) (hm : followed length e l = some m)
    {i : Nat} (hi : i < length) (hkept : ¬ e.Deletes i) :
    m.span.covers (e.move i) = l.span.covers i := by
  cases e with
  | insert offset t =>
    cases hm
    rw [← covers_spanAfterInsertion (s := l.span), Edit.move]
    congr 1
    split <;> split <;> omega
  | delete span =>
    obtain ⟨p, hp, rfl⟩ := Option.map_eq_some_iff.mp hm
    have hout : i < span.start ∨ span.stop ≤ i := by
      simp only [Edit.Deletes, not_and, Nat.not_lt] at hkept
      omega
    rw [← covers_spanAfterDeletion hn (Nat.le_max_left _ _) hp (by omega), Edit.move]
    congr 1
    split <;> split <;> omega

/-- Labels that are not empty stay in order when text is taken out. -/
theorem inOrder_filterMap_followed (hn : LabelsNonempty ls) (ho : LabelsInOrder ls) (span : Span) :
    LabelsInOrder (ls.filterMap (followed length (.delete span))) := by
  unfold LabelsInOrder
  rw [List.pairwise_filterMap]
  refine ho.imp_of_mem fun {l m} hl hm hle l' hl' m' hm' => ?_
  obtain ⟨p, hp, rfl⟩ := Option.map_eq_some_iff.mp hl'
  obtain ⟨q, hq, rfl⟩ := Option.map_eq_some_iff.mp hm'
  obtain ⟨hstart, -⟩ := spanAfterDeletion_eq_some (hn l hl) (Nat.le_max_left _ _) hp
  obtain ⟨hstart', -⟩ := spanAfterDeletion_eq_some (hn m hm) (Nat.le_max_left _ _) hq
  dsimp only
  rw [hstart, hstart']
  split <;> split <;> omega

/-- If labels are followed from one log to another, then a character of the one has the labels of
the character that it has become in the other. -/
theorem map_label_filterMap {f : LabelledSpan → Option LabelledSpan} {i j : Nat}
    (hgone : ∀ l ∈ ls, f l = none → l.span.covers i = false)
    (hkept : ∀ l ∈ ls, ∀ m, f l = some m → m.label = l.label ∧ m.span.covers j = l.span.covers i) :
    ((ls.filterMap f).filter (·.span.covers j)).map (·.label)
      = (ls.filter (·.span.covers i)).map (·.label) := by
  induction ls with
  | nil => rfl
  | cons l ls ih =>
    have hrest := ih (fun m hm => hgone m (List.mem_cons_of_mem l hm))
      fun m hm => hkept m (List.mem_cons_of_mem l hm)
    rw [List.filterMap_cons, List.filter_cons]
    cases hf : f l with
    | none =>
      rw [hgone l List.mem_cons_self hf]
      exact hrest
    | some m =>
      obtain ⟨hlabel, hcovers⟩ := hkept l List.mem_cons_self m hf
      dsimp only
      rw [List.filter_cons, hcovers]
      cases l.span.covers i with
      | false => exact hrest
      | true =>
        rw [if_pos rfl, if_pos rfl, List.map_cons, List.map_cons, hrest, hlabel]

end Labels

end LabelIndex

/-! ## 3. Logs -/

namespace Transcript

open LabelIndex

def edit (l : Transcript) : Edit → Transcript
  | .insert offset t => l.insert offset t
  | .delete span => l.delete span

/-- The labels of a character, as a query finds them. -/
def labelsAt (l : Transcript) (offset : Nat) : List Label :=
  (l.labels.atOffset offset).map (·.label)

/-- What can be done to a log. -/
inductive Change
  | append (t : Text)
  | edit (e : Edit)
  | label (s : LabelledSpan)
  | clearLabels (start stop : Nat)

def change (l : Transcript) : Change → Transcript
  | .append t => (l.append t).2
  | .edit e => l.edit e
  | .label s => l.label s
  | .clearLabels start stop => l.clearLabels start stop

/-- The log after some changes in turn. -/
def changeAll (l : Transcript) (cs : List Change) : Transcript := cs.foldl change l

section Kept

variable {l : Transcript} (h : l.labels.Kept)
include h

theorem kept_edit (e : Edit) : (l.edit e).labels.Kept := by
  cases e with
  | insert offset t => exact h.change (.moveForInsertion (min offset l.text.length) t.length)
  | delete span =>
    unfold edit delete
    dsimp only
    split
    · exact h
    · exact h.change (.moveForDeletion _ _)

theorem kept_change (c : Change) : (l.change c).labels.Kept :=
  match c with
  | .append _ => h
  | .edit e => kept_edit h e
  | .label s => LabelIndex.Kept.change h (.insert s)
  | .clearLabels start stop => LabelIndex.Kept.change h (.removeRange start stop)

theorem kept_changeAll (cs : List Change) : (l.changeAll cs).labels.Kept := by
  induction cs generalizing l with
  | nil => exact h
  | cons c cs ih => exact ih (kept_change h c)

theorem labelsAt_eq (offset : Nat) : l.labelsAt offset
    = ((l.labels.spans.filter (·.span.covers offset)).map (·.label)).reverse := by
  rw [labelsAt, h.atOffset_eq, List.map_reverse]

end Kept

theorem text_edit (l : Transcript) (e : Edit) : (l.edit e).text = e.onList id l.text := by
  cases e with
  | insert offset t =>
    rw [Edit.onList_insert, List.map_id]
    rfl
  | delete span =>
    show (l.delete span).text = _
    unfold delete clamp
    dsimp only
    split
    · rename_i heq
      rw [Edit.onList_delete, ← heq, List.take_append_drop]
    · rfl

theorem spans_edit {l : Transcript} (h : LabelsInOrder l.labels.spans)
    (hn : LabelsNonempty l.labels.spans) (e : Edit) : (l.edit e).labels.spans
      = l.labels.spans.filterMap (followed l.text.length e) := by
  cases e with
  | insert offset t => exact labelsAfterInsertion_eq_filterMap _ _ _
  | delete span =>
    show (l.delete span).labels.spans = _
    unfold delete clamp
    dsimp only
    split
    · -- nothing is taken out, and the labels are not touched
      rename_i heq
      conv_lhs => rw [← List.filterMap_some (l := l.labels.spans)]
      refine List.filterMap_congr fun l' _ => ?_
      unfold followed
      dsimp only
      rw [← heq, spanAfterDeletion_self]
      rfl
    · -- the labels are put in one by one, but are in order already
      exact foldInsert_of_inOrder (inOrder_filterMap_followed hn h span)

theorem nonempty_edit {l : Transcript} (hn : LabelsNonempty l.labels.spans) (e : Edit) :
    LabelsNonempty (l.edit e).labels.spans := by
  cases e with
  | insert offset t => exact nonempty_labelsAfterInsertion hn
  | delete span =>
    show LabelsNonempty (l.delete span).labels.spans
    unfold delete
    dsimp only
    split
    · exact hn
    · exact nonempty_labelsAfterDeletion (Nat.le_max_left _ _) hn

theorem within_edit {l : Transcript} (hw : LabelsWithin l.text.length l.labels.spans) (e : Edit) :
    LabelsWithin (l.edit e).text.length (l.edit e).labels.spans :=
  match e with
  | .insert offset t => within_insert hw offset t
  | .delete span => within_delete hw span

/-- The labels of a log follow their characters under an edit. -/
structure Follows (l : Transcript) (e : Edit) : Prop where
  /-- A character that is not deleted is where the edit moves it, with the labels that it had. -/
  labelsAt : ∀ i < l.text.length, ¬ e.Deletes i →
    (l.edit e).text[e.move i]? = l.text[i]? ∧ (l.edit e).labelsAt (e.move i) = l.labelsAt i
  /-- A label goes just if all its characters are deleted, and otherwise keeps those that are not. -/
  spans : ∃ f, (l.edit e).labels.spans = l.labels.spans.filterMap f ∧ ∀ a ∈ l.labels.spans,
    (f a = none ↔ ∀ i, a.span.covers i = true → e.Deletes i)
      ∧ ∀ b, f a = some b → b.label = a.label ∧ ∀ i < l.text.length, ¬ e.Deletes i →
        b.span.covers (e.move i) = a.span.covers i
  nonempty : LabelsNonempty (l.edit e).labels.spans
  within : LabelsWithin (l.edit e).text.length (l.edit e).labels.spans

section

variable {l : Transcript} (h : l.labels.Kept) (hn : LabelsNonempty l.labels.spans)
  (hw : LabelsWithin l.text.length l.labels.spans)
include h

include hn hw in
theorem follows_edit (e : Edit) : l.Follows e := by
  refine ⟨fun i hi hkept => ⟨?_, ?_⟩, ⟨followed l.text.length e, spans_edit h.inOrder hn e,
    fun a ha => ⟨followed_eq_none_iff (hn a ha) (hw a ha), fun b hb => ⟨label_followed hb,
      fun i hi hkept => covers_followed (hn a ha) hb hi hkept⟩⟩⟩, nonempty_edit hn e, within_edit hw e⟩
  · rw [text_edit]
    exact Edit.getElem?_onList_move hi hkept
  · rw [labelsAt_eq (kept_edit h e), labelsAt_eq h, spans_edit h.inOrder hn]
    congr 1
    refine map_label_filterMap (fun a ha hnone => ?_) fun a ha b hb =>
      ⟨label_followed hb, covers_followed (hn a ha) hb hi hkept⟩
    -- a label that is gone had no character that is still there
    rw [Bool.eq_false_iff]
    exact fun hcovers => hkept ((followed_eq_none_iff (hn a ha) (hw a ha)).mp hnone i hcovers)

include hw in
/-- A character that is put in has the labels that begin before its place and end behind it. -/
theorem labelsAt_insert (offset : Nat) (t : Text) {k : Nat} (hk : k < t.length) :
    (l.insert offset t).labelsAt (min offset l.text.length + k)
      = ((l.labels.spans.filter fun a => a.span.start < offset ∧ offset < a.span.stop).map
          (·.label)).reverse := by
  have hkept : (l.insert offset t).labels.Kept := kept_edit h (.insert offset t)
  rw [labelsAt_eq hkept, spans_insert]
  congr 1
  unfold labelsAfterInsertion
  rw [List.filter_map, List.map_map]
  congr 1
  refine List.filter_congr fun a ha => ?_
  have := hw a ha
  rw [Function.comp_apply, Bool.eq_iff_iff, covers_spanAfterInsertion_iff hk, decide_eq_true_iff]
  -- past the end of the text no label reaches over the offset or over the end
  omega

include hn in
/-- To delete what was put in gives the log back, with all its labels. -/
theorem delete_insert (offset : Nat) (t : Text) :
    (l.insert offset t).delete ⟨min offset l.text.length, min offset l.text.length + t.length⟩
      = l := by
  obtain ⟨u, hu⟩ : ∃ u, u = l.edit (.insert offset t) := ⟨_, rfl⟩
  obtain ⟨e, he⟩ : ∃ e, e
      = Edit.delete ⟨min offset l.text.length, min offset l.text.length + t.length⟩ := ⟨_, rfl⟩
  have hkept : u.labels.Kept := hu ▸ kept_edit h _
  have htext : (u.edit e).text = l.text := by
    rw [text_edit, he, hu, text_edit]
    exact Edit.onList_delete_insert id id l.text offset t
  have hlength : u.text.length = l.text.length + t.length := by
    rw [hu, text_edit, Edit.length_onList_insert]
  -- what was put in lies in the text
  have hstart : min (min offset l.text.length) (l.text.length + t.length)
      = min offset l.text.length := by omega
  have hstop : max (min offset l.text.length)
      (min (min offset l.text.length + t.length) (l.text.length + t.length))
        = min offset l.text.length + t.length := by omega
  have hspans : (u.edit e).labels.spans = l.labels.spans := by
    rw [spans_edit hkept.inOrder (hu ▸ nonempty_edit hn _), hu, spans_edit h.inOrder hn,
      List.filterMap_filterMap, ← hu, hlength, he]
    conv_rhs => rw [← List.filterMap_some (l := l.labels.spans)]
    refine List.filterMap_congr fun a ha => ?_
    unfold followed
    dsimp only [Option.bind_some]
    rw [hstart, hstop, spanAfterDeletion_spanAfterInsertion (hn a ha)]
    rfl
  -- the furthest ends are those of the labels
  have hlabels : (u.edit e).labels = l.labels := by
    rw [(kept_edit hkept e).indexed, hspans, ← h.indexed]
  have hlog : u.edit e = ⟨l.text, l.labels⟩ := by
    rw [← htext, ← hlabels]
  rw [hu, he] at hlog
  exact hlog

end

/-- Whatever was done to a log, let no label be empty and all of them lie in the text.  Then they
follow their characters under every edit; a character that is put in has the labels that begin before
its place and end behind it; and to delete what was put in gives back the text and the labels. -/
theorem labels_follow (t : Text) (cs : List Change) :
    let l := (ofText t).changeAll cs
    LabelsNonempty l.labels.spans → LabelsWithin l.text.length l.labels.spans →
      (∀ e, l.Follows e)
      ∧ (∀ offset u, ∀ k < u.length,
          (l.insert offset u).text[min offset l.text.length + k]? = u[k]?
            ∧ (l.insert offset u).labelsAt (min offset l.text.length + k)
              = ((l.labels.spans.filter fun a => a.span.start < offset ∧ offset < a.span.stop).map
                  (·.label)).reverse)
      ∧ ∀ offset u, (l.insert offset u).delete
          ⟨min offset l.text.length, min offset l.text.length + u.length⟩ = l := by
  intro l hn hw
  have h : l.labels.Kept := kept_changeAll kept_empty cs
  refine ⟨follows_edit h hn hw, fun offset u k hk => ⟨?_, labelsAt_insert h hw offset u hk⟩,
    delete_insert h hn⟩
  have htext : (l.insert offset u).text = (Edit.insert offset u).onList id l.text :=
    text_edit l (.insert offset u)
  rw [htext, Edit.getElem?_onList_insert hk, Option.map_id]
  rfl

/-- One label lies in another.  A deletion takes all of the inner one and the middle of the outer one.
What is put in between two characters of both has both labels, and goes without a trace. -/
theorem labels_follow_nested :
    let outer : Label := ⟨.error, "a.c", some 1, none⟩
    let inner : Label := ⟨.info, "b.c", none, none⟩
    let l := (ofText "a.c:1: x\n".toList).changeAll
      [.label ⟨⟨0, 6⟩, outer⟩, .label ⟨⟨2, 4⟩, inner⟩]
    LabelsNonempty l.labels.spans ∧ LabelsWithin l.text.length l.labels.spans
      ∧ (l.delete ⟨1, 4⟩).labels.spans = [⟨⟨0, 3⟩, outer⟩]
      ∧ l.Follows (.delete ⟨1, 4⟩)
      ∧ (l.insert 3 "yy".toList).labelsAt 4 = [inner, outer]
      ∧ (l.insert 3 "yy".toList).delete ⟨3, 5⟩ = l := by
  intro outer inner l
  have hn : LabelsNonempty l.labels.spans := by
    unfold LabelsNonempty
    decide
  have hw : LabelsWithin l.text.length l.labels.spans := by
    unfold LabelsWithin
    decide
  obtain ⟨hfollows, hnew, hback⟩ := labels_follow "a.c:1: x\n".toList
    [.label ⟨⟨0, 6⟩, outer⟩, .label ⟨⟨2, 4⟩, inner⟩] hn hw
  exact ⟨hn, hw, by decide, hfollows _, (hnew 3 "yy".toList 1 (by decide)).2, hback 3 "yy".toList⟩

end Transcript

end BuildLog
