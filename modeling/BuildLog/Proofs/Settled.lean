import BuildLog.Proofs.Flushing
import BuildLog.Proofs.InLines

/-!
# Settled — what is known between edits and readings

With rules that stay in their lines, a reading leaves a settled view: what is known is what a
reading of the text before the cursor finds.  A flush brings the cursor back to the edit or before
it, where it may be inside a line; the lines before it are still known rightly, and the labels behind
it are to be cleared.  The next reading goes back to the start of the line, and settles the view.
-/

namespace BuildLog

open Text

/-! ## 1. Views that are right -/

namespace View

/-- What is known of the text before `n` is what a reading of it finds. -/
structure RightBefore (n : Nat) (v : View) : Prop where
  findings : v.findings.filter (·.start < n)
    = reading v.settings v.pattern v.home (v.text.take n)
  labels : v.labels.filter (·.span.start < n)
    = readingLabels v.settings v.pattern v.home (v.text.take n)
  dirs : ∀ o, o < n → v.dirs o = dirsIn v.pattern v.home (v.text.take n) o

/-- Just the text before the cursor is known, and rightly so. -/
structure Settled (v : View) : Prop where
  pending : v.pendingClear = none
  rewound : v.rewound = false
  cursor_le : v.cursor ≤ v.text.length
  lineStart : Terminated (v.text.take v.cursor) ∨ v.finished = true
  findings : v.findings = reading v.settings v.pattern v.home (v.text.take v.cursor)
  labels : v.labels = readingLabels v.settings v.pattern v.home (v.text.take v.cursor)
  dirs : ∀ o, o < v.cursor → v.dirs o = dirsIn v.pattern v.home (v.text.take v.cursor) o

/-- The cursor was moved back, the labels from there on are to be cleared, and the lines before it
are known rightly. -/
structure Rewound (v : View) : Prop where
  pending : v.pendingClear = some v.cursor
  rewound : v.rewound = true
  cursor_le : v.cursor ≤ v.text.length
  inOrder : LabelsInOrder v.labels
  nonempty : LabelsNonempty v.labels
  within : LabelsWithin v.text.length v.labels
  before : ∀ f ∈ v.findings, f.start < v.cursor
  known : v.RightBefore v.lineStart

/-- Every edit and every reading leaves a view that is right. -/
def Right (v : View) : Prop := v.Settled ∨ v.Rewound

section Known

variable {v : View} {n : Nat}

theorem RightBefore.mono (hv : v.RightBefore n) (h : InLines v.settings v.pattern) {k : Nat}
    (hk : Terminated (v.text.take k)) (hkn : k ≤ n) (hkt : k ≤ v.text.length) :
    v.RightBefore k := by
  have hlen : (v.text.take k).length = k := List.length_take_of_le hkt
  have hsplit : v.text.take n = v.text.take k ++ (v.text.drop k).take (n - k) := by
    rw [← List.take_add, Nat.add_sub_cancel' hkn]
  have himp : ∀ m : Nat, decide (m < k) = true → decide (m < n) = true := by
    intro m hm
    simp only [decide_eq_true_eq] at hm ⊢
    omega
  refine ⟨?_, ?_, fun o ho => ?_⟩
  · rw [← filter_filter_of_imp fun f (_ : f ∈ v.findings) => himp f.start, hv.findings, hsplit]
    have := h.filter_reading v.home hk ((v.text.drop k).take (n - k))
    rwa [hlen] at this
  · rw [← filter_filter_of_imp fun l (_ : l ∈ v.labels) => himp l.span.start, hv.labels, hsplit]
    have := h.filter_readingLabels v.home hk ((v.text.drop k).take (n - k))
    rwa [hlen] at this
  · rw [hv.dirs o (by omega), hsplit, dirsIn_append_left h.dirs v.home hk _ (by omega)]

theorem RightBefore.dropFrom (hv : v.RightBefore n) {d : Nat} (hnd : n ≤ d) :
    (v.dropFrom d).RightBefore n where
  findings := by
    show (v.findings.filter (·.start < d)).filter (·.start < n) = _
    rw [filter_filter_of_imp, hv.findings]
    · rfl
    · intro f _ hf
      simp only [decide_eq_true_eq] at hf ⊢
      omega
  labels := hv.labels
  dirs o ho := by
    show v.dirsBefore d o = _
    unfold dirsBefore
    rw [if_neg (by omega), Nat.min_eq_left (by omega), hv.dirs o ho]
    rfl

/-- A view is settled if all that it knows lies before the cursor and is right. -/
theorem RightBefore.settled (hv : v.RightBefore v.cursor) (hp : v.pendingClear = none)
    (hr : v.rewound = false) (hc : v.cursor ≤ v.text.length)
    (hl : Terminated (v.text.take v.cursor) ∨ v.finished = true)
    (hf : ∀ f ∈ v.findings, f.start < v.cursor) (hs : ∀ l ∈ v.labels, l.span.start < v.cursor) :
    v.Settled where
  pending := hp
  rewound := hr
  cursor_le := hc
  lineStart := hl
  findings := by
    rw [← hv.findings, List.filter_eq_self.mpr fun f hf' => decide_eq_true (hf f hf')]
  labels := by
    rw [← hv.labels, List.filter_eq_self.mpr fun l hl' => decide_eq_true (hs l hl')]
  dirs := hv.dirs

theorem Settled.before (hv : v.Settled) : ∀ f ∈ v.findings, f.start < v.cursor := by
  intro f hf
  rw [hv.findings] at hf
  have hlt := start_lt_of_mem_reading hf
  rwa [List.length_take_of_le hv.cursor_le] at hlt

theorem Settled.within (hv : v.Settled) : LabelsWithin v.cursor v.labels := by
  rw [hv.labels]
  have hw : LabelsWithin _ (readingLabels v.settings v.pattern v.home (v.text.take v.cursor)) :=
    within_readingLabels _
  rwa [List.length_take_of_le hv.cursor_le] at hw

theorem Settled.nonempty (hv : v.Settled) (h : InLines v.settings v.pattern) :
    LabelsNonempty v.labels := by
  rw [hv.labels]
  exact h.nonempty_readingLabels _

theorem Settled.rightBefore (hv : v.Settled) (h : InLines v.settings v.pattern) :
    v.RightBefore v.cursor where
  findings := by
    rw [List.filter_eq_self.mpr fun f hf => decide_eq_true (hv.before f hf), hv.findings]
  labels := by
    rw [List.filter_eq_self.mpr, hv.labels]
    intro l hl
    have h₁ := hv.nonempty h l hl
    have h₂ := hv.within l hl
    exact decide_eq_true (by omega)
  dirs := hv.dirs

/-- Known labels end where the text that is known ends, or before. -/
theorem RightBefore.stop_le (hv : v.RightBefore n) {l : LabelledSpan} (hl : l ∈ v.labels)
    (hlt : l.span.start < n) : l.span.stop ≤ n := by
  have hmem : l ∈ v.labels.filter (·.span.start < n) :=
    List.mem_filter.mpr ⟨hl, decide_eq_true hlt⟩
  rw [hv.labels] at hmem
  have h₁ := within_readingLabels _ l hmem
  have h₂ := List.length_take_le n v.text
  omega

theorem terminated_take_lineStart (v : View) : Terminated (v.text.take v.lineStart) :=
  terminated_take_terminatedLength_take v.text v.cursor

theorem Right.cursor_le (hv : v.Right) : v.cursor ≤ v.text.length :=
  hv.elim Settled.cursor_le Rewound.cursor_le

theorem Right.before (hv : v.Right) : ∀ f ∈ v.findings, f.start < v.cursor :=
  hv.elim Settled.before Rewound.before

theorem Right.known (hv : v.Right) (h : InLines v.settings v.pattern) :
    v.RightBefore v.lineStart := by
  rcases hv with hv | hv
  · have hle := lineStart_le v
    exact (hv.rightBefore h).mono h (terminated_take_lineStart v) hle
      (Nat.le_trans hle hv.cursor_le)
  · exact hv.known

theorem Right.inOrder (hv : v.Right) (h : InLines v.settings v.pattern) :
    LabelsInOrder v.labels := by
  rcases hv with hv | hv
  · rw [hv.labels]
    exact h.inOrder_readingLabels _
  · exact hv.inOrder

theorem Right.nonempty (hv : v.Right) (h : InLines v.settings v.pattern) :
    LabelsNonempty v.labels :=
  hv.elim (fun hv => hv.nonempty h) Rewound.nonempty

theorem Right.within (hv : v.Right) : LabelsWithin v.text.length v.labels :=
  hv.elim (fun hv l hl => Nat.le_trans (hv.within l hl) hv.cursor_le) Rewound.within

end Known

/-! ## 2. Edits -/

section Edits

variable {v : View}

/-- A change of a text and its labels from the offset `c` on. -/
structure ChangedFrom (c : Nat) (v : View) (t : Text) (ls : List LabelledSpan) : Prop where
  text : t.take c = v.text.take c
  length : c ≤ t.length
  inOrder : LabelsInOrder ls
  nonempty : LabelsNonempty ls
  within : LabelsWithin t.length ls
  same : LabelsWithin c v.labels → ls = v.labels
  before : ∀ n, n ≤ c → (∀ l ∈ v.labels, l.span.start < n → l.span.stop ≤ c) →
    ls.filter (·.span.start < n) = v.labels.filter (·.span.start < n)

theorem RightBefore.change {n : Nat} (hv : v.RightBefore n) {t : Text} {ls : List LabelledSpan}
    (hc : v.ChangedFrom v.cursor t ls) (hn : n ≤ v.cursor)
    (hl : ls.filter (·.span.start < n) = v.labels.filter (·.span.start < n)) :
    RightBefore n { v with text := t, labels := ls } := by
  have htake : t.take n = v.text.take n := by
    have := congrArg (List.take n) hc.text
    rwa [List.take_take, List.take_take, Nat.min_eq_left hn] at this
  refine ⟨?_, ?_, fun o ho => ?_⟩
  · show v.findings.filter _ = reading v.settings v.pattern v.home (t.take n)
    rw [htake]
    exact hv.findings
  · show ls.filter _ = readingLabels v.settings v.pattern v.home (t.take n)
    rw [hl, htake]
    exact hv.labels
  · show v.dirs o = dirsIn v.pattern v.home (t.take n) o
    rw [htake]
    exact hv.dirs o ho

theorem Right.change (hv : v.Right) {t : Text} {ls : List LabelledSpan}
    (hc : v.ChangedFrom v.cursor t ls) : Right { v with text := t, labels := ls } := by
  rcases hv with hv | hv
  · left
    refine ⟨hv.pending, hv.rewound, hc.length, ?_, ?_, ?_, ?_⟩
    · show Terminated (t.take v.cursor) ∨ _
      rw [hc.text]
      exact hv.lineStart
    · show v.findings = reading v.settings v.pattern v.home (t.take v.cursor)
      rw [hc.text]
      exact hv.findings
    · show ls = readingLabels v.settings v.pattern v.home (t.take v.cursor)
      rw [hc.text, hc.same hv.within]
      exact hv.labels
    · show ∀ o, o < v.cursor → v.dirs o = dirsIn v.pattern v.home (t.take v.cursor) o
      rw [hc.text]
      exact hv.dirs
  · right
    have hline : lineStart { v with text := t, labels := ls } = v.lineStart := by
      show terminatedLength (t.take v.cursor) = terminatedLength (v.text.take v.cursor)
      rw [hc.text]
    refine ⟨hv.pending, hv.rewound, hc.length, hc.inOrder, hc.nonempty, hc.within, hv.before, ?_⟩
    rw [hline]
    exact hv.known.change hc (lineStart_le v) (hc.before _ (lineStart_le v) fun l hl hlt =>
      Nat.le_trans (hv.known.stop_le hl hlt) (lineStart_le v))

section Transcripts

variable {l : Transcript} (hv : v.Right) (h : InLines v.settings v.pattern)
  (htext : v.text = l.text) (hlabels : v.labels = l.labels.spans)
include hv h htext hlabels

theorem Right.changedFrom_append (t : Text) :
    v.ChangedFrom v.cursor (l.append t).2.text (l.append t).2.labels.spans where
  text := by
    show (l.text ++ t).take v.cursor = _
    rw [← htext, List.take_append_of_le_length hv.cursor_le]
  length := by
    show v.cursor ≤ (l.text ++ t).length
    have := hv.cursor_le
    rw [List.length_append, ← htext]
    omega
  inOrder := hlabels ▸ hv.inOrder h
  nonempty := hlabels ▸ hv.nonempty h
  within := by
    show LabelsWithin (l.text ++ t).length l.labels.spans
    intro s hs
    have := hv.within s (hlabels ▸ hs)
    rw [List.length_append, ← htext]
    omega
  same _ := hlabels.symm
  before n _ _ := by rw [hlabels]; rfl

theorem Right.changedFrom_insert {offset : Nat} (hc : v.cursor ≤ offset) (t : Text) :
    v.ChangedFrom v.cursor (l.insert offset t).text (l.insert offset t).labels.spans := by
  have hpos : v.cursor ≤ min offset l.text.length :=
    Nat.le_min.mpr ⟨hc, htext ▸ hv.cursor_le⟩
  have hwithin := Transcript.within_insert (l := l) (htext ▸ hlabels ▸ hv.within) offset t
  refine ⟨?_, ?_, ?_, ?_, hwithin, fun hs => ?_, fun n hn hs => ?_⟩
  · show (l.text.take (min offset l.text.length) ++ t
      ++ l.text.drop (min offset l.text.length)).take v.cursor = _
    have hlen : v.cursor ≤ (l.text.take (min offset l.text.length)).length := by
      rw [List.length_take]
      omega
    rw [List.append_assoc, List.take_append_of_le_length hlen, List.take_take,
      Nat.min_eq_left hpos, htext]
  · show v.cursor ≤ (l.text.take (min offset l.text.length) ++ t
      ++ l.text.drop (min offset l.text.length)).length
    rw [List.length_append, List.length_append, List.length_take]
    omega
  · rw [spans_insert, ← hlabels]
    exact inOrder_labelsAfterInsertion (hv.inOrder h)
  · rw [spans_insert, ← hlabels]
    exact nonempty_labelsAfterInsertion (hv.nonempty h)
  · rw [spans_insert, ← hlabels]
    exact labelsAfterInsertion_of_within (hv.nonempty h) fun s hs' => Nat.le_trans (hs s hs') hpos
  · rw [spans_insert, ← hlabels]
    exact filter_labelsAfterInsertion (Nat.le_trans hn hpos) fun s hs' hlt =>
      Nat.le_trans (hs s hs' hlt) hpos

theorem Right.changedFrom_delete {span : Span} (hc : v.cursor ≤ span.start) :
    v.ChangedFrom v.cursor (l.delete span).text (l.delete span).labels.spans := by
  have hcursor := hv.cursor_le
  -- taking nothing out leaves the log as it is
  by_cases hempty : (l.clamp span).start = (l.clamp span).stop
  · have hsame : l.delete span = l := if_pos hempty
    rw [hsame, ← htext, ← hlabels]
    exact ⟨rfl, hcursor, hv.inOrder h, hv.nonempty h, hv.within, fun _ => rfl, fun _ _ _ => rfl⟩
  · have hpos : v.cursor ≤ (l.clamp span).start := Nat.le_min.mpr ⟨hc, htext ▸ hcursor⟩
    have hss : (l.clamp span).start ≤ (l.clamp span).stop := Nat.le_max_left _ _
    have hlen : v.cursor ≤ (l.text.take (l.clamp span).start).length := by
      have : (l.clamp span).start ≤ l.text.length := Nat.min_le_right _ _
      rw [List.length_take]
      omega
    have hwithin := Transcript.within_delete (l := l) (htext ▸ hlabels ▸ hv.within) span
    have hdelete : l.delete span = ⟨l.text.take (l.clamp span).start
        ++ l.text.drop (l.clamp span).stop,
        l.labels.moveForDeletion (l.clamp span).start (l.clamp span).stop⟩ := if_neg hempty
    have hspans : (l.delete span).labels.spans
        = labelsAfterDeletion (l.clamp span).start (l.clamp span).stop v.labels := by
      rw [hdelete, hlabels]
      rfl
    refine ⟨?_, ?_, ?_, ?_, hwithin, fun hs => ?_, fun n hn hs => ?_⟩
    · rw [hdelete, List.take_append_of_le_length hlen, List.take_take, Nat.min_eq_left hpos, htext]
    · rw [hdelete]
      show v.cursor ≤ (l.text.take (l.clamp span).start ++ l.text.drop (l.clamp span).stop).length
      rw [List.length_append]
      omega
    · rw [hspans]
      exact inOrder_labelsAfterDeletion
    · rw [hspans]
      exact nonempty_labelsAfterDeletion hss (hv.nonempty h)
    · rw [hspans]
      exact labelsAfterDeletion_of_within (hv.inOrder h) fun s hs' => Nat.le_trans (hs s hs') hpos
    · rw [hspans]
      exact filter_labelsAfterDeletion (Nat.le_trans hn hpos) hss (hv.inOrder h) fun s hs' hlt =>
        Nat.le_trans (hs s hs' hlt) hpos

end Transcripts

/-- A flush leaves a view right, and the cursor no further than where it was told of an edit. -/
theorem Right.flushFrom (hv : v.Right) (h : InLines v.settings v.pattern) (k : Nat) :
    (v.flushFrom k).Right ∧ (v.flushFrom k).cursor ≤ k := by
  obtain ⟨d, hd⟩ : ∃ d, doubtfulFrom k v.findings.reverse = d := ⟨_, rfl⟩
  have hdk : d ≤ k := hd ▸ doubtfulFrom_le k v.findings.reverse
  by_cases hlt : d < v.cursor
  · -- no label before the cursor is to be cleared
    have hpending : ∀ p, v.pendingClear = some p → v.cursor ≤ p := by
      intro p hp
      rcases hv with hv | hv
      · rw [hv.pending] at hp
        cases hp
      · rw [hv.pending] at hp
        exact Nat.le_of_eq (Option.some.inj hp)
    rw [flushFrom_of_lt hpending hd hlt]
    refine ⟨.inr ⟨rfl, rfl, ?_, hv.inOrder h, hv.nonempty h, hv.within, fun f hf => ?_, ?_⟩, hdk⟩
    · exact Nat.le_trans (Nat.le_of_lt hlt) hv.cursor_le
    · simpa using (List.mem_filter.mp hf).2
    · -- of the lines that were known rightly, those before the one with `d` in it still are
      have hterm : Terminated (v.text.take (terminatedLength (v.text.take d))) :=
        terminated_take_terminatedLength_take v.text d
      have hle : terminatedLength (v.text.take d) ≤ d := terminatedLength_take_le v.text d
      have hcursor := hv.cursor_le
      have hline := le_terminatedLength_take hterm (by omega) hcursor
      obtain ⟨h₁, h₂, h₃⟩ := ((hv.known h).mono h hterm hline (by omega)).dropFrom hle
      exact ⟨h₁, h₂, h₃⟩
  · rw [flushFrom_of_le hd (by omega) fun f hf => by
      have := hv.before f hf
      omega]
    exact ⟨hv, by omega⟩

end Edits

/-! ## 3. Readings -/

section Readings

variable {v : View}

/-- No label is to be cleared behind the cursor, and the lines before it are known rightly. -/
structure Cleared (v : View) : Prop where
  pending : v.pendingClear = none
  cursor_le : v.cursor ≤ v.text.length
  nonempty : LabelsNonempty v.labels
  within : LabelsWithin v.cursor v.labels
  before : ∀ f ∈ v.findings, f.start < v.cursor
  known : v.RightBefore v.lineStart

theorem Settled.cleared (hv : v.Settled) (h : InLines v.settings v.pattern) : v.Cleared :=
  ⟨hv.pending, hv.cursor_le, hv.nonempty h, hv.within, hv.before, Right.known (.inl hv) h⟩

theorem Rewound.settle (hv : v.Rewound) : v.settle.Cleared ∧ v.settle.rewound = true := by
  have hsettle : v.settle = { v with
      labels := v.clearLabels v.cursor (max v.text.length v.cursor), pendingClear := none } := by
    unfold View.settle
    rw [hv.pending, Nat.min_eq_left hv.cursor_le]
  rw [hsettle]
  refine ⟨⟨rfl, hv.cursor_le, fun l hl => hv.nonempty l (List.mem_filter.mp hl).1, fun l hl => ?_,
    hv.before, ?_⟩, hv.rewound⟩
  · obtain ⟨hl, hmeets⟩ := List.mem_filter.mp hl
    have h₁ := hv.nonempty l hl
    have h₂ := hv.within l hl
    rcases Span.not_meets_iff.mp hmeets with hstop | hstart
    · exact hstop
    · omega
  · refine ⟨hv.known.findings, ?_, hv.known.dirs⟩
    have hlabels := hv.known.labels
    show (v.clearLabels v.cursor (max v.text.length v.cursor)).filter
      (·.span.start < v.lineStart)
        = readingLabels v.settings v.pattern v.home (v.text.take v.lineStart)
    -- a label that is known rightly ends before the cursor, so it is not cleared
    rw [clearLabels, List.filter_filter, ← hlabels]
    apply List.filter_congr
    intro l hl
    by_cases hlt : l.span.start < v.lineStart
    · have hstop := hv.known.stop_le hl hlt
      have hle := lineStart_le v
      rw [Span.not_meets_iff.mpr (.inl (by omega)), Bool.and_true]
    · rw [decide_eq_false hlt, Bool.false_and]

/-- Of the labels before the cursor, those of the cursor's line are cleared. -/
theorem Cleared.clearLabels_lineStart (hv : v.Cleared) :
    v.clearLabels v.lineStart v.cursor = v.labels.filter (·.span.start < v.lineStart) := by
  have hle := lineStart_le v
  apply List.filter_congr
  intro l hl
  have h₁ := hv.nonempty l hl
  have h₂ := hv.within l hl
  by_cases hlt : l.span.start < v.lineStart
  · rw [Span.not_meets_iff.mpr (.inl (hv.known.stop_le hl hlt)), decide_eq_true hlt]
  · rw [decide_eq_false hlt, ← Bool.not_eq_true, Span.not_meets_iff]
    omega

theorem Cleared.snap_of_insideLine (hv : v.Cleared) (hin : v.insideLine = true) :
    v.snap.Settled := by
  have hle := lineStart_le v
  have hsnap : v.snap = { v.dropFrom v.lineStart with
      cursor := v.lineStart
      rewound := false
      labels := v.labels.filter (·.span.start < v.lineStart) } := by
    unfold View.snap
    rw [hin, if_pos rfl, hv.clearLabels_lineStart]
  obtain ⟨h₁, h₂, h₃⟩ := hv.known.dropFrom (Nat.le_refl v.lineStart)
  rw [hsnap]
  refine RightBefore.settled ⟨h₁, ?_, h₃⟩ hv.pending rfl (Nat.le_trans hle hv.cursor_le)
    (.inl (terminated_take_lineStart v)) (fun f hf => ?_) fun l hl => ?_
  · rw [← h₂, List.filter_filter]
    apply List.filter_congr
    intro l _
    exact Bool.and_self _
  · simpa using (List.mem_filter.mp hf).2
  · simpa using (List.mem_filter.mp hl).2

theorem Cleared.settled (hv : v.Cleared) (hline : Terminated (v.text.take v.cursor)) :
    Settled { v with rewound := false } := by
  have hstart : v.lineStart = v.cursor := hline.trans (List.length_take_of_le hv.cursor_le)
  obtain ⟨h₁, h₂, h₃⟩ := hv.known
  rw [hstart] at h₁ h₂ h₃
  refine RightBefore.settled ⟨h₁, h₂, h₃⟩ hv.pending rfl hv.cursor_le (.inl hline) hv.before
    fun l hl => ?_
  have h₄ := hv.nonempty l hl
  have h₅ := hv.within l hl
  show l.span.start < v.cursor
  omega

theorem Cleared.snap (hv : v.Cleared) (hs : v.rewound = true ∨ v.Settled) : v.snap.Settled := by
  cases hin : v.insideLine with
  | true => exact hv.snap_of_insideLine hin
  | false =>
    have hsnap : v.snap = { v with rewound := false } := by
      unfold View.snap
      rw [hin]
      rfl
    rw [hsnap]
    rcases hs with hrew | hs
    · -- at the end of the text, the cursor is inside a line unless the text ends there with one
      rcases (insideLine_eq_false hv.cursor_le).mp hin with hline | ⟨-, hrew'⟩
      · exact hv.settled hline
      · rw [hrew] at hrew'
        cases hrew'
    · exact ⟨hs.pending, rfl, hs.cursor_le, hs.lineStart, hs.findings, hs.labels, hs.dirs⟩

/-- A right view is settled before it is read from. -/
theorem Right.settle_snap (hv : v.Right) (h : InLines v.settings v.pattern) :
    v.settle.snap.Settled := by
  rcases hv with hv | hv
  · rw [settle_of_pending hv.pending hv.cursor_le]
    exact (hv.cleared h).snap (.inr hv)
  · exact hv.settle.1.snap (.inl hv.settle.2)

/-- With rules of one line, the cursor is left where the reading stops. -/
theorem cursor_readOn (h : v.settings.rules.maxLines = 1) (upto : Nat) :
    (v.readOn upto).2.cursor = v.readEnd upto := by
  unfold readOn readEnd
  split
  · rename_i hnil
    rw [hnil]
    rfl
  · show v.cursor + (if _ then _ else _) = _
    split
    · rfl
    · have hle := certainLength_le v (v.readable upto) v.settings.rules.maxLines
      -- the last lines of a rule of one line are none
      have htail : (v.readable upto).length ≤ certainLength v.settings.rules.maxLines
          (v.readable upto) v.cursor (v.found (v.readable upto)) := by
        unfold certainLength
        rw [h, Nat.sub_self, tailStart_zero]
        dsimp only
        split
        · exact Nat.le_refl _
        · exact Nat.le_max_left _ _
      omega

section Read

variable (hv : v.Settled) (h : InLines v.settings v.pattern)
include hv

theorem Settled.kept_eq :
    v.kept = reading v.settings v.pattern v.home (v.text.take v.cursor) := by
  rw [kept, List.filter_eq_self.mpr fun f hf => decide_eq_true (hv.before f hf), hv.findings]

theorem Settled.knows (hline : Terminated (v.text.take v.cursor)) :
    v.Knows (v.text.take v.cursor) := by
  have hlen : (v.text.take v.cursor).length = v.cursor := List.length_take_of_le hv.cursor_le
  exact ⟨hline, hlen.symm, fun o ho => hv.dirs o (by omega)⟩

include h

/-- What is known and what is found behind it are what a reading of both texts finds. -/
theorem Settled.kept_append_found (hline : Terminated (v.text.take v.cursor)) (upto : Nat) :
    v.kept ++ v.found (v.readable upto)
      = reading v.settings v.pattern v.home (v.text.take (v.readEnd upto)) := by
  rw [take_readEnd, h.reading_append hline, (hv.knows hline).found h.dirs, hv.kept_eq]

/-- The labels of what is found are put behind those that are there. -/
theorem Settled.labelAll_found (hline : Terminated (v.text.take v.cursor)) (upto : Nat) :
    labelAll (v.found (v.readable upto)) (v.clearLabels v.cursor v.text.length)
      = readingLabels v.settings v.pattern v.home (v.text.take (v.readEnd upto)) := by
  have hclear : v.clearLabels v.cursor v.text.length = v.labels := by
    rw [clearLabels, List.filter_eq_self]
    exact fun l hl => Span.not_meets_iff.mpr (.inl (hv.within l hl))
  have hlabels : v.labels ++ (v.found (v.readable upto)).map Finding.labelledSpan
      = readingLabels v.settings v.pattern v.home (v.text.take (v.readEnd upto)) := by
    rw [readingLabels, ← hv.kept_append_found h hline, List.map_append, hv.kept_eq, hv.labels,
      readingLabels]
  rw [hclear, labelAll_of_inOrder, hlabels]
  rw [hlabels]
  exact h.inOrder_readingLabels _

theorem Settled.readOn (hready : v.Ready) (upto : Nat) : (v.readOn upto).2.Settled := by
  have hcursor := cursor_readOn h.maxLines upto
  unfold View.readOn at hcursor ⊢
  split
  · exact hv
  · rename_i hnil
    rw [if_neg hnil] at hcursor
    have hend := readEnd_le hnil
    have hline : Terminated (v.text.take v.cursor) := hready.lineStart.resolve_right (by omega)
    refine ⟨hv.pending, hv.rewound, ?_, ?_, ?_, ?_, ?_⟩
    · rw [hcursor]
      exact Nat.le_trans hend.2 (Nat.min_le_right _ _)
    · rw [hcursor]
      show Terminated (v.text.take (v.readEnd upto)) ∨ v.finished = true
      -- only at the end of a log that will not grow does a reading stop inside a line
      cases hat : v.atEnd upto with
      | true =>
        right
        unfold atEnd at hat
        exact (Bool.and_eq_true_iff.mp hat).1
      | false =>
        left
        rw [take_readEnd]
        exact hline.append (terminated_readable hat)
    · rw [hcursor]
      exact hv.kept_append_found h hline upto
    · rw [hcursor]
      exact hv.labelAll_found h hline upto
    · rw [hcursor]
      intro o ho
      show v.dirsWith (v.readable upto) o
        = dirsIn v.pattern v.home (v.text.take (v.readEnd upto)) o
      have hlen : (v.text.take v.cursor).length = v.cursor := List.length_take_of_le hv.cursor_le
      rw [take_readEnd]
      refine (hv.knows hline).dirsWith h.dirs _ ?_
      rw [hlen]
      exact ho

end Read

theorem Right.advance (hv : v.Right) (h : InLines v.settings v.pattern) (upto : Nat) :
    (v.advance upto).2.Settled := by
  have hsame := sameSetting_snap v.settle
  exact (hv.settle_snap h).readOn (hsame.settings ▸ hsame.pattern ▸ h) (ready_settle_snap v) upto

/-- Where the part of a text ends that is read in the end. -/
def lastEnd (v : View) : Nat := if v.finished then v.text.length else v.text.terminatedLength

/-- Reading all there is brings the cursor to the end of the part that can be read. -/
theorem Right.cursor_advance (hv : v.Right) (h : InLines v.settings v.pattern) :
    (v.advance v.text.length).2.cursor = v.lastEnd := by
  have hsame := sameSetting_snap v.settle
  have hmax : v.settle.snap.settings.rules.maxLines = 1 := by
    rw [hsame.settings]
    exact h.maxLines
  have hsettled := hv.settle_snap h
  have hready := ready_settle_snap v
  have hfin : v.settle.snap.finished = v.finished := hsame.finished
  have htext : v.settle.snap.text = v.text := text_snap v.settle
  rw [View.advance, cursor_readOn hmax, lastEnd, ← hfin, ← htext]
  -- from here on, only what the reading begins with matters
  generalize v.settle.snap = u at hsettled hready
  cases hrun : u.finished with
  | true =>
    have hend : u.atEnd u.text.length = true := by
      unfold atEnd
      simp [hrun]
    exact readEnd_of_atEnd hend hready.cursor_le
  | false =>
    have hend : u.atEnd u.text.length = false := by
      unfold atEnd
      simp [hrun]
    have hline : Terminated (u.text.take u.cursor) := by
      rcases hsettled.lineStart with hline | hfin'
      · exact hline
      · rw [hrun] at hfin'
        cases hfin'
    have hlen : (u.text.take u.cursor).length = u.cursor :=
      List.length_take_of_le hready.cursor_le
    have hread := length_readable u.text.length u
    rw [hend, if_neg Bool.false_ne_true, Nat.min_self, slice, List.take_length] at hread
    rw [readEnd, hread, if_neg Bool.false_ne_true]
    conv_rhs => rw [← List.take_append_drop u.cursor u.text, terminatedLength_append hline, hlen]

theorem Right.advance_all (hv : v.Right) (h : InLines v.settings v.pattern) :
    (v.advance v.text.length).2.findings
        = reading v.settings v.pattern v.home (v.text.take v.lastEnd)
      ∧ (v.advance v.text.length).2.labels
        = readingLabels v.settings v.pattern v.home (v.text.take v.lastEnd) := by
  have hsame := sameSetting_advance v.text.length v
  have hsettled := hv.advance h v.text.length
  have hfindings := hsettled.findings
  have hlabels := hsettled.labels
  rw [hsame.settings, hsame.pattern, hsame.home, text_advance, hv.cursor_advance h] at hfindings hlabels
  exact ⟨hfindings, hlabels⟩

end Readings

end View

end BuildLog
