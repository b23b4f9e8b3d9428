import BuildLog.Proofs.Letters
import BuildLog.Proofs.Runs

/-!
# Flushing — a flush forgets what was read behind it

Two parses of one log that agree on everything before an offset are the same parse once both were
flushed there and read on, however far each had read behind the offset, and whatever it had found.
-/

namespace BuildLog

/-! ## 1. Agreement below an offset -/

namespace View

/-- Two views of one text that say the same of what begins before `k`. -/
structure AgreeBelow (k : Nat) (v w : View) : Prop where
  settings : v.settings = w.settings
  pattern : v.pattern = w.pattern
  finished : v.finished = w.finished
  text : v.text = w.text
  home : v.home = w.home
  dirs : ∀ o, o < k → v.dirs o = w.dirs o
  findings : v.findings.filter (·.start < k) = w.findings.filter (·.start < k)
  labels : v.labels.filter (·.span.start < k) = w.labels.filter (·.span.start < k)

theorem doubtfulFrom_le (offset : Nat) (fs : List Finding) : doubtfulFrom offset fs ≤ offset := by
  induction fs generalizing offset with
  | nil => exact Nat.le_refl _
  | cons f fs ih =>
    rw [doubtfulFrom]
    split
    · exact ih offset
    · split
      · have := ih f.start
        omega
      · exact Nat.le_refl _

/-- A flush does nothing, or it drops all from the place that it goes back to. -/
theorem flushFrom_cases (v : View) (offset : Nat) {d : Nat}
    (hd : doubtfulFrom offset v.findings.reverse = d) :
    (v.flushFrom offset = v ∧ v.cursor ≤ d ∧ ∀ f ∈ v.findings, f.start < d)
      ∨ ∃ r q, v.flushFrom offset
          = { v.dropFrom d with cursor := min d v.cursor, rewound := r, pendingClear := some q }
        ∧ ∀ x, x ≤ q ↔ x ≤ d ∧ ∀ p, v.pendingClear = some p → x ≤ p := by
  unfold flushFrom
  dsimp only
  rw [hd]
  split
  · rename_i hdone
    simp only [Bool.and_eq_true, Bool.not_eq_true', List.any_eq_false, decide_eq_true_eq,
      Nat.not_le] at hdone
    exact .inl ⟨rfl, hdone.2, hdone.1⟩
  · have hcursor : (if d < v.cursor then d else v.cursor) = min d v.cursor := by
      split <;> omega
    rw [hcursor]
    refine .inr ⟨_, _, rfl, fun x => ?_⟩
    cases v.pendingClear with
    | none => simp
    | some p =>
      dsimp only
      rw [Nat.le_min, and_comm]
      simp

theorem doubtfulFrom_filter {k offset : Nat} (h : offset ≤ k) (fs : List Finding) :
    doubtfulFrom offset (fs.filter (·.start < k)) = doubtfulFrom offset fs := by
  induction fs generalizing offset with
  | nil => rfl
  | cons f fs ih =>
    -- a finding from `k` on is behind the offset, and passed over
    by_cases hf : f.start < k
    · rw [List.filter_cons_of_pos (by simpa using hf), doubtfulFrom, doubtfulFrom, ih h,
        ih (Nat.le_of_lt hf)]
    · rw [List.filter_cons_of_neg (by simpa using hf), doubtfulFrom, if_pos (by omega), ih h]

section Flush

variable {v w : View} {k : Nat}

theorem clearLabels_of_le {d n : Nat} (hd : d ≤ k) (hn : LabelsNonempty v.labels)
    (hw : LabelsWithin n v.labels) :
    v.clearLabels d (max n d)
      = (v.labels.filter (·.span.start < k)).filter fun l => !l.span.meets d (max n d) := by
  rw [filter_filter_of_imp]
  · rfl
  · intro l hl hmeets
    have h₁ := hn l hl
    have h₂ := hw l hl
    rw [Span.not_meets_iff] at hmeets
    exact decide_eq_true (by omega)

/-- A flush of what was read. -/
theorem flushFrom_of_lt (hp : ∀ p, v.pendingClear = some p → v.cursor ≤ p) {d : Nat}
    (hd : doubtfulFrom k v.findings.reverse = d) (hlt : d < v.cursor) :
    v.flushFrom k =
      { v.dropFrom d with cursor := d, rewound := true, pendingClear := some d } := by
  have hgo : ¬ (!(v.findings.any (d ≤ ·.start)) && decide (v.cursor ≤ d)) = true := by
    have hle : decide (v.cursor ≤ d) = false := decide_eq_false (by omega)
    rw [hle, Bool.and_false]
    exact Bool.false_ne_true
  unfold flushFrom
  dsimp only
  rw [hd, if_neg hgo]
  simp only [hlt, if_true, decide_true, Bool.or_true]
  cases hpc : v.pendingClear with
  | none => rfl
  | some p =>
    -- the earlier flush was at the cursor or behind it
    have hmin : min p d = d := by
      have := hp p hpc
      omega
    dsimp only
    rw [hmin]

/-- A flush of what was not read, and in which there is no finding. -/
theorem flushFrom_of_le {d : Nat} (hd : doubtfulFrom k v.findings.reverse = d) (hle : v.cursor ≤ d)
    (hf : ∀ f ∈ v.findings, f.start < d) : v.flushFrom k = v := by
  have hnone : v.findings.any (fun f => decide (d ≤ f.start)) = false := by
    rw [List.any_eq_false]
    intro f hfm
    have := hf f hfm
    simpa using this
  unfold flushFrom
  dsimp only
  rw [hd, hnone, if_pos (by simpa using hle)]

/-- What is left after a flush behind which the cursor was. -/
theorem settle_flushFrom (hc : k < v.cursor) (hp : ∀ p, v.pendingClear = some p → v.cursor ≤ p)
    {d : Nat} (hd : doubtfulFrom k v.findings.reverse = d) :
    (v.flushFrom k).settle =
      { v with
        dirs := v.dirsBefore d
        cursor := min d v.text.length
        findings := v.findings.filter (·.start < d)
        pendingClear := none
        rewound := true
        labels := v.clearLabels d (max v.text.length d) } := by
  have hdk : d ≤ k := hd ▸ doubtfulFrom_le k v.findings.reverse
  rw [flushFrom_of_lt hp hd (by omega)]
  rfl

/-- A flush leaves nothing of what was behind it. -/
theorem AgreeBelow.settle_flushFrom_eq (h : AgreeBelow k v w)
    (hv : k < v.cursor) (hw : k < w.cursor)
    (hvp : ∀ p, v.pendingClear = some p → v.cursor ≤ p)
    (hwp : ∀ p, w.pendingClear = some p → w.cursor ≤ p)
    (hvn : LabelsNonempty v.labels) (hwn : LabelsNonempty w.labels)
    (hvl : LabelsWithin v.text.length v.labels) (hwl : LabelsWithin w.text.length w.labels) :
    (v.flushFrom k).settle = (w.flushFrom k).settle := by
  -- both flushes go back to one offset: they look only at findings that begin before `k`
  have hdoubt : doubtfulFrom k v.findings.reverse = doubtfulFrom k w.findings.reverse := by
    rw [← doubtfulFrom_filter (Nat.le_refl k) v.findings.reverse,
      ← doubtfulFrom_filter (Nat.le_refl k) w.findings.reverse,
      List.filter_reverse, List.filter_reverse, h.findings]
  have hdk : doubtfulFrom k w.findings.reverse ≤ k := doubtfulFrom_le k _
  rw [settle_flushFrom hv hvp hdoubt, settle_flushFrom hw hwp rfl]
  generalize doubtfulFrom k w.findings.reverse = d at hdk
  have hdirs : v.dirsBefore d = w.dirsBefore d := by
    funext o
    unfold dirsBefore
    by_cases hd : d = 0
    · rw [if_pos hd, if_pos hd, h.home]
    · rw [if_neg hd, if_neg hd, h.dirs _ (by omega)]
  have hfindings : v.findings.filter (·.start < d) = w.findings.filter (·.start < d) := by
    have himp : ∀ fs : List Finding, ∀ f ∈ fs, decide (f.start < d) = true →
        decide (f.start < k) = true := by
      intro fs f _ hf
      simp only [decide_eq_true_eq] at hf ⊢
      omega
    rw [← filter_filter_of_imp (himp v.findings), h.findings, filter_filter_of_imp (himp w.findings)]
  -- no label that stays reaches behind `k`, since those from `d` on are cleared
  have hlabels : v.clearLabels d (max v.text.length d) = w.clearLabels d (max w.text.length d) := by
    rw [clearLabels_of_le hdk hvn hvl, clearLabels_of_le hdk hwn hwl, h.labels, h.text]
  rw [hdirs, hfindings, hlabels, h.text, h.settings, h.pattern, h.home, h.finished]

end Flush

end View

/-! ## 2. States -/

namespace Parse

/-- Two states over one text that say the same of what begins before `k`: they have the same
messages, directory events and labels there, and the same directories before the first event. -/
structure State.AgreeBelow (k : Nat) (s u : State) : Prop where
  settings : s.parse.settings = u.parse.settings
  pattern : s.parse.trail.pattern = u.parse.trail.pattern
  finished : s.parse.finished = u.parse.finished
  text : s.log.text = u.log.text
  home : s.parse.trail.base.paths = u.parse.trail.base.paths
  events : (s.parse.trail.events.filter (·.1 < k)).map (fun e => (e.1, e.2.paths))
    = (u.parse.trail.events.filter (·.1 < k)).map (fun e => (e.1, e.2.paths))
  messages : (s.parse.messages.filter (·.start < k)).map Message.finding
    = (u.parse.messages.filter (·.start < k)).map Message.finding
  labels : s.log.labels.spans.filter (·.span.start < k)
    = u.log.labels.spans.filter (·.span.start < k)

/-- The directories at an offset are known from the events before any later one. -/
theorem paths_stackAt (t : DirectoryTrail) {o k : Nat} (h : o < k) :
    (t.stackAt o).paths = ((((t.events.filter (·.1 < k)).map fun e => (e.1, e.2.paths)).filter
      (·.1 ≤ o)).getLast?.map (·.2)).getD t.base.paths := by
  have himp : ∀ e ∈ t.events, decide (e.1 ≤ o) = true → decide (e.1 < k) = true := by
    intro e _ he
    simp only [decide_eq_true_eq] at he ⊢
    omega
  rw [List.filter_map, List.getLast?_map]
  show _ = ((((t.events.filter (·.1 < k)).filter (·.1 ≤ o)).getLast?.map _).map _).getD _
  rw [filter_filter_of_imp himp, DirectoryTrail.stackAt]
  cases (t.events.filter (·.1 ≤ o)).getLast? with
  | none => rfl
  | some e => rfl

theorem State.AgreeBelow.view {k : Nat} {s u : State} (h : s.AgreeBelow k u) :
    s.view.AgreeBelow k u.view := by
  refine ⟨h.settings, h.pattern, h.finished, h.text, h.home, fun o ho => ?_, ?_, h.labels⟩
  · show (s.parse.trail.stackAt o).paths = (u.parse.trail.stackAt o).paths
    rw [paths_stackAt _ ho, paths_stackAt _ ho, h.events, h.home]
  · have hmap := fun ms => map_finding_filter ms fun start => decide (start < k)
    show (s.parse.messages.map _).filter _ = (u.parse.messages.map _).filter _
    rw [← hmap, ← hmap]
    exact h.messages

/-- Two readings of one log leave its text and what it is read with alone. -/
theorem agreeBelow_of_reads {s : State} (h : s.Sound) (disk : Disk) (m n : Nat) {k : Nat}
    (hevents : ((s.act (.read disk m)).parse.trail.events.filter (·.1 < k)).map
        (fun e => (e.1, e.2.paths))
      = ((s.act (.read disk n)).parse.trail.events.filter (·.1 < k)).map
        (fun e => (e.1, e.2.paths)))
    (hmessages : ((s.act (.read disk m)).parse.messages.filter (·.start < k)).map Message.finding
      = ((s.act (.read disk n)).parse.messages.filter (·.start < k)).map Message.finding)
    (hlabels : (s.act (.read disk m)).log.labels.spans.filter (·.span.start < k)
      = (s.act (.read disk n)).log.labels.spans.filter (·.span.start < k)) :
    (s.act (.read disk m)).AgreeBelow k (s.act (.read disk n)) := by
  have hm := sameSetting_read h disk m
  have hn := sameSetting_read h disk n
  have htext : ∀ n, (s.act (.read disk n)).view.text = s.view.text := by
    intro n
    rw [view_read h]
    exact View.text_advance n s.view
  exact ⟨hm.settings.trans hn.settings.symm, hm.pattern.trans hn.pattern.symm,
    hm.finished.trans hn.finished.symm, (htext m).trans (htext n).symm,
    hm.home.trans hn.home.symm, hevents, hmessages, hlabels⟩

/-- Two states that agree before an offset behind which both have read say the same of the log
once both were flushed there and read on. -/
theorem flush_forgets {k n : Nat} {s u : State} (hs : s.Reachable) (hu : u.Reachable)
    (h : s.AgreeBelow k u) (hsc : k < s.parse.cursor) (huc : k < u.parse.cursor)
    (hsn : LabelsNonempty s.log.labels.spans) (hun : LabelsNonempty u.log.labels.spans)
    (disk disk' : Disk) :
    (advance disk n (s.flush k)).2.parse.cursor = (advance disk' n (u.flush k)).2.parse.cursor
      ∧ (advance disk n (s.flush k)).2.parse.messages.map Message.finding
        = (advance disk' n (u.flush k)).2.parse.messages.map Message.finding
      ∧ (advance disk n (s.flush k)).2.log.labels.spans
        = (advance disk' n (u.flush k)).2.log.labels.spans := by
  obtain ⟨hss, hsl, hsp⟩ := hs.proper
  obtain ⟨hus, hul, hup⟩ := hu.proper
  have hview : (advance disk n (s.flush k)).2.view = (advance disk' n (u.flush k)).2.view := by
    rw [(view_advance (hss.flush k) disk n).2.1, (view_advance (hus.flush k) disk' n).2.1,
      view_flush, view_flush, View.advance, View.advance,
      h.view.settle_flushFrom_eq hsc huc hsp hup hsn hun hsl hul]
  exact ⟨congrArg View.cursor hview, congrArg View.findings hview, congrArg View.labels hview⟩

/-- Two parses of three lines, of which one read all and the other two, are flushed in the second
line. -/
theorem flush_forgets_capitals :
    let start := (State.start .capitals (some .slash) ⟨['/']⟩ [none] (.ofText "A\n/B\nC\n".toList))
    let s := start.run [.read .empty 7]
    let u := start.run [.read .empty 5]
    (s.Reachable ∧ u.Reachable ∧ s.AgreeBelow 3 u ∧ 3 < s.parse.cursor ∧ 3 < u.parse.cursor
        ∧ LabelsNonempty s.log.labels.spans ∧ LabelsNonempty u.log.labels.spans)
      ∧ (advance .empty 7 (s.flush 3)).2.parse.cursor = (advance .empty 7 (u.flush 3)).2.parse.cursor
      ∧ (advance .empty 7 (s.flush 3)).2.parse.messages.map Message.finding
        = (advance .empty 7 (u.flush 3)).2.parse.messages.map Message.finding
      ∧ (advance .empty 7 (s.flush 3)).2.log.labels.spans
        = (advance .empty 7 (u.flush 3)).2.log.labels.spans := by
  intro start s u
  have hs : s.Reachable := State.reachable_run _ _ _ _ _ _
  have hu : u.Reachable := State.reachable_run _ _ _ _ _ _
  have hstart : start.Proper := State.proper_start _ _ _ _ fun _ hl => nomatch hl
  have hagree : s.AgreeBelow 3 u :=
    agreeBelow_of_reads hstart.sound .empty 7 5 (by decide +kernel) (by decide +kernel)
      (by decide +kernel)
  have hsc : 3 < s.parse.cursor := by decide +kernel
  have huc : 3 < u.parse.cursor := by decide +kernel
  have hsn : LabelsNonempty s.log.labels.spans := by
    show ∀ l ∈ s.log.labels.spans, l.span.start < l.span.stop
    decide +kernel
  have hun : LabelsNonempty u.log.labels.spans := by
    show ∀ l ∈ u.log.labels.spans, l.span.start < l.span.stop
    decide +kernel
  exact ⟨⟨hs, hu, hagree, hsc, huc, hsn, hun⟩, flush_forgets hs hu hagree hsc huc hsn hun .empty .empty⟩

end Parse

end BuildLog
