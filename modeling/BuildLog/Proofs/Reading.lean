import BuildLog.Proofs.Labels

/-!
# Reading — what one reading of a log does

A reading begins by bringing the cursor to the start of a line.  It reads whole lines, unless it
comes to the end of a log that will not grow, and it leaves the cursor where the next reading can
go on at once.
-/

namespace BuildLog.View

open Text

/-! ## 1. The text that is read -/

/-- Where a reading up to an offset stops. -/
def readEnd (upto : Nat) (v : View) : Nat := v.cursor + (v.readable upto).length

theorem length_readable_le (upto : Nat) (v : View) :
    (v.readable upto).length ≤ min upto v.text.length - v.cursor := by
  have hlen := length_slice v.text v.cursor (min upto v.text.length)
  have hle := terminatedLength_le (v.text.slice v.cursor (min upto v.text.length))
  rw [length_readable]
  split
  · exact Nat.le_refl _
  · omega

theorem readEnd_le {upto : Nat} {v : View} (h : v.readable upto ≠ []) :
    v.cursor < v.readEnd upto ∧ v.readEnd upto ≤ min upto v.text.length := by
  have hpos := List.length_pos_iff.mpr h
  have hle := length_readable_le upto v
  unfold readEnd
  omega

theorem readable_eq (upto : Nat) (v : View) :
    v.readable upto = (v.text.drop v.cursor).take (v.readable upto).length := by
  have hle := length_readable_le upto v
  -- what is read is cut from the text at both ends, the second cut being the shorter
  have hprefix : v.readable upto
      = (v.text.slice v.cursor (min upto v.text.length)).take (v.readable upto).length := by
    conv_rhs => rw [length_readable]
    unfold readable
    dsimp only
    have hlen := length_slice v.text v.cursor (min upto v.text.length)
    rw [Nat.min_assoc, Nat.min_self] at hlen
    split
    · rw [hlen]
    · rfl
  rw [slice, List.drop_take, List.take_take, Nat.min_eq_left hle] at hprefix
  exact hprefix

theorem take_readEnd (upto : Nat) (v : View) :
    v.text.take (v.readEnd upto) = v.text.take v.cursor ++ v.readable upto := by
  unfold readEnd
  rw [List.take_add]
  congr 1
  exact (readable_eq upto v).symm

/-- While the tool runs, no reading is one of the open line. -/
theorem atEnd_eq_false {v : View} (h : v.finished = false) (upto : Nat) : v.atEnd upto = false := by
  unfold atEnd
  rw [h, Bool.false_and]

theorem terminated_readable {upto : Nat} {v : View} (h : v.atEnd upto = false) :
    Terminated (v.readable upto) := by
  unfold readable
  rw [h]
  exact terminated_take_terminatedLength _

theorem readEnd_of_atEnd {upto : Nat} {v : View} (h : v.atEnd upto = true)
    (hc : v.cursor ≤ v.text.length) : v.readEnd upto = v.text.length := by
  have hlen := length_readable upto v
  rw [if_pos h] at hlen
  unfold atEnd at h
  simp only [Bool.and_eq_true, decide_eq_true_eq] at h
  unfold readEnd
  omega

/-! ## 2. What is certain -/

section Certain

variable {text : Text}

theorem terminated_take_certainLength (h : Terminated text) (n base : Nat) (fs : List Finding) :
    Terminated (text.take (certainLength n text base fs)) := by
  unfold certainLength
  dsimp only
  cases (fs.filter fun f => decide (f.start - base < text.tailStart (n - 1))).getLast? with
  | none => exact terminated_take_tailStart h _
  | some f =>
    dsimp only
    rcases Nat.le_total (text.tailStart (n - 1)) (text.lineEndAfter (f.span.stop - base)) with hle | hle
    · rw [Nat.max_eq_right hle]
      exact terminated_take_lineEndAfter h _
    · rw [Nat.max_eq_left hle]
      exact terminated_take_tailStart h _

variable {base : Nat} {fs : List Finding} (n : Nat)

theorem certainLength_le_length (h : ∀ f ∈ fs, f.span.stop ≤ base + text.length) :
    certainLength n text base fs ≤ text.length := by
  unfold certainLength
  dsimp only
  have htail := tailStart_le text (n - 1)
  cases hl : (fs.filter fun f => decide (f.start - base < text.tailStart (n - 1))).getLast? with
  | none => exact htail
  | some f =>
    have hstop := h f (List.mem_filter.mp (List.mem_of_getLast? hl)).1
    have hend : text.lineEndAfter (f.span.stop - base) ≤ text.length := lineEndAfter_le (by omega)
    exact Nat.max_le.mpr ⟨htail, hend⟩

/-- No finding lies across the end of what is certain: its line ends before, or it begins behind. -/
theorem lineEnd_le_or_le_start (hfs : ∀ f ∈ fs, base ≤ f.start ∧ f.start < f.span.stop)
    (hpair : fs.Pairwise fun f g => base + text.lineEndAfter (f.span.stop - base) ≤ g.start)
    {f : Finding} (hf : f ∈ fs) :
    text.lineEndAfter (f.span.stop - base) ≤ certainLength n text base fs
      ∨ base + certainLength n text base fs ≤ f.start := by
  obtain ⟨hbase, hnonempty⟩ := hfs f hf
  unfold certainLength
  dsimp only
  -- of the findings that begin before the last lines, `g` is the last
  cases hlast : (fs.filter fun f => decide (f.start - base < text.tailStart (n - 1))).getLast? with
  | none =>
    rw [List.getLast?_eq_none_iff, List.filter_eq_nil_iff] at hlast
    have hnot := hlast f hf
    simp only [decide_eq_true_eq] at hnot
    dsimp only
    omega
  | some g =>
    obtain ⟨hg, hgtail⟩ := List.mem_filter.mp (List.mem_of_getLast? hlast)
    simp only [decide_eq_true_eq] at hgtail
    obtain ⟨hgbase, hgnonempty⟩ := hfs g hg
    have hgend := le_lineEndAfter text (g.span.stop - base)
    have hfend := le_lineEndAfter text (f.span.stop - base)
    dsimp only
    -- `f` is `g` or before it, or it begins in the last lines and so behind the line of `g`
    by_cases htail : f.start - base < text.tailStart (n - 1)
    · have hmem : f ∈ fs.filter fun f => decide (f.start - base < text.tailStart (n - 1)) :=
        List.mem_filter.mpr ⟨hf, decide_eq_true htail⟩
      rcases pairwise_getLast? (hpair.filter _) hlast hmem with rfl | hfg
      · omega
      · omega
    · rcases pairwise_or hpair hf hg with rfl | hfg | hgf
      · omega
      · omega
      · omega

end Certain

/-! ## 3. What is found in it -/

section Found

variable (v : View) (text : Text)

theorem le_found_lineEnd (x : Nat) : x ≤ v.cursor + text.lineEndAfter (x - v.cursor) := by
  have := le_lineEndAfter text (x - v.cursor)
  omega

theorem found_within : ∀ f ∈ v.found text, f.Within v.cursor (v.cursor + text.length) :=
  fun _ hf => within_of_mem_findings (fun _ hh => RuleSet.within_of_mem_hits _ _ _ hh) hf

theorem ne_nil_of_mem_found {f : Finding} (hf : f ∈ v.found text) : text ≠ [] := by
  rintro rfl
  have hw := found_within v [] f hf
  have h₁ := hw.start_le
  have h₂ := hw.nonempty
  have h₃ := hw.stop_le
  rw [List.length_nil] at h₃
  omega

theorem found_pairwise : (v.found text).Pairwise fun f g =>
    v.cursor + text.lineEndAfter (f.span.stop - v.cursor) ≤ g.start :=
  findings_pairwise (fun _ hh => RuleSet.within_of_mem_hits _ _ _ hh) (le_found_lineEnd v text)

theorem found_inOrder : (v.found text).Pairwise fun f g => f.span.stop ≤ g.start :=
  (found_pairwise v text).imp fun h => Nat.le_trans (le_found_lineEnd v text _) h

theorem found_pairwise_lt :
    (v.found text).Pairwise fun f g => f.start < g.start :=
  (found_inOrder v text).imp_of_mem fun hf _ h => by
    have := (found_within v text _ hf).nonempty
    omega

theorem certainLength_le (n : Nat) :
    certainLength n text v.cursor (v.found text) ≤ text.length :=
  certainLength_le_length n fun f hf => (found_within v text f hf).stop_le

end Found

/-! ## 4. Ready views -/

/-- Nothing is left to be done before the next reading: no labels are to be cleared, and the cursor
is at the start of a line or at the end of the log. -/
structure Ready (v : View) : Prop where
  pending : v.pendingClear = none
  rewound : v.rewound = false
  cursor_le : v.cursor ≤ v.text.length
  lineStart : Terminated (v.text.take v.cursor) ∨ v.cursor = v.text.length

theorem insideLine_eq_false {v : View} (hc : v.cursor ≤ v.text.length) :
    v.insideLine = false ↔
      Terminated (v.text.take v.cursor) ∨ (v.cursor = v.text.length ∧ v.rewound = false) := by
  rw [terminated_take_iff hc]
  unfold insideLine
  -- the cursor is at the head of the log, behind a newline, or inside a line
  by_cases h0 : v.cursor = 0
  · simp [h0]
  · by_cases hn : v.text[v.cursor - 1]? = some '\n'
    · simp [h0, hn]
    · simp [h0, hn]

theorem Ready.insideLine {v : View} (h : v.Ready) : v.insideLine = false :=
  (insideLine_eq_false h.cursor_le).mpr (h.lineStart.imp id fun hc => ⟨hc, h.rewound⟩)

theorem settle_of_pending {v : View} (hp : v.pendingClear = none) (hc : v.cursor ≤ v.text.length) :
    v.settle = v := by
  unfold settle
  rw [hp, Nat.min_eq_left hc]
  dsimp only
  rw [← hp]

theorem Ready.settle {v : View} (h : v.Ready) : v.settle = v := settle_of_pending h.pending h.cursor_le

theorem Ready.snap {v : View} (h : v.Ready) : v.snap = v := by
  unfold View.snap
  rw [h.insideLine]
  have hrew := h.rewound
  rw [if_neg (by simp), ← hrew]

theorem Ready.advance {v : View} (h : v.Ready) (upto : Nat) : v.advance upto = v.readOn upto := by
  rw [View.advance, h.settle, h.snap]

theorem lineStart_le (v : View) : v.lineStart ≤ v.cursor := terminatedLength_take_le _ _

theorem ready_snap {v : View} (hp : v.pendingClear = none) (hc : v.cursor ≤ v.text.length) :
    v.snap.Ready := by
  unfold View.snap
  split
  · have hle := lineStart_le v
    exact ⟨hp, rfl, Nat.le_trans hle hc,
      .inl (terminated_take_terminatedLength_take v.text v.cursor)⟩
  · rename_i hin
    rw [Bool.not_eq_true, insideLine_eq_false hc] at hin
    exact ⟨hp, rfl, hc, hin.imp id And.left⟩

theorem ready_settle_snap (v : View) : v.settle.snap.Ready :=
  ready_snap rfl (Nat.min_le_right _ _)

/-- A reading that is not at the end of the log leaves the cursor at the start of a line. -/
theorem Ready.terminated_readText {v : View} (h : v.Ready) {upto : Nat} (hne : v.readable upto ≠ [])
    (hat : v.atEnd upto = false) :
    Terminated (v.text.take (v.readText (v.readable upto) (v.atEnd upto)).2.cursor) := by
  have hend := readEnd_le hne
  have hstart : Terminated (v.text.take v.cursor) := h.lineStart.resolve_right (by omega)
  have hlen := certainLength_le v (v.readable upto) v.settings.rules.maxLines
  have hcut := terminated_take_certainLength (terminated_readable hat) v.settings.rules.maxLines
    v.cursor (v.found (v.readable upto))
  show Terminated (v.text.take (v.cursor + if v.atEnd upto then _ else _))
  rw [hat, if_neg (by simp), List.take_add]
  -- the part of what was read that is certain is as well cut from the text itself
  have htake : (v.readable upto).take (certainLength v.settings.rules.maxLines (v.readable upto)
      v.cursor (v.found (v.readable upto)))
        = (v.text.drop v.cursor).take (certainLength v.settings.rules.maxLines (v.readable upto)
          v.cursor (v.found (v.readable upto))) := by
    conv_lhs => rw [readable_eq upto v, List.take_take, ← readable_eq upto v, Nat.min_eq_left hlen]
  rw [htake] at hcut
  exact hstart.append hcut

theorem Ready.readOn {v : View} (h : v.Ready) (upto : Nat) : (v.readOn upto).2.Ready := by
  unfold View.readOn
  split
  · exact h
  · rename_i hne
    have hend := readEnd_le hne
    refine ⟨h.pending, h.rewound, ?_, ?_⟩
    · show v.cursor + (if v.atEnd upto then (v.readable upto).length else _) ≤ v.text.length
      have := certainLength_le v (v.readable upto) v.settings.rules.maxLines
      unfold readEnd at hend
      split <;> omega
    · cases hat : v.atEnd upto with
      | true =>
        right
        exact readEnd_of_atEnd hat h.cursor_le
      | false =>
        left
        have hterm := h.terminated_readText hne hat
        rwa [hat] at hterm

theorem ready_advance (upto : Nat) (v : View) : (v.advance upto).2.Ready :=
  (ready_settle_snap v).readOn upto

/-! ## 5. The text and the labels -/

theorem text_snap (v : View) : v.snap.text = v.text := by
  unfold snap
  split <;> rfl

theorem sublist_snap (v : View) : v.snap.findings.Sublist v.findings := by
  unfold snap
  split
  · exact List.filter_sublist
  · exact List.Sublist.refl _

theorem text_readOn (upto : Nat) (v : View) : (v.readOn upto).2.text = v.text := by
  unfold readOn
  split <;> rfl

/-- What a reading cannot change. -/
structure SameSetting (v w : View) : Prop where
  settings : w.settings = v.settings
  pattern : w.pattern = v.pattern
  home : w.home = v.home
  finished : w.finished = v.finished

theorem sameSetting_snap (v : View) : SameSetting v v.snap := by
  unfold snap
  split <;> exact ⟨rfl, rfl, rfl, rfl⟩

theorem sameSetting_flushFrom (v : View) (offset : Nat) : SameSetting v (v.flushFrom offset) := by
  unfold flushFrom
  dsimp only
  split <;> exact ⟨rfl, rfl, rfl, rfl⟩

theorem sameSetting_advance (upto : Nat) (v : View) : SameSetting v (v.advance upto).2 := by
  obtain ⟨h₁, h₂, h₃, h₄⟩ := sameSetting_snap v.settle
  unfold advance readOn
  split <;> exact ⟨h₁, h₂, h₃, h₄⟩

theorem text_advance (upto : Nat) (v : View) : (v.advance upto).2.text = v.text := by
  rw [advance, text_readOn, text_snap]
  rfl

theorem within_clearLabels {v : View} {n : Nat} (h : LabelsWithin n v.labels) (start stop : Nat) :
    LabelsWithin n (v.clearLabels start stop) := fun l hl => h l (List.mem_filter.mp hl).1

theorem within_settle {v : View} {n : Nat} (h : LabelsWithin n v.labels) :
    LabelsWithin n v.settle.labels := by
  unfold settle
  cases v.pendingClear with
  | none => exact h
  | some start => exact within_clearLabels h _ _

theorem within_snap {v : View} {n : Nat} (h : LabelsWithin n v.labels) :
    LabelsWithin n v.snap.labels := by
  unfold snap
  split
  · exact within_clearLabels h _ _
  · exact h

/-- The labels that a reading puts into the log lie in the text that it reads. -/
theorem within_readOn {v : View} (h : LabelsWithin v.text.length v.labels) (upto : Nat) :
    LabelsWithin v.text.length (v.readOn upto).2.labels := by
  unfold readOn
  split
  · exact h
  · rename_i hne
    have hend := (readEnd_le hne).2
    unfold readEnd at hend
    intro l hl
    rcases mem_labelAll.mp hl with hl | hl
    · exact within_clearLabels h _ _ l hl
    · obtain ⟨f, hf, rfl⟩ := List.mem_map.mp hl
      have hw := found_within v (v.readable upto) f hf
      have h₁ := hw.stop_le
      have h₂ := hw.link.2
      show f.hyperlink.stop ≤ _
      omega

theorem within_advance {v : View} (h : LabelsWithin v.text.length v.labels) (upto : Nat) :
    LabelsWithin v.text.length (v.advance upto).2.labels := by
  have hsnap : LabelsWithin v.settle.snap.text.length v.settle.snap.labels := by
    rw [text_snap]
    exact within_snap (within_settle h)
  have hread := within_readOn hsnap upto
  rw [text_snap] at hread
  exact hread

end BuildLog.View
