import BuildLog.Proofs.Letters
import BuildLog.Proofs.WholeReading

/-!
# In lines — rules of which every match stays in its line

Nothing is held back of what such rules find: a text is read as its parts are, one after the other,
and the labels of its first lines are those of these lines taken alone.
-/

namespace BuildLog

open Text

/-! ## 1. Matches in their lines -/

/-- Every rule and the directory pattern match line by line, and no link is empty. -/
structure InLines (cfg : ScanSettings) (p : Option DirectoryPattern) : Prop where
  maxLines : cfg.rules.maxLines = 1
  rules : ∀ r ∈ cfg.rules.rules, r.pattern.LineByLine
  dirs : DirsLineByLine p
  links : ∀ r ∈ cfg.rules.rules, ∀ t, ∀ f ∈ r.hits t 0, ∀ g ∈ r.hyperlink, ∀ s ∈ f.group g,
    s.start < s.stop

section InLines

variable {cfg : ScanSettings} {p : Option DirectoryPattern} {home : List Path}

theorem InLines.withinLines (h : InLines cfg p) : ∀ r ∈ cfg.rules.rules, r.WithinLines :=
  fun r hr => (h.rules r hr).withinLines (h.maxLines ▸ RuleSet.lines_le_maxLines hr)

theorem InLines.certain_eq_length (h : InLines cfg p) (a : Text) :
    certain cfg p home a = a.length := by
  have hle := certain_le cfg p home a
  have htail := tailStart_le_certain cfg p home a
  rw [h.maxLines, Nat.sub_self, tailStart_zero] at htail
  omega

theorem InLines.certainFindings_eq_reading (h : InLines cfg p) (a : Text) :
    certainFindings cfg p home a = reading cfg p home a := by
  rw [certainFindings, h.certain_eq_length, List.filter_eq_self]
  exact fun f hf => decide_eq_true (start_lt_of_mem_reading hf)

theorem InLines.reading_append (h : InLines cfg p) {a : Text} (ha : Terminated a) (b : Text) :
    reading cfg p home (a ++ b) = reading cfg p home a
      ++ readingFrom cfg p home a b ((reading cfg p home a).getLast?.map Finding.origin) := by
  have hres : _ = reading cfg p home (a ++ b) :=
    resumable_of_withinLines h.withinLines h.dirs a b ha
  rw [h.certainFindings_eq_reading, h.certain_eq_length, List.take_length, List.drop_length,
    List.nil_append] at hres
  exact hres.symm

theorem InLines.filter_reading (h : InLines cfg p) (home : List Path) {a : Text}
    (ha : Terminated a) (b : Text) :
    (reading cfg p home (a ++ b)).filter (·.start < a.length) = reading cfg p home a := by
  rw [h.reading_append ha]
  apply filter_append_left
  · exact fun f hf => decide_eq_true (start_lt_of_mem_reading hf)
  · intro f hf
    have := (readingFrom_within a b _ f hf).start_le
    exact decide_eq_false (by omega)

theorem InLines.linksNonempty (h : InLines cfg p) : cfg.rules.LinksNonempty := h.links

theorem InLines.link_nonempty (h : InLines cfg p) (t : Text) :
    ∀ f ∈ reading cfg p home t, f.hyperlink.start < f.hyperlink.stop :=
  fun _ hf => h.linksNonempty.findings hf

theorem inLines_capitals : InLines .capitals (some .slash) where
  maxLines := rfl
  rules := lineByLine_capitals
  dirs := dirsLineByLine_slash
  links := RuleSet.linksNonempty_of_whole fun r hr g hg => by
    rw [List.mem_singleton.mp hr] at hg
    exact (Option.some.inj hg).symm

end InLines

/-! ## 2. The labels of a reading -/

section Labels

variable {cfg : ScanSettings} {p : Option DirectoryPattern} {home : List Path}

/-- The labels that a reading of a text puts into it. -/
def readingLabels (cfg : ScanSettings) (p : Option DirectoryPattern) (home : List Path) (t : Text) :
    List LabelledSpan :=
  (reading cfg p home t).map Finding.labelledSpan

theorem within_readingLabels (t : Text) : LabelsWithin t.length (readingLabels cfg p home t) := by
  intro l hl
  obtain ⟨f, hf, rfl⟩ := List.mem_map.mp hl
  have hw := reading_within t f hf
  have h₁ := hw.stop_le
  have h₂ := hw.link.2
  show f.hyperlink.stop ≤ t.length
  omega

theorem InLines.nonempty_readingLabels (h : InLines cfg p) (t : Text) :
    LabelsNonempty (readingLabels cfg p home t) := by
  intro l hl
  obtain ⟨f, hf, rfl⟩ := List.mem_map.mp hl
  exact h.link_nonempty t f hf

theorem reading_inOrder (t : Text) :
    (reading cfg p home t).Pairwise fun f g => f.span.stop ≤ g.start :=
  (findings_pairwise (fun _ hh => RuleSet.within_of_mem_hits _ _ _ hh)
    (le_lineEndAfter t)).imp fun hfg => Nat.le_trans (le_lineEndAfter t _) hfg

theorem InLines.inOrder_readingLabels (h : InLines cfg p) (t : Text) :
    LabelsInOrder (readingLabels cfg p home t) := by
  unfold LabelsInOrder readingLabels
  rw [List.pairwise_map]
  -- links lie in their findings, which do not overlap
  refine (reading_inOrder t).imp_of_mem fun {f g} hf hg hfg => ?_
  have h₁ := (reading_within t f hf).link.2
  have h₂ := h.link_nonempty t f hf
  have h₃ := (reading_within t g hg).link.1
  show f.hyperlink.start ≤ g.hyperlink.start
  omega

/-- The labels that begin before a line start are those of the text before it. -/
theorem InLines.filter_readingLabels (h : InLines cfg p) (home : List Path) {a : Text}
    (ha : Terminated a) (b : Text) :
    (readingLabels cfg p home (a ++ b)).filter (·.span.start < a.length)
      = readingLabels cfg p home a := by
  unfold readingLabels
  rw [h.reading_append ha, List.map_append]
  apply filter_append_left
  · intro l hl
    have h₁ := h.nonempty_readingLabels a l hl
    have h₂ := within_readingLabels a l hl
    exact decide_eq_true (by omega)
  · intro l hl
    obtain ⟨f, hf, rfl⟩ := List.mem_map.mp hl
    have hw := readingFrom_within a b _ f hf
    have h₁ := hw.start_le
    have h₂ := hw.link.1
    have hstart : f.labelledSpan.span.start = f.hyperlink.start := rfl
    exact decide_eq_false (by omega)

end Labels

end BuildLog
