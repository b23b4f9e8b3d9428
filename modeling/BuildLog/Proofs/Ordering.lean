import BuildLog.Proofs.Reading

/-!
# Ordering — the findings of every state

Whatever is done to a log and its parse, the findings begin at different offsets and are listed in
order of these, none is empty, and each holds its link.
-/

namespace BuildLog

/-- The finding after `delta` characters were taken from the head of the log. -/
def Finding.shiftBack (f : Finding) (delta : Nat) : Finding :=
  { f with
    span := f.span.shiftBack delta
    hyperlink := f.hyperlink.shiftBack delta
    highlights := f.highlights.map fun h => { h with span := h.span.shiftBack delta } }

@[simp] theorem Message.finding_shiftBack (m : Message) (delta : Nat) :
    (m.shiftBack delta).finding = m.finding.shiftBack delta := rfl

@[simp] theorem Finding.start_shiftBack (f : Finding) (delta : Nat) :
    (f.shiftBack delta).start = f.start - delta := rfl

structure Finding.Proper (f : Finding) : Prop where
  nonempty : f.start < f.span.stop
  le_link : f.start ≤ f.hyperlink.start
  link_le : f.hyperlink.stop ≤ f.span.stop

theorem Finding.Within.proper {start stop : Nat} {f : Finding} (h : f.Within start stop) :
    f.Proper := ⟨h.nonempty, h.link.1, h.link.2⟩

theorem Finding.Proper.shiftBack {f : Finding} (h : f.Proper) {delta : Nat} (hd : delta ≤ f.start) :
    (f.shiftBack delta).Proper := by
  obtain ⟨h₁, h₂, h₃⟩ := h
  exact ⟨Nat.sub_lt_sub_right hd h₁, Nat.sub_le_sub_right h₂ delta, Nat.sub_le_sub_right h₃ delta⟩

/-- Findings in order of their starts, each as a finding is to be. -/
structure Ordered (fs : List Finding) : Prop where
  starts : fs.Pairwise fun f g => f.start < g.start
  proper : ∀ f ∈ fs, f.Proper

namespace Ordered

variable {fs gs : List Finding}

theorem nil : Ordered [] := ⟨List.Pairwise.nil, nofun⟩

theorem filter (h : Ordered fs) (p : Finding → Bool) : Ordered (fs.filter p) :=
  ⟨h.starts.filter p, fun f hf => h.proper f (List.mem_filter.mp hf).1⟩

theorem shiftBack (h : Ordered fs) (delta : Nat) :
    Ordered ((fs.filter (delta ≤ ·.start)).map (·.shiftBack delta)) := by
  have hmem : ∀ f ∈ fs.filter (delta ≤ ·.start), delta ≤ f.start :=
    fun f hf => of_decide_eq_true (List.mem_filter.mp hf).2
  refine ⟨?_, fun f hf => ?_⟩
  · rw [List.pairwise_map]
    -- the difference of two starts stays, as both are behind the head
    refine (h.starts.filter _).imp_of_mem fun {f g} hf hg hlt => ?_
    have := hmem f hf
    simp only [Finding.start_shiftBack]
    omega
  · obtain ⟨g, hg, rfl⟩ := List.mem_map.mp hf
    exact (h.proper g (List.mem_filter.mp hg).1).shiftBack (hmem g hg)

end Ordered

/-- When the head of the log goes, the messages that are left are seen as the findings left. -/
theorem Parse.findings_discardBefore (s : Parse.State) (k : Nat) :
    ((s.parse.discardBefore s.table k).2.1.shiftBack k).messages.map Message.finding
      = (s.view.findings.filter (k ≤ ·.start)).map (·.shiftBack k) := by
  have hmap := map_finding_filter s.parse.messages fun start => decide (k ≤ start)
  show (((s.parse.messages.filter (k ≤ ·.start)).filter (k ≤ ·.start)).map (·.shiftBack k)).map _
    = ((s.parse.messages.map Message.finding).filter _).map _
  rw [List.filter_filter, List.map_map, ← hmap, List.map_map]
  simp only [Bool.and_self]
  rfl

namespace View

variable {v : View}

theorem ordered_flushFrom (h : Ordered v.findings) (offset : Nat) :
    Ordered (v.flushFrom offset).findings := by
  unfold flushFrom
  dsimp only
  split
  · exact h
  · exact h.filter _

theorem ordered_snap (h : Ordered v.findings) : Ordered v.snap.findings := by
  unfold snap
  split
  · exact h.filter _
  · exact h

theorem ordered_readText (h : Ordered v.findings) (text : Text) (certain : Bool) :
    Ordered (v.readText text certain).2.findings := by
  refine ⟨?_, fun f hf => ?_⟩
  · -- what is kept begins before the cursor, and what is found begins at the cursor or behind it
    show (v.kept ++ v.found text).Pairwise _
    rw [List.pairwise_append]
    refine ⟨h.starts.filter _, found_pairwise_lt v text, fun f hf g hg => ?_⟩
    have hkept : f.start < v.cursor := of_decide_eq_true (List.mem_filter.mp hf).2
    exact Nat.lt_of_lt_of_le hkept (found_within v text g hg).start_le
  · rcases List.mem_append.mp hf with hf | hf
    · exact h.proper f (List.mem_filter.mp hf).1
    · exact (found_within v text f hf).proper

theorem ordered_advance (h : Ordered v.findings) (upto : Nat) :
    Ordered (v.advance upto).2.findings := by
  have hsnap : Ordered v.settle.snap.findings := ordered_snap h
  unfold advance readOn
  split
  · exact hsnap
  · exact ordered_readText hsnap _ _

end View

end BuildLog
