import BuildLog.Proofs.Locality
import BuildLog.Proofs.Ordering

/-!
# Shifting — the same text further on in a log

The same text, read further on in a log, has the same findings further on, if the directories in
effect and the file named last are the same.  A trail that loses its head answers at each offset
what it answered further on.
-/

namespace BuildLog

/-! ## 1. Trails that lose their head -/

namespace DirectoryTrail

variable {t : DirectoryTrail}

/-- What held just before the new head of the log holds at its start. -/
theorem base_shiftBack (t : DirectoryTrail) (delta : Nat) :
    (t.shiftBack delta).base = if delta = 0 then t.base else t.stackAt (delta - 1) := by
  have hlast : (t.shiftBack delta).base = (t.truncateFrom delta).lastStack := rfl
  have hend : (t.truncateFrom delta).EndsBy delta := fun e he =>
    Nat.le_of_lt (of_decide_eq_true (List.mem_filter.mp he).2)
  rw [hlast, lastStack_eq_stackAt hend, stackAt_truncateFrom, Nat.min_eq_right (Nat.sub_le delta 1)]

theorem stackAt_shiftBack (hs : t.events.Pairwise (·.1 < ·.1)) (delta o : Nat) :
    (t.shiftBack delta).stackAt o = t.stackAt (o + delta) := by
  -- the events up to an offset behind the head are those in the head, and those behind it
  have hcut := filter_lt_append (fun e : Nat × DirectoryStack => e.1)
    (hs.imp Nat.le_of_lt) delta
  have hhead : (t.events.filter (·.1 < delta)).filter (·.1 ≤ o + delta)
      = t.events.filter (·.1 < delta) := by
    rw [List.filter_eq_self]
    intro e he
    have := of_decide_eq_true (List.mem_filter.mp he).2
    exact decide_eq_true (by omega)
  have htail : (t.shiftBack delta).events.filter (·.1 ≤ o)
      = ((t.events.filter (delta ≤ ·.1)).filter (·.1 ≤ o + delta)).map
          fun e => (e.1 - delta, e.2) := by
    show ((t.events.filter (delta ≤ ·.1)).map fun e => (e.1 - delta, e.2)).filter _ = _
    rw [List.filter_map]
    congr 1
    apply List.filter_congr
    intro e he
    have := of_decide_eq_true (List.mem_filter.mp he).2
    show decide (e.1 - delta ≤ o) = decide (e.1 ≤ o + delta)
    rw [decide_eq_decide]
    omega
  unfold stackAt
  rw [htail, List.getLast?_map]
  conv_rhs => rw [← hcut, List.filter_append, hhead, List.getLast?_append]
  cases ((t.events.filter (delta ≤ ·.1)).filter (·.1 ≤ o + delta)).getLast? with
  | some e => rfl
  | none => rfl

end DirectoryTrail

/-! ## 2. Changes of directory -/

theorem turns_shift (p : Option DirectoryPattern) (text : Text) (base delta : Nat) :
    turns p text (base + delta) = (turns p text base).map fun e => (e.1 + delta, e.2) := by
  cases p with
  | none => rfl
  | some d =>
    show d.scan text (base + delta) = (d.scan text base).map _
    unfold DirectoryPattern.scan
    dsimp only
    rw [List.map_filterMap]
    congr 1
    funext m
    rw [Option.map_map]
    congr 1
    funext e
    exact congrArg (·, e) (Nat.add_right_comm base delta m.span.start)

theorem pathsAt_shift (es : List (Nat × DirectoryEvent)) (ps : List Path) (delta o : Nat) :
    pathsAt (es.map fun e => (e.1 + delta, e.2)) ps (o + delta) = pathsAt es ps o := by
  have hfilter : (es.map fun e => (e.1 + delta, e.2)).filter (·.1 ≤ o + delta)
      = (es.filter (·.1 ≤ o)).map fun e => (e.1 + delta, e.2) := by
    rw [List.filter_map]
    congr 1
    apply List.filter_congr
    intro e _
    show decide (e.1 + delta ≤ o + delta) = decide (e.1 ≤ o)
    rw [decide_eq_decide]
    exact Nat.add_le_add_iff_right
  unfold pathsAt pathsAfter
  rw [hfilter, List.foldl_map]

/-! ## 3. Hits -/

/-- The same hit in a text that begins `delta` characters further on. -/
def Hit.shift (h : Hit) (delta : Nat) : Hit := ⟨h.rule, h.found.shift delta⟩

namespace RuleSet

variable (s : RuleSet) (t : Text) (base : Nat)

theorem hits_shift (delta : Nat) : s.hits t (base + delta) = (s.hits t base).map (·.shift delta) := by
  rw [← Candidate.map_all, ← Candidate.map_all, List.map_map]
  congr 1
  funext c
  exact congrArg (Hit.mk c.rule) (Found.shift_shift _ base delta).symm

/-- Rules that stay within their lines find behind a line start what they find in the text from there
on alone. -/
theorem filter_hits_restart (h : ∀ r ∈ s.rules, r.WithinLines) {a : Text} (ha : Text.Terminated a)
    (b : Text) :
    (s.hits (a ++ b) base).filter (base + a.length ≤ ·.start) = s.hits b (base + a.length) := by
  -- the hits of all rules agree if those of each rule do
  conv_rhs => rw [← List.filter_true (s.hits b (base + a.length))]
  refine filter_hits_congr s (a ++ b) base (base + a.length ≤ ·) (fun _ => true) fun r hr => ?_
  rw [List.filter_true]
  have hbase : r.hits (a ++ b) base = (r.hits (a ++ b) 0).map (·.shift base) := by
    rw [← Rule.hits_shift, Nat.zero_add]
  rw [hbase, List.filter_map, Nat.add_comm base, Rule.hits_shift, ← (h r hr).restart a b ha]
  congr 1
  apply List.filter_congr
  intro f hf
  show decide (a.length + base ≤ (f.shift base).start) = decide (a.length ≤ f.start)
  rw [Found.start_shift (Rule.isSome_of_mem_hits hf), decide_eq_decide]
  exact Nat.add_le_add_iff_right

end RuleSet

/-! ## 4. Findings -/

namespace Finding

/-- The same finding in a text that begins `delta` characters further on. -/
def shift (f : Finding) (delta : Nat) : Finding :=
  { f with
    span := f.span.shift delta
    hyperlink := f.hyperlink.shift delta
    highlights := f.highlights.map fun h => { h with span := h.span.shift delta } }

theorem shiftBack_shift (f : Finding) (delta : Nat) : (f.shift delta).shiftBack delta = f := by
  have hspan : ∀ s : Span, (s.shift delta).shiftBack delta = s := fun s => by
    unfold Span.shift Span.shiftBack
    rw [Nat.add_sub_cancel, Nat.add_sub_cancel]
  have hface : ∀ h : Highlight, { h with span := (h.span.shift delta).shiftBack delta } = h :=
    fun h => by rw [hspan]
  unfold shift shiftBack
  dsimp only
  rw [hspan, hspan, List.map_map]
  congr 1
  exact (List.map_congr_left fun h _ => hface h).trans (List.map_id _)

end Finding

section Findings

variable {cfg : ScanSettings} {dirAt dirAt' : Nat → Option Path} {lineEnd lineEnd' : Nat → Nat}
  {delta : Nat}

theorem Hit.finding?_shift {h : Hit} (hwhole : (h.found.group 0).isSome)
    (hdir : dirAt (h.start + delta) = dirAt' h.start) (previous : Option Origin) :
    (h.shift delta).finding? cfg dirAt previous
      = (h.finding? cfg dirAt' previous).map (·.shift delta) := by
  have horigin : (h.shift delta).origin? cfg dirAt previous = h.origin? cfg dirAt' previous := by
    have hstart : (h.shift delta).start = h.start + delta := Found.start_shift hwhole delta
    have hprimary : (h.shift delta).rule.file.bind (·.primary (h.shift delta).found)
        = h.rule.file.bind (·.primary h.found) := by
      simp only [Hit.shift, Found.primary_shift]
    unfold Hit.origin?
    rw [hstart, hdir, hprimary]
  unfold Hit.finding?
  rw [horigin, Option.map_map]
  congr 1
  funext o
  simp only [Hit.findingIn, Hit.shift, Function.comp_apply, Finding.shift, Found.resolve_shift,
    Found.textLocation_shift, Found.group_shift, Found.span_shift hwhole, Finding.mk.injEq, true_and,
    List.map_filterMap, Option.map_map]
  refine ⟨?_, rfl⟩
  -- a message without a link group is linked as a whole
  cases hg : h.rule.hyperlink with
  | none => rfl
  | some g =>
    show (Option.map _ (h.found.group g)).getD _ = _
    cases hs : h.found.group g with
    | none => simp [hs]
    | some s => simp [hs]

/-- What hits further on come to. -/
theorem findings_shift {hs : List Hit} (hwhole : ∀ h ∈ hs, (h.found.group 0).isSome)
    (hdir : ∀ o, dirAt (o + delta) = dirAt' o) (hend : ∀ x, lineEnd (x + delta) = lineEnd' x + delta)
    (claimed : Nat) (previous : Option Origin) :
    findings cfg dirAt lineEnd (claimed + delta) previous (hs.map (·.shift delta))
      = (findings cfg dirAt' lineEnd' claimed previous hs).map (·.shift delta) := by
  induction hs generalizing claimed previous with
  | nil => rfl
  | cons h hs ih =>
    have hh := hwhole h List.mem_cons_self
    have hrest := fun c p => ih (fun k hk => hwhole k (List.mem_cons_of_mem h hk)) c p
    have hstart : (h.shift delta).start = h.start + delta := Found.start_shift hh delta
    rw [List.map_cons, findings, findings, hstart, Hit.finding?_shift hh (hdir h.start)]
    by_cases hlt : h.start < claimed
    · rw [if_pos hlt, if_pos (Nat.add_lt_add_right hlt delta), hrest]
    · rw [if_neg hlt, if_neg fun hlt' => hlt (Nat.lt_of_add_lt_add_right hlt')]
      cases hf : h.finding? cfg dirAt' previous with
      | none =>
        dsimp only [Option.map_none]
        rw [hrest]
      | some f =>
        have hclaim : lineEnd (f.shift delta).span.stop = lineEnd' f.span.stop + delta :=
          hend f.span.stop
        dsimp only [Option.map_some]
        rw [hclaim, hrest, List.map_cons]
        rfl

/-- The findings of a text that begins further on. -/
theorem findings_hits_shift (hdir : ∀ o, dirAt (o + delta) = dirAt' o)
    (hend : ∀ x, lineEnd (x + delta) = lineEnd' x + delta) (claimed : Nat)
    (previous : Option Origin) (t : Text) (base : Nat) :
    findings cfg dirAt lineEnd (claimed + delta) previous (cfg.rules.hits t (base + delta))
      = (findings cfg dirAt' lineEnd' claimed previous (cfg.rules.hits t base)).map
          (·.shift delta) := by
  rw [RuleSet.hits_shift]
  exact findings_shift (fun h hh => Rule.isSome_of_mem_hits (RuleSet.mem_of_mem_hits _ _ _ hh).2)
    hdir hend claimed previous

end Findings

end BuildLog
