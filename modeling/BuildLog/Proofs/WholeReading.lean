import BuildLog.Proofs.Rereading
import BuildLog.Proofs.Shifting

/-!
# Whole readings — the findings of a text read at once

A log that is read in pieces is measured by the reading of its whole text.  A reading can be resumed
if the findings before the certain part's end, and those of a reading that begins there, are those
of the whole text.  It can if every rule stays within its lines.
-/

namespace BuildLog

open Text

/-! ## 1. Cutting a list of hits -/

section Cut

variable {cfg : ScanSettings} {dirAt : Nat → Option Path} {lineEnd : Nat → Nat} {claimed : Nat}
  {previous : Option Origin} {hs : List Hit}

theorem filter_findings_lt (h : Hit.InOrder hs) (c : Nat) :
    (findings cfg dirAt lineEnd claimed previous hs).filter (·.start < c)
      = findings cfg dirAt lineEnd claimed previous (hs.filter (·.start < c)) := by
  have hstart : ∀ {cl : Nat} {pr : Option Origin} {ks : List Hit} {f : Finding},
      f ∈ findings cfg dirAt lineEnd cl pr ks → ∃ k ∈ ks, f.start = k.start := by
    intro cl pr ks f hf
    obtain ⟨k, hk, o, rfl⟩ := exists_hit_of_mem hf
    exact ⟨k, hk, rfl⟩
  conv_lhs => rw [← filter_lt_append Hit.start (h.imp Nat.le_of_lt) c, findings_append]
  apply filter_append_left
  · intro f hf
    obtain ⟨k, hk, hfk⟩ := hstart hf
    have := (List.mem_filter.mp hk).2
    simp only [decide_eq_true_eq] at this ⊢
    omega
  · intro f hf
    obtain ⟨k, hk, hfk⟩ := hstart hf
    have := (List.mem_filter.mp hk).2
    simp only [decide_eq_true_eq, decide_eq_false_iff_not] at this ⊢
    omega

/-- The findings of hits, cut behind the lines that those before `t` claim. -/
theorem findings_cut (h : Hit.InOrder hs) (t : Nat) {fs : List Finding} {c : Nat}
    (hfs : findings cfg dirAt lineEnd claimed previous (hs.filter (·.start < t)) = fs)
    (hc : max t (claimAfter lineEnd claimed fs) = c) :
    findings cfg dirAt lineEnd claimed previous hs
      = fs ++ findings cfg dirAt lineEnd c (originAfter previous fs) (hs.filter (c ≤ ·.start)) := by
  conv_lhs => rw [← filter_lt_append Hit.start (h.imp Nat.le_of_lt) t, findings_append, hfs]
  congr 1
  -- of the hits from `t` on, those count that begin behind the claimed lines
  rw [← findings_filter_claimed _ _ (h.filter _), List.filter_filter]
  have hsame : hs.filter (fun x => decide (claimAfter lineEnd claimed fs ≤ x.start)
      && decide (t ≤ x.start)) = hs.filter (c ≤ ·.start) := by
    apply List.filter_congr
    intro x _
    rw [← Bool.decide_and, decide_eq_decide]
    omega
  rw [hsame]
  apply findings_of_le
  · intro k hk
    have := (List.mem_filter.mp hk).2
    simp only [decide_eq_true_eq] at this
    omega
  · intro k hk
    simpa using (List.mem_filter.mp hk).2

end Cut

/-! ## 2. Readings -/

section Reading

variable (cfg : ScanSettings) (p : Option DirectoryPattern) (home : List Path)

/-- The findings of a whole text. -/
def reading (t : Text) : List Finding :=
  findings cfg (fun o => (dirsIn p home t o).head?) t.lineEndAfter 0 none (cfg.rules.hits t 0)

/-- The findings of the text `b` that follows `a`, after which `previous` was the file named
last. -/
def readingFrom (a b : Text) (previous : Option Origin) : List Finding :=
  findings cfg (fun o => (dirsIn p home (a ++ b) o).head?) (a ++ b).lineEndAfter a.length previous
    (cfg.rules.hits b a.length)

/-- Where the part of a text ends whose findings are certain, whatever follows. -/
def certain (a : Text) : Nat := View.certainLength cfg.rules.maxLines a 0 (reading cfg p home a)

/-- The findings that are certain. -/
def certainFindings (a : Text) : List Finding :=
  (reading cfg p home a).filter (·.start < certain cfg p home a)

/-- A reading of a text can be resumed behind what was certain of any part of it. -/
def Resumable : Prop :=
  ∀ a b : Text, Terminated a →
    certainFindings cfg p home a
        ++ readingFrom cfg p home (a.take (certain cfg p home a)) (a.drop (certain cfg p home a) ++ b)
          ((certainFindings cfg p home a).getLast?.map Finding.origin)
      = reading cfg p home (a ++ b)

variable {cfg p home}

theorem reading_eq_readingFrom (t : Text) : reading cfg p home t = readingFrom cfg p home [] t none :=
  rfl

theorem reading_within (t : Text) : ∀ f ∈ reading cfg p home t, f.Within 0 t.length := by
  intro f hf
  refine within_of_mem_findings (fun h hh => ?_) hf
  have := RuleSet.within_of_mem_hits _ _ _ hh
  rwa [Nat.zero_add] at this

theorem start_lt_of_mem_reading {t : Text} {f : Finding} (h : f ∈ reading cfg p home t) :
    f.start < t.length := by
  have hw := reading_within t f h
  have h₁ := hw.nonempty
  have h₂ := hw.stop_le
  omega

theorem readingFrom_within (a b : Text) (previous : Option Origin) :
    ∀ f ∈ readingFrom cfg p home a b previous, f.Within a.length (a.length + b.length) :=
  fun _ hf => within_of_mem_findings (fun _ hh => RuleSet.within_of_mem_hits _ _ _ hh) hf

theorem readingFrom_nil (a : Text) (previous : Option Origin) :
    readingFrom cfg p home a [] previous = [] := by
  rw [List.eq_nil_iff_forall_not_mem]
  intro f hf
  have hw := readingFrom_within a [] previous f hf
  have h₁ := hw.start_le
  have h₂ := hw.nonempty
  have h₃ := hw.stop_le
  rw [List.length_nil] at h₃
  omega

theorem certainFindings_nil : certainFindings cfg p home [] = [] := by
  rw [certainFindings, reading_eq_readingFrom, readingFrom_nil]
  rfl

variable (cfg p home)

theorem certain_eq (a : Text) :
    certain cfg p home a = max (a.tailStart (cfg.rules.maxLines - 1))
      (claimAfter a.lineEndAfter 0
        ((reading cfg p home a).filter (·.start < a.tailStart (cfg.rules.maxLines - 1)))) := by
  unfold certain View.certainLength claimAfter
  simp only [Nat.sub_zero]
  cases ((reading cfg p home a).filter fun f =>
      decide (f.start < a.tailStart (cfg.rules.maxLines - 1))).getLast? with
  | none => exact (Nat.max_eq_left (Nat.zero_le _)).symm
  | some f => rfl

theorem tailStart_le_certain (a : Text) :
    a.tailStart (cfg.rules.maxLines - 1) ≤ certain cfg p home a := by
  rw [certain_eq]
  exact Nat.le_max_left _ _

theorem terminated_take_certain {a : Text} (ha : Terminated a) :
    Terminated (a.take (certain cfg p home a)) :=
  View.terminated_take_certainLength ha _ _ _

theorem certain_le (a : Text) : certain cfg p home a ≤ a.length := by
  rw [certain_eq]
  refine Nat.max_le.mpr ⟨tailStart_le a _, ?_⟩
  unfold claimAfter
  cases hl : ((reading cfg p home a).filter fun f =>
      decide (f.start < a.tailStart (cfg.rules.maxLines - 1))).getLast? with
  | none => exact Nat.zero_le _
  | some f =>
    have hf := (List.mem_filter.mp (List.mem_of_getLast? hl)).1
    exact lineEndAfter_le (reading_within a f hf).stop_le

/-- What is certain are the findings before the last lines: one that claims lines beyond leaves no
room for others there. -/
theorem certainFindings_eq (a : Text) :
    certainFindings cfg p home a
      = (reading cfg p home a).filter (·.start < a.tailStart (cfg.rules.maxLines - 1)) := by
  have hin := RuleSet.hits_inOrder cfg.rules a 0
  have hfs : (reading cfg p home a).filter (·.start < a.tailStart (cfg.rules.maxLines - 1)) = _ :=
    filter_findings_lt hin (a.tailStart (cfg.rules.maxLines - 1))
  -- cut the hits there: what follows begins behind all that is certain
  have hcut := findings_cut hin _ hfs.symm (certain_eq cfg p home a).symm
  have hlt := tailStart_le_certain cfg p home a
  unfold certainFindings
  conv_lhs => rw [reading, hcut]
  apply filter_append_left
  · intro f hf
    have := (List.mem_filter.mp hf).2
    simp only [decide_eq_true_eq] at this ⊢
    omega
  · intro f hf
    obtain ⟨k, hk, o, rfl⟩ := exists_hit_of_mem hf
    have hck := (List.mem_filter.mp hk).2
    have hstart : (k.findingIn cfg o).start = k.start := rfl
    simp only [decide_eq_true_eq, decide_eq_false_iff_not] at hck ⊢
    omega

end Reading

/-! ## 3. Rules within their lines -/

theorem le_foldl_lines (rs : List Rule) (n : Nat) :
    n ≤ rs.foldl (fun n r => max n r.lines) n := by
  induction rs generalizing n with
  | nil => exact Nat.le_refl n
  | cons q qs ih =>
    rw [List.foldl_cons]
    have := ih (max n q.lines)
    omega

theorem lines_le_foldl {rs : List Rule} {r : Rule} (h : r ∈ rs) (n : Nat) :
    r.lines ≤ rs.foldl (fun n r => max n r.lines) n := by
  induction rs generalizing n with
  | nil => cases h
  | cons q qs ih =>
    rw [List.foldl_cons]
    rcases List.mem_cons.mp h with rfl | h
    · have := le_foldl_lines qs (max n r.lines)
      omega
    · exact ih h _

theorem RuleSet.lines_le_maxLines {s : RuleSet} {r : Rule} (h : r ∈ s.rules) :
    r.lines ≤ s.maxLines := by
  unfold maxLines
  cases hs : s.rules with
  | nil =>
    rw [hs] at h
    cases h
  | cons q qs =>
    rw [hs] at h
    dsimp only
    rcases List.mem_cons.mp h with rfl | h
    · exact le_foldl_lines qs r.lines
    · exact lines_le_foldl h q.lines

section Within

variable {cfg : ScanSettings} {p : Option DirectoryPattern} {home : List Path}

theorem filter_hits_of_withinLines (h : ∀ r ∈ cfg.rules.rules, r.WithinLines) {a : Text}
    (ha : Terminated a) (b : Text) :
    (cfg.rules.hits (a ++ b) 0).filter (·.start < a.tailStart (cfg.rules.maxLines - 1))
      = (cfg.rules.hits a 0).filter (·.start < a.tailStart (cfg.rules.maxLines - 1)) := by
  let q : Nat → Bool := fun n => decide (n < a.tailStart (cfg.rules.maxLines - 1))
  refine RuleSet.filter_hits_congr cfg.rules (a ++ b) 0 q q fun r hr => ?_
  -- no rule has more lines than are held back
  exact ((h r hr).lines_le (RuleSet.lines_le_maxLines hr)).extend a b ha

/-- What is certain of a text stays when more follows. -/
theorem certainFindings_append (h : ∀ r ∈ cfg.rules.rules, r.WithinLines)
    (hp : DirsLineByLine p) {a : Text} (ha : Terminated a) (b : Text) :
    findings cfg (fun o => (dirsIn p home (a ++ b) o).head?) (a ++ b).lineEndAfter 0 none
        ((cfg.rules.hits (a ++ b) 0).filter (·.start < a.tailStart (cfg.rules.maxLines - 1)))
      = certainFindings cfg p home a := by
  rw [filter_hits_of_withinLines h ha b, certainFindings_eq, reading,
    filter_findings_lt (RuleSet.hits_inOrder cfg.rules a 0)]
  apply findings_congr
  · intro k hk
    have hw := RuleSet.within_of_mem_hits _ _ _ (List.mem_filter.mp hk).1
    have h₁ : k.start < k.found.span.stop := hw.nonempty
    have h₂ := hw.found.stop_le
    rw [dirsIn_append_left hp home ha b (by omega)]
  · intro k hk
    have hw := RuleSet.within_of_mem_hits _ _ _ (List.mem_filter.mp hk).1
    have h₂ := hw.found.stop_le
    exact lineEndAfter_append_right ha b (by omega)

/-- If every rule stays within its lines, a reading can be resumed behind what was certain. -/
theorem resumable_of_withinLines (h : ∀ r ∈ cfg.rules.rules, r.WithinLines)
    (hp : DirsLineByLine p) : Resumable cfg p home := by
  intro a b ha
  have hle := certain_le cfg p home a
  have hsplit : a.take (certain cfg p home a) ++ (a.drop (certain cfg p home a) ++ b) = a ++ b :=
    take_append_drop_append _ a b
  have hlen : (a.take (certain cfg p home a)).length = certain cfg p home a := by
    rw [List.length_take]
    omega
  -- the certain findings claim the same lines in the longer text
  have hclaim : max (a.tailStart (cfg.rules.maxLines - 1))
      (claimAfter (a ++ b).lineEndAfter 0 (certainFindings cfg p home a))
        = certain cfg p home a := by
    rw [certain_eq, certainFindings_eq]
    congr 1
    unfold claimAfter
    cases hl : ((reading cfg p home a).filter fun f =>
        decide (f.start < a.tailStart (cfg.rules.maxLines - 1))).getLast? with
    | none => rfl
    | some f =>
      have hf := (List.mem_filter.mp (List.mem_of_getLast? hl)).1
      dsimp only
      rw [lineEndAfter_append_right ha b (reading_within a f hf).stop_le]
  have hrest := cfg.rules.filter_hits_restart 0 h (terminated_take_certain cfg p home ha)
    (a.drop (certain cfg p home a) ++ b)
  rw [Nat.zero_add, hsplit, hlen] at hrest
  rw [reading, findings_cut (RuleSet.hits_inOrder cfg.rules (a ++ b) 0) _
    (certainFindings_append h hp ha b) hclaim, hrest, originAfter_none, readingFrom, hsplit, hlen]

end Within

/-! ## 4. Reading on -/

namespace View

/-- The view knows the directories of the text `a`, which it has read up to its cursor. -/
structure Knows (a : Text) (v : View) : Prop where
  terminated : Terminated a
  cursor : v.cursor = a.length
  dirs : ∀ o, o < a.length → v.dirs o = dirsIn v.pattern v.home a o

section Knows

variable {v : View} {a : Text} (h : v.Knows a) (hp : DirsLineByLine v.pattern) (b : Text)
include h hp

theorem Knows.dirsWith {o : Nat} (ho : o < a.length + b.length) :
    v.dirsWith b o = dirsIn v.pattern v.home (a ++ b) o := by
  unfold View.dirsWith dirsBefore
  rw [h.cursor]
  -- before the cursor nothing changes; behind it, the new changes follow the old ones
  by_cases hlt : o < a.length
  · have hbefore : ∀ e ∈ turns v.pattern b a.length, o < e.1 := fun e he => by
      have := (le_of_mem_turns he).1
      omega
    rw [pathsAt_of_lt hbefore, dirsIn_append_left hp v.home h.terminated b hlt, if_neg (by omega),
      h.dirs _ (by omega)]
    congr 1
    omega
  · rw [dirsIn_append_right hp v.home h.terminated b (by omega) ho]
    by_cases hzero : a.length = 0
    · rw [if_pos hzero, if_pos hzero]
    · rw [if_neg hzero, if_neg hzero, Nat.min_eq_right (by omega), h.dirs _ (by omega)]

/-- What is found behind the cursor is what a reading of the text from there on finds. -/
theorem Knows.found :
    v.found b = readingFrom v.settings v.pattern v.home a b (v.kept.getLast?.map Finding.origin) := by
  unfold View.found readingFrom
  rw [h.cursor]
  apply findings_congr
  · intro k hk
    have hw := RuleSet.within_of_mem_hits _ _ _ hk
    have h₁ : k.start < k.found.span.stop := hw.nonempty
    have h₂ := hw.found.stop_le
    rw [h.dirsWith hp b (by omega)]
  · intro k hk
    have hw := RuleSet.within_of_mem_hits _ _ _ hk
    have h₁ : a.length ≤ k.start := hw.found.start_le
    have h₂ : k.start < k.found.span.stop := hw.nonempty
    have hsplit : k.found.span.stop = a.length + (k.found.span.stop - a.length) := by omega
    conv_rhs => rw [hsplit, lineEndAfter_append_left h.terminated b]

end Knows

end View

end BuildLog
