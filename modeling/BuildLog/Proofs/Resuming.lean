import BuildLog.Proofs.OneMessage
import BuildLog.Proofs.WholeReading

/-!
# Resuming — a reading that is done once more from a later line on

A log is read, and from some line on it is read again.  If no message lies about the start of this
line and every rule stays within its lines, what was found from there on is found again, as far as
the file named last is the same or does not matter.
-/

namespace BuildLog

open Text

/-! ## 1. Complete lines -/

namespace Text

/-- The complete lines behind a line start. -/
theorem completeLines_drop {t : Text} {k : Nat} (hk : Terminated (t.take k)) (hle : k ≤ t.length) :
    (t.drop k).take (terminatedLength (t.drop k)) = (t.take t.terminatedLength).drop k := by
  have hlen : t.terminatedLength = k + terminatedLength (t.drop k) := by
    conv_lhs => rw [← List.take_append_drop k t, terminatedLength_append hk, List.length_take]
    rw [Nat.min_eq_left hle]
  rw [hlen, List.drop_take, Nat.add_sub_cancel_left]

/-- Between two line starts there are whole lines. -/
theorem terminated_take_drop {t : Text} {c m : Nat} (hc : Terminated (t.take c)) (hcm : c ≤ m)
    (hm : Terminated (t.take m)) : Terminated ((t.drop c).take (m - c)) := by
  have hsplit : t.take m = t.take c ++ (t.drop c).take (m - c) := by
    rw [← List.take_add, Nat.add_sub_cancel' hcm]
  rw [hsplit] at hm
  exact hc.of_append hm

theorem terminated_take_of_newline {t : Text} {n : Nat} (h : n = 0 ∨ t[n - 1]? = some '\n') :
    n ≤ t.length ∧ Terminated (t.take n) := by
  have hn : n ≤ t.length := by
    rcases h with rfl | h
    · exact Nat.zero_le _
    · have := (List.getElem?_eq_some_iff.mp h).1
      omega
  exact ⟨hn, (terminated_take_iff hn).mpr h⟩

end Text

namespace View

/-! ## 2. What is left to be read -/

/-- What a reading of all there is reads. -/
def unread (v : View) : Text := v.readable v.text.length

theorem unread_eq (v : View) :
    v.unread = (v.text.drop v.cursor).take
      (if v.finished then (v.text.drop v.cursor).length
        else terminatedLength (v.text.drop v.cursor)) := by
  have hslice : v.text.slice v.cursor (min v.text.length v.text.length)
      = v.text.drop v.cursor := by
    rw [Nat.min_self, slice, List.take_length]
  have hend : v.atEnd v.text.length = v.finished := by simp [atEnd]
  unfold unread readable
  dsimp only
  rw [hslice, hend]

/-- Of a log that is still written to, the complete lines behind a line start are left. -/
theorem unread_drop {u w : View} (hrun : u.finished = false) (hfin : w.finished = u.finished)
    (htext : w.text = u.text) (hle : u.cursor ≤ w.cursor) (hlen : w.cursor ≤ u.text.length)
    (hterm : Terminated ((u.text.drop u.cursor).take (w.cursor - u.cursor))) :
    w.unread = u.unread.drop (w.cursor - u.cursor) := by
  have hdrop : u.text.drop w.cursor = (u.text.drop u.cursor).drop (w.cursor - u.cursor) := by
    rw [List.drop_drop, Nat.add_sub_cancel' hle]
  rw [unread_eq, unread_eq, hfin, hrun, htext, if_neg Bool.false_ne_true, if_neg Bool.false_ne_true,
    hdrop]
  exact completeLines_drop hterm (by rw [List.length_drop]; omega)

/-- The complete lines go as far as a line start at least. -/
theorem terminated_take_unread {u : View} (hrun : u.finished = false) {k : Nat}
    (hterm : Terminated ((u.text.drop u.cursor).take k)) (hk : k ≤ (u.text.drop u.cursor).length) :
    Terminated (u.unread.take k) := by
  have hfar := le_terminatedLength_take hterm hk (Nat.le_refl _)
  rw [List.take_length] at hfar
  rw [unread_eq, hrun, if_neg Bool.false_ne_true, List.take_take, Nat.min_eq_left hfar]
  exact hterm

end View

/-! ## 3. Rules that name their files -/

/-- Every match of the rule says which file it is about. -/
def Rule.NamesFile (r : Rule) : Prop :=
  ∀ t, ∀ f ∈ r.hits t 0, ((r.file.bind (·.primary f)).bind RoleValue.text?).isSome

theorem Rule.NamesFile.hits {r : Rule} (h : r.NamesFile) {t : Text} {base : Nat} {f : Found}
    (hf : f ∈ r.hits t base) : ((r.file.bind (·.primary f)).bind RoleValue.text?).isSome := by
  obtain ⟨e, he, rfl⟩ := Rule.exists_of_mem_hits hf
  simp only [Found.primary_shift]
  exact h t e he

/-- Where each hit names its file, the file named last does not matter. -/
theorem findings_of_named {cfg : ScanSettings} {dirAt : Nat → Option Path} {lineEnd : Nat → Nat}
    {hs : List Hit}
    (h : ∀ k ∈ hs, ((k.rule.file.bind (·.primary k.found)).bind RoleValue.text?).isSome)
    (claimed : Nat) (previous previous' : Option Origin) :
    findings cfg dirAt lineEnd claimed previous hs
      = findings cfg dirAt lineEnd claimed previous' hs := by
  induction hs generalizing claimed with
  | nil => rfl
  | cons k ks ih =>
    have hks := ih fun x hx => h x (List.mem_cons_of_mem k hx)
    have hk : k.finding? cfg dirAt previous = k.finding? cfg dirAt previous' := by
      obtain ⟨raw, hraw⟩ := Option.isSome_iff_exists.mp (h k List.mem_cons_self)
      unfold Hit.finding? Hit.origin?
      rw [hraw]
    rw [findings, findings, hk, hks]

/-! ## 4. Readings that are resumed -/

namespace View

/-- The view `w` is `u` after all there is was read, with the cursor at a line start in what was
read, which no finding lies about, and with the findings from there on. -/
structure Resumes (u w : View) : Prop where
  settings : w.settings = u.settings
  pattern : w.pattern = u.pattern
  home : w.home = u.home
  dirs : w.dirs = u.dirsWith u.unread
  provisional : w.provisional = (u.found u.unread).filter (w.cursor ≤ ·.start)
  cursor_le : u.cursor ≤ w.cursor
  terminated : Terminated (u.unread.take (w.cursor - u.cursor))
  unread : w.unread = u.unread.drop (w.cursor - u.cursor)
  outside : ∀ f ∈ u.found u.unread, f.start < w.cursor → f.span.stop ≤ w.cursor

section Resumes

variable {u w : View} (h : u.Resumes w) (hne : w.unread ≠ [])
include h hne

theorem Resumes.lt_length : w.cursor - u.cursor < u.unread.length := by
  rw [h.unread] at hne
  exact Nat.lt_of_not_le fun hle => hne (List.drop_eq_nil_of_le hle)

theorem Resumes.length_take :
    u.cursor + (u.unread.take (w.cursor - u.cursor)).length = w.cursor := by
  have h₁ := h.lt_length hne
  have h₂ := h.cursor_le
  rw [List.length_take]
  omega

theorem Resumes.dirsWith (hp : DirsLineByLine u.pattern) {o : Nat} (ho : w.cursor ≤ o)
    (ho' : o < u.cursor + u.unread.length) : w.dirsWith w.unread o = u.dirsWith u.unread o := by
  have hlt := h.lt_length hne
  have hle := h.cursor_le
  have happ := pathsAt_turns_append hp h.terminated (u.unread.drop (w.cursor - u.cursor)) u.cursor
    (u.dirsBefore u.cursor o) (o := o) (by rw [h.length_take hne]; exact ho)
    (by rw [h.length_take hne, List.length_drop]; omega)
  rw [List.take_append_drop, h.length_take hne] at happ
  -- the changes before the cursor lead to the directories of the last character before it
  have hbefore : pathsAfter ((turns u.pattern u.unread u.cursor).filter (·.1 < w.cursor))
      (u.dirsBefore u.cursor o) = w.dirsBefore w.cursor o := by
    unfold dirsBefore
    rw [h.home, h.dirs]
    by_cases hzero : w.cursor = 0
    · have hnone : (turns u.pattern u.unread u.cursor).filter (·.1 < w.cursor) = [] := by
        rw [List.filter_eq_nil_iff]
        intro e _
        simp [hzero]
      rw [if_pos hzero, if_pos (by omega), hnone]
      rfl
    · have hmin : min o (w.cursor - 1) = w.cursor - 1 := by omega
      have hfilter : (turns u.pattern u.unread u.cursor).filter (·.1 ≤ w.cursor - 1)
          = (turns u.pattern u.unread u.cursor).filter (·.1 < w.cursor) := by
        apply List.filter_congr
        intro e _
        rw [decide_eq_decide]
        omega
      rw [if_neg hzero, hmin, View.dirsWith, pathsAt, hfilter, dirsBefore]
      congr 1
      by_cases hu : u.cursor = 0
      · rw [if_pos hu, if_pos hu]
      · rw [if_neg hu, if_neg hu]
        congr 1
        omega
  show pathsAt (turns w.pattern w.unread w.cursor) _ o = pathsAt _ _ o
  rw [h.pattern, h.unread, ← hbefore, happ]

/-- What is found from the cursor of `w` on: in the text behind it, what `u` finds there. -/
theorem Resumes.found_eq (hp : DirsLineByLine u.pattern)
    (hrules : ∀ r ∈ u.settings.rules.rules, r.WithinLines) :
    w.found w.unread = BuildLog.findings u.settings (fun o => (u.dirsWith u.unread o).head?)
      (fun stop => u.cursor + u.unread.lineEndAfter (stop - u.cursor)) w.cursor
      (w.kept.getLast?.map Finding.origin)
      ((u.settings.rules.hits u.unread u.cursor).filter (w.cursor ≤ ·.start)) := by
  have hlt := h.lt_length hne
  have hlen := h.length_take hne
  have hrestart := u.settings.rules.filter_hits_restart u.cursor hrules h.terminated
    (u.unread.drop (w.cursor - u.cursor))
  rw [List.take_append_drop, hlen, ← h.unread] at hrestart
  have hwlen : w.cursor + w.unread.length = u.cursor + u.unread.length := by
    rw [h.unread, List.length_drop]
    have := h.cursor_le
    omega
  unfold found
  -- a search from the cursor on has the hits of the whole search that lie behind the cursor
  rw [h.settings, hrestart]
  apply findings_congr
  · intro k hk
    have hw := RuleSet.within_of_mem_hits _ _ _ hk
    have h₁ : w.cursor ≤ k.start := hw.found.start_le
    have h₂ := hw.nonempty
    have h₃ := hw.found.stop_le
    have h₄ : k.found.start = k.start := rfl
    rw [h.dirsWith hne hp h₁ (by omega)]
  · intro k hk
    have hw := RuleSet.within_of_mem_hits _ _ _ hk
    have h₁ := hw.found.start_le
    have h₂ := hw.nonempty
    -- the line ends in the part of the text behind the cursor
    have hend := lineEndAfter_append_left h.terminated (u.unread.drop (w.cursor - u.cursor))
      (k.found.span.stop - w.cursor)
    rw [List.take_append_drop, ← h.unread] at hend
    have hstop : (u.unread.take (w.cursor - u.cursor)).length + (k.found.span.stop - w.cursor)
        = k.found.span.stop - u.cursor := by omega
    rw [hstop] at hend
    rw [hend]
    omega

/-- What was found from the cursor of `w` on. -/
theorem Resumes.provisional_eq :
    w.provisional = BuildLog.findings u.settings (fun o => (u.dirsWith u.unread o).head?)
      (fun stop => u.cursor + u.unread.lineEndAfter (stop - u.cursor)) w.cursor
      (originAfter (u.kept.getLast?.map Finding.origin)
        ((u.found u.unread).filter (·.start < w.cursor)))
      ((u.settings.rules.hits u.unread u.cursor).filter (w.cursor ≤ ·.start)) := by
  have hin := RuleSet.hits_inOrder u.settings.rules u.unread u.cursor
  have hfs : (u.found u.unread).filter (·.start < w.cursor) = _ := filter_findings_lt hin w.cursor
  -- the findings before the cursor end before it, and so do their lines
  have hclaim : max w.cursor (claimAfter
      (fun stop => u.cursor + u.unread.lineEndAfter (stop - u.cursor)) u.cursor
      ((u.found u.unread).filter (·.start < w.cursor))) = w.cursor := by
    apply Nat.max_eq_left
    unfold claimAfter
    cases hlast : ((u.found u.unread).filter (·.start < w.cursor)).getLast? with
    | none => exact h.cursor_le
    | some f =>
      obtain ⟨hf, hfc⟩ := List.mem_filter.mp (List.mem_of_getLast? hlast)
      have hstop := h.outside f hf (of_decide_eq_true hfc)
      have hend := (lineEndAfter_le_iff (h.lt_length hne)).mpr
        ⟨_, Nat.sub_le_sub_right hstop u.cursor, Nat.le_refl _, h.terminated⟩
      have := h.cursor_le
      dsimp only
      omega
  have hcut := findings_cut hin w.cursor hfs.symm hclaim
  rw [h.provisional]
  conv_lhs => rw [found, hcut]
  apply filter_append_right
  · intro f hf
    have := of_decide_eq_true (List.mem_filter.mp hf).2
    exact decide_eq_false (by omega)
  · intro f hf
    obtain ⟨k, hk, o, rfl⟩ := exists_hit_of_mem hf
    exact (List.mem_filter.mp hk).2

/-- What was found is found again, if the file named last is still known, or if it need not be. -/
theorem Resumes.found (hp : DirsLineByLine u.pattern)
    (hrules : ∀ r ∈ u.settings.rules.rules, r.WithinLines)
    (horigin : originAfter (u.kept.getLast?.map Finding.origin)
          ((u.found u.unread).filter (·.start < w.cursor)) = w.kept.getLast?.map Finding.origin
        ∨ ∀ r ∈ u.settings.rules.rules, r.NamesFile) : w.found w.unread = w.provisional := by
  rw [h.found_eq hne hp hrules, h.provisional_eq hne]
  rcases horigin with heq | hnamed
  · rw [heq]
  · apply findings_of_named
    intro k hk
    obtain ⟨hrule, hfound⟩ := RuleSet.mem_of_mem_hits _ _ _ (List.mem_filter.mp hk).1
    exact (hnamed k.rule hrule).hits hfound

end Resumes

end View

end BuildLog
