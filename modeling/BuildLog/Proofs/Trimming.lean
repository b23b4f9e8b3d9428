import BuildLog.Proofs.Mirroring
import BuildLog.Proofs.Resuming
import BuildLog.Proofs.Sweeping

/-!
# Trimming — what is left of a log that loses its head

When the head of a log goes, the messages behind it are counted from the new start, and those of the
last lines are read once more.  This reading no longer knows the messages of the head.  It finds the
same again if the log is finished, or if every rule stays within its lines and the file that a
message takes over from the one before it is known still.
-/

namespace BuildLog

open Text

/-! ## 1. Views that lose their head -/

namespace View

/-- The view in which the messages of the first `n` characters are forgotten, and which is read on
behind these. -/
def forget (n : Nat) (v : View) : View :=
  { v with cursor := max n v.cursor, findings := v.findings.filter (n ≤ ·.start) }

/-- The view when the first `n` characters are gone, with the labels that are left. -/
def trim (n : Nat) (labels : List LabelledSpan) (v : View) : View :=
  { v with
    home := v.dirsBefore n n
    dirs := fun o => v.dirs (o + n)
    cursor := v.cursor - n
    findings := (v.findings.filter (n ≤ ·.start)).map (·.shiftBack n)
    pendingClear := v.pendingClear.map (· - n)
    text := v.text.drop n
    labels }

section Trim

variable {v : View} (n : Nat) (labels : List LabelledSpan)

theorem Ready.trim (h : v.Ready) : (v.trim n labels).Ready := by
  have hpending := h.pending
  refine ⟨?_, h.rewound, ?_, ?_⟩
  · show v.pendingClear.map _ = none
    rw [hpending]
    rfl
  · show v.cursor - n ≤ (v.text.drop n).length
    rw [List.length_drop]
    exact Nat.sub_le_sub_right h.cursor_le n
  · show Terminated ((v.text.drop n).take (v.cursor - n)) ∨ v.cursor - n = (v.text.drop n).length
    rw [← List.drop_take, List.length_drop]
    exact h.lineStart.imp (fun hterm => hterm.drop n) fun hend => by rw [hend]

theorem cursor_forget (v : View) : (v.forget n).cursor = (v.trim n labels).cursor + n := by
  show max n v.cursor = v.cursor - n + n
  omega

theorem unread_trim (v : View) : (v.trim n labels).unread = (v.forget n).unread := by
  have hdrop : (v.trim n labels).text.drop (v.trim n labels).cursor
      = (v.forget n).text.drop (v.forget n).cursor := by
    show (v.text.drop n).drop (v.cursor - n) = v.text.drop (max n v.cursor)
    rw [List.drop_drop]
    congr 1
    omega
  rw [unread_eq, unread_eq, hdrop]
  rfl

theorem kept_trim (v : View) :
    (v.trim n labels).kept = (v.forget n).kept.map (·.shiftBack n) := by
  show ((v.findings.filter (n ≤ ·.start)).map (·.shiftBack n)).filter (·.start < v.cursor - n) = _
  rw [List.filter_map]
  congr 1
  apply List.filter_congr
  intro f hf
  have := of_decide_eq_true (List.mem_filter.mp hf).2
  show decide (f.start - n < v.cursor - n) = decide (f.start < max n v.cursor)
  rw [decide_eq_decide]
  omega

theorem provisional_trim (v : View) :
    (v.trim n labels).provisional = (v.forget n).provisional.map (·.shiftBack n) := by
  show ((v.findings.filter (n ≤ ·.start)).map (·.shiftBack n)).filter (v.cursor - n ≤ ·.start) = _
  rw [List.filter_map]
  congr 1
  apply List.filter_congr
  intro f hf
  have := of_decide_eq_true (List.mem_filter.mp hf).2
  show decide (v.cursor - n ≤ f.start - n) = decide (max n v.cursor ≤ f.start)
  rw [decide_eq_decide]
  omega

theorem dirsWith_trim (v : View) (text : Text) (o : Nat) :
    (v.forget n).dirsWith text (o + n) = (v.trim n labels).dirsWith text o := by
  have hbefore : (v.forget n).dirsBefore ((v.trim n labels).cursor + n) (o + n)
      = (v.trim n labels).dirsBefore (v.trim n labels).cursor o := by
    show (if v.cursor - n + n = 0 then v.home
        else v.dirs (min (o + n) (v.cursor - n + n - 1)))
      = if v.cursor - n = 0 then (if n = 0 then v.home else v.dirs (min n (n - 1)))
        else v.dirs (min o (v.cursor - n - 1) + n)
    -- the directories at the new start are those of the last character that is gone
    by_cases hin : v.cursor - n = 0
    · rw [if_pos hin, hin, Nat.zero_add]
      by_cases hzero : n = 0
      · rw [if_pos hzero, if_pos hzero]
      · rw [if_neg hzero, if_neg hzero]
        congr 1
        omega
    · rw [if_neg hin, if_neg (by omega)]
      congr 1
      omega
  unfold dirsWith
  rw [cursor_forget n labels, hbefore]
  show pathsAt (turns v.pattern text _) _ _ = pathsAt (turns v.pattern text _) _ _
  rw [turns_shift, pathsAt_shift]

/-- Without its head, a log has the findings of the whole log in which those of the head are
forgotten. -/
theorem found_trim (v : View) (text : Text) :
    (v.forget n).found text = ((v.trim n labels).found text).map (·.shift n) := by
  have horigin : (v.trim n labels).kept.getLast?.map Finding.origin
      = (v.forget n).kept.getLast?.map Finding.origin := by
    rw [kept_trim, List.getLast?_map, Option.map_map]
    rfl
  unfold found
  rw [horigin, cursor_forget n labels]
  apply findings_hits_shift
  · intro o
    rw [dirsWith_trim]
  · intro x
    rw [Nat.add_sub_add_right]
    omega

/-- The messages that are read again once the first `n` characters are gone are found again. -/
def Carries (n : Nat) (v : View) : Prop :=
  (v.forget n).unread = []
    ∨ ((v.forget n).found (v.forget n).unread).map (·.shiftBack n)
      = (v.forget n).provisional.map (·.shiftBack n)

instance (v : View) : Decidable (v.Carries n) :=
  inferInstanceAs (Decidable (_ = [] ∨ _ = _))

/-- A log that lost its head, and is then read, has the findings that it was left with just if those
that are read again are found again. -/
theorem Ready.findings_trim_iff (h : v.Ready) (hord : Ordered v.findings) :
    ((v.trim n labels).advance (v.trim n labels).text.length).2.findings
        = (v.trim n labels).findings
      ↔ v.Carries n := by
  have hsplit : (v.trim n labels).kept ++ (v.trim n labels).provisional
      = (v.trim n labels).findings :=
    filter_lt_append Finding.start ((hord.shiftBack n).starts.imp Nat.le_of_lt) _
  have hfound : ((v.forget n).found (v.forget n).unread).map (·.shiftBack n)
      = (v.trim n labels).found (v.forget n).unread := by
    rw [found_trim n labels, List.map_map]
    exact (List.map_congr_left fun f _ => f.shiftBack_shift n).trans (List.map_id _)
  have hunread : (v.trim n labels).readable (v.trim n labels).text.length
      = (v.forget n).unread := unread_trim n labels v
  rw [(h.trim n labels).advance, View.readOn, hunread]
  unfold Carries
  rw [hfound, ← provisional_trim n labels]
  by_cases hnil : (v.forget n).unread = []
  · rw [if_pos hnil]
    exact iff_of_true rfl (.inl hnil)
  · -- the messages before the cursor stay, so the others decide
    rw [if_neg hnil]
    show (v.trim n labels).kept ++ (v.trim n labels).found (v.forget n).unread = _ ↔ _
    rw [← hsplit, List.append_cancel_left_eq]
    exact ⟨.inr, fun hcarries => hcarries.resolve_left hnil⟩

end Trim

/-! ## 2. Finished logs -/

/-- Of a log that will not grow, nothing is left to be read. -/
theorem Ready.cursor_readOn_of_finished {v : View} (h : v.Ready) (hfin : v.finished = true) :
    (v.readOn v.text.length).2.cursor = v.text.length := by
  have hat : v.atEnd v.text.length = true := by simp [atEnd, hfin]
  have hend := readEnd_of_atEnd hat h.cursor_le
  unfold readEnd at hend
  unfold View.readOn
  split
  · rename_i hnil
    rw [hnil] at hend
    exact hend
  · rw [hat]
    exact hend

theorem carries_of_cursor {v : View} (h : v.cursor = v.text.length) (n : Nat) : v.Carries n := by
  have hnil : v.text.drop (max n v.cursor) = [] := List.drop_eq_nil_of_le (by omega)
  left
  rw [unread_eq]
  show (v.text.drop (max n v.cursor)).take _ = []
  rw [hnil, List.take_nil]

/-! ## 3. Running logs -/

section ReadText

variable (u : View) (text : Text) (n : Nat)

theorem provisional_forget (v : View) :
    (v.forget n).provisional = v.provisional.filter ((v.forget n).cursor ≤ ·.start) := by
  show (v.findings.filter (n ≤ ·.start)).filter (max n v.cursor ≤ ·.start)
    = (v.findings.filter (v.cursor ≤ ·.start)).filter (max n v.cursor ≤ ·.start)
  rw [filter_filter_of_imp, filter_filter_of_imp]
  · intro f _ hf
    have := of_decide_eq_true hf
    exact decide_eq_true (by omega)
  · intro f _ hf
    have := of_decide_eq_true hf
    exact decide_eq_true (by omega)

/-- The file named last before an offset behind the cursor. -/
theorem originAfter_kept {m : Nat} (hm : u.cursor ≤ m) :
    originAfter (u.kept.getLast?.map Finding.origin) ((u.found text).filter (·.start < m))
      = (((u.kept ++ u.found text).filter (·.start < m)).getLast?).map Finding.origin := by
  have hkept : u.kept.filter (·.start < m) = u.kept := by
    rw [List.filter_eq_self]
    intro f hf
    have := of_decide_eq_true (List.mem_filter.mp hf).2
    exact decide_eq_true (by omega)
  rw [List.filter_append, hkept, ← originAfter_none, ← originAfter_none, originAfter_append]

/-- The last finding before an offset is behind the head, if one there is. -/
theorem getLast?_filter_le {fs : List Finding} (hord : Ordered fs) {m : Nat}
    (h : ∃ f ∈ fs, n ≤ f.start ∧ f.start < m) :
    ((fs.filter (n ≤ ·.start)).filter (·.start < m)).getLast?
      = (fs.filter (·.start < m)).getLast? := by
  obtain ⟨f, hf, hnf, hfm⟩ := h
  have hmem : f ∈ (fs.filter (n ≤ ·.start)).filter (·.start < m) :=
    List.mem_filter.mpr ⟨List.mem_filter.mpr ⟨hf, decide_eq_true hnf⟩, decide_eq_true hfm⟩
  conv_rhs => rw [← filter_lt_append Finding.start (hord.starts.imp Nat.le_of_lt) n,
    List.filter_append, List.getLast?_append]
  cases hlast : ((fs.filter (n ≤ ·.start)).filter (·.start < m)).getLast? with
  | some g => rfl
  | none =>
    rw [List.getLast?_eq_none_iff] at hlast
    rw [hlast] at hmem
    cases hmem

end ReadText

section ReadOn

variable {u : View} {n : Nat}

theorem readOn_of_unread (hne : u.unread ≠ []) (hrun : u.finished = false) :
    (u.readOn u.text.length).2 = (u.readText u.unread false).2 := by
  have hne' : u.readable u.text.length ≠ [] := hne
  unfold View.readOn
  rw [if_neg hne', atEnd_eq_false hrun]
  rfl

/-- A reading can be resumed behind a head that ends at a line start in no message. -/
theorem Ready.resumes_forget (h : u.Ready) (hrun : u.finished = false) (hne : u.unread ≠ [])
    (hn : n ≤ u.text.length) (hline : Terminated (u.text.take n))
    (houtside : ∀ f ∈ (u.readOn u.text.length).2.findings, f.start < n → f.span.stop ≤ n) :
    u.Resumes ((u.readOn u.text.length).2.forget n) := by
  have hend := readEnd_le hne
  have hstart : Terminated (u.text.take u.cursor) := h.lineStart.resolve_right (by omega)
  have hcursor := h.terminated_readText hne (atEnd_eq_false hrun u.text.length)
  have hready := h.readOn u.text.length
  have hle := cursor_le_readText u u.unread false
  have hprovisional := provisional_readText u u.unread false
  have hstop := fun f => stop_le_readText u u.unread false (f := f)
  have hfound : ∀ f ∈ u.found u.unread, f ∈ (u.readText u.unread false).2.findings :=
    fun f hf => List.mem_append_right u.kept hf
  have hdirs : (u.readText u.unread false).2.dirs = u.dirsWith u.unread := rfl
  rw [atEnd_eq_false hrun] at hcursor
  change Terminated (u.text.take (u.readText u.unread false).2.cursor) at hcursor
  have hsame : (u.readText u.unread false).2.settings = u.settings
      ∧ (u.readText u.unread false).2.pattern = u.pattern
      ∧ (u.readText u.unread false).2.home = u.home
      ∧ (u.readText u.unread false).2.finished = u.finished
      ∧ (u.readText u.unread false).2.text = u.text := ⟨rfl, rfl, rfl, rfl, rfl⟩
  rw [readOn_of_unread hne hrun] at houtside hready ⊢
  generalize (u.readText u.unread false).2 = v at *
  obtain ⟨hsettings, hpattern, hhome, hfinished, htext⟩ := hsame
  -- the place to go on from is that of the reading, or the new head of the log
  have hmax : u.cursor ≤ (v.forget n).cursor := Nat.le_trans hle (Nat.le_max_right n v.cursor)
  have hlen : (v.forget n).cursor ≤ u.text.length :=
    Nat.max_le.mpr ⟨hn, htext ▸ hready.cursor_le⟩
  have hcases : (v.forget n).cursor = v.cursor ∨ (v.forget n).cursor = n :=
    (Nat.le_total n v.cursor).imp Nat.max_eq_right Nat.max_eq_left
  have hterm : Terminated (u.text.take (v.forget n).cursor) := by
    rcases hcases with heq | heq
    · rwa [heq]
    · rwa [heq]
  have hlines := terminated_take_drop hstart hmax hterm
  refine ⟨hsettings, hpattern, hhome, hdirs, ?_, hmax, ?_,
    unread_drop hrun hfinished htext hmax hlen hlines, fun f hf => ?_⟩
  · rw [provisional_forget, hprovisional, filter_filter_of_imp]
    intro f _ hf
    have := Nat.le_trans (Nat.le_max_right n v.cursor) (of_decide_eq_true hf)
    exact decide_eq_true this
  · exact terminated_take_unread hrun hlines (by rw [List.length_drop]; omega)
  · rcases hcases with heq | heq
    · rw [heq]
      exact hstop f hf
    · rw [heq]
      exact houtside f (hfound f hf)

/-- If there is no complete line to read, there is none behind a line start. -/
theorem Ready.unread_forget_of_nil (h : u.Ready) (hrun : u.finished = false) (hnil : u.unread = [])
    (hn : n ≤ u.text.length) (hline : Terminated (u.text.take n)) : (u.forget n).unread = [] := by
  -- the head ends before the cursor, or takes lines with it that are not read yet
  rcases Nat.le_total n u.cursor with hc | hc
  · have hcursor : (u.forget n).cursor = u.cursor := Nat.max_eq_right hc
    rw [unread_eq, hcursor, ← hnil, unread_eq]
    rfl
  · have hcursor : (u.forget n).cursor = n := Nat.max_eq_left hc
    have hterm : Terminated ((u.text.drop u.cursor).take (n - u.cursor)) := by
      rcases h.lineStart with hstart | hend
      · exact terminated_take_drop hstart hc hline
      · rw [hend, List.drop_length, List.take_nil]
        exact terminated_nil
    rw [← hcursor] at hterm hc hn
    rw [unread_drop (w := u.forget n) hrun rfl rfl hc hn hterm, hnil, List.drop_nil]

/-- A log that is still written to can lose its head at a line start in no message, if its rules
stay within their lines and a message that names no file has one to take over. -/
theorem Ready.carries_readOn (h : u.Ready) (hord : Ordered u.findings) (hrun : u.finished = false)
    (hp : DirsLineByLine u.pattern) (hrules : ∀ r ∈ u.settings.rules.rules, r.WithinLines)
    (hn : n ≤ u.text.length) (hline : Terminated (u.text.take n))
    (houtside : ∀ f ∈ (u.readOn u.text.length).2.findings, f.start < n → f.span.stop ≤ n)
    (hfile : (∃ f ∈ (u.readOn u.text.length).2.findings,
        n ≤ f.start ∧ f.start < (u.readOn u.text.length).2.cursor)
      ∨ (∀ f ∈ (u.readOn u.text.length).2.findings, n ≤ f.start)
      ∨ ∀ r ∈ u.settings.rules.rules, r.NamesFile) : (u.readOn u.text.length).2.Carries n := by
  by_cases hnil : u.unread = []
  · -- the last reading read nothing, so there is nothing to find again
    left
    have hsame : (u.readOn u.text.length).2 = u := by
      have hnil' : u.readable u.text.length = [] := hnil
      unfold View.readOn
      rw [if_pos hnil']
    rw [hsame]
    exact h.unread_forget_of_nil hrun hnil hn hline
  · have hresumes := h.resumes_forget hrun hnil hn hline houtside
    have hfindings : Ordered (u.readText u.unread false).2.findings :=
      ordered_readText hord u.unread false
    have hlast := originAfter_kept u u.unread hresumes.cursor_le
    rw [readOn_of_unread hnil hrun] at hresumes hfile hlast ⊢
    by_cases hne : ((u.readText u.unread false).2.forget n).unread = []
    · exact .inl hne
    · right
      refine congrArg _ (hresumes.found hne hp hrules ?_)
      rw [hlast]
      rcases hfile with ⟨f, hf, hnf, hfc⟩ | hall | hnamed
      · -- the last message before the cursor is one of those that are left
        left
        congr 1
        have hbefore : ∃ f ∈ (u.readText u.unread false).2.findings, n ≤ f.start
            ∧ f.start < ((u.readText u.unread false).2.forget n).cursor :=
          ⟨f, hf, hnf, Nat.lt_of_lt_of_le hfc (Nat.le_max_right n _)⟩
        exact (getLast?_filter_le n hfindings hbefore).symm
      · left
        -- no message begins in the head, so none is forgotten
        have hself : (u.readText u.unread false).2.findings.filter (n ≤ ·.start)
            = (u.readText u.unread false).2.findings :=
          List.filter_eq_self.mpr fun f hf => decide_eq_true (hall f hf)
        show _ = (((u.readText u.unread false).2.findings.filter (n ≤ ·.start)).filter _).getLast?.map _
        rw [hself]
        rfl
      · exact .inr hnamed

end ReadOn

section Advance

variable {v w : View} (hw : w = (v.advance v.text.length).2) {n : Nat}
include hw

theorem eq_readOn : w = (v.settle.snap.readOn v.settle.snap.text.length).2 := by
  rw [hw, View.advance, text_snap]
  rfl

theorem carries_of_finished (hfin : w.finished = true) : w.Carries n := by
  have hready := ready_settle_snap v
  have hsame := sameSetting_advance v.settle.snap.text.length v.settle.snap
  rw [hready.advance, ← eq_readOn hw] at hsame
  apply carries_of_cursor
  rw [eq_readOn hw, hready.cursor_readOn_of_finished (hsame.finished ▸ hfin), text_readOn]

theorem carries_of_withinLines (hord : Ordered v.findings) (hrun : w.finished = false)
    (hp : DirsLineByLine w.pattern) (hrules : ∀ r ∈ w.settings.rules.rules, r.WithinLines)
    (hn : n ≤ w.text.length) (hline : Terminated (w.text.take n))
    (houtside : ∀ f ∈ w.findings, f.start < n → f.span.stop ≤ n)
    (hfile : (∃ f ∈ w.findings, n ≤ f.start ∧ f.start < w.cursor)
      ∨ (∀ f ∈ w.findings, n ≤ f.start) ∨ ∀ r ∈ w.settings.rules.rules, r.NamesFile) :
    w.Carries n := by
  have hready := ready_settle_snap v
  have hsame := sameSetting_advance v.settle.snap.text.length v.settle.snap
  have htext := text_readOn v.settle.snap.text.length v.settle.snap
  rw [hready.advance, ← eq_readOn hw] at hsame
  rw [← eq_readOn hw] at htext
  rw [hsame.finished] at hrun
  rw [hsame.pattern] at hp
  rw [hsame.settings] at hrules hfile
  rw [htext] at hn hline
  rw [eq_readOn hw] at houtside hfile ⊢
  exact hready.carries_readOn (ordered_snap hord) hrun hp hrules hn hline houtside hfile

end Advance

end View

/-! ## 4. Sessions -/

/-- Two views in which the same is looked for. -/
structure View.SameRules (v w : View) : Prop where
  settings : w.settings = v.settings
  pattern : w.pattern = v.pattern

theorem View.SameSetting.rules {v w : View} (h : v.SameSetting w) : v.SameRules w :=
  ⟨h.settings, h.pattern⟩

theorem View.SameRules.trans {u v w : View} (h : u.SameRules v) (h' : v.SameRules w) :
    u.SameRules w := ⟨h'.settings.trans h.settings, h'.pattern.trans h.pattern⟩

namespace Session

theorem sameRules_serve {s : Session} (hs : s.parseState.Sound) (r : Request) :
    s.parseState.view.SameRules (s.serve r).parseState.view := by
  have hread : ∀ disk upto,
      s.parseState.view.SameRules (Parse.advance disk upto s.parseState).2.view := by
    intro disk upto
    rw [(Parse.view_advance hs disk upto).2.1]
    exact (View.sameSetting_advance upto _).rules
  have hedit : ∀ offset, s.parseState.view.SameRules (s.onEdit offset).parseState.view := by
    intro offset
    rw [view_onEdit]
    exact (View.sameSetting_flushFrom _ offset).rules
  have hjump : ∀ {u : Session} (disk : Disk) (start : Nat), u.parseState.Sound →
      u.parseState.view.SameRules (u.jump disk start).2.parseState.view := by
    intro u disk start hu
    have hview : (u.jump disk start).2.parseState.view = u.parseState.view :=
      (Parse.jump_spec disk start u.navigation u.sources hu).1
    rw [hview]
    exact ⟨rfl, rfl⟩
  -- a step between messages reads first
  have hstep : ∀ move disk, s.parseState.view.SameRules (s.stepWith move disk).2.parseState.view
      ∧ (s.stepWith move disk).2.parseState.Sound := by
    intro move disk
    rw [parseState_stepWith]
    exact ⟨hread disk _, (Parse.view_advance hs disk _).2.2⟩
  cases r with
  | insert offset t => exact ⟨(hedit offset).settings, (hedit offset).pattern⟩
  | delete span => exact ⟨(hedit span.start).settings, (hedit span.start).pattern⟩
  | edited offset => exact hedit offset
  | read disk upto => exact hread disk upto
  | nextMessage disk n => exact (hstep _ disk).1
  | nextFile disk n => exact (hstep _ disk).1
  | firstMessage disk => exact (hstep _ disk).1
  | jump disk start => exact hjump disk start hs
  | nextError disk n =>
    have hnext := hstep (fun nav p t => nav.step n false disk p t) disk
    show s.parseState.view.SameRules (s.nextError disk n).2.parseState.view
    unfold nextError nextMessage
    revert hnext
    generalize s.stepWith (fun nav p t => nav.step n false disk p t) disk = r
    obtain ⟨e | m, u⟩ := r
    · exact fun hnext => hnext.1
    · exact fun hnext => hnext.1.trans (hjump disk m.start hnext.2)
  | _ => exact ⟨rfl, rfl⟩

theorem sameRules_serveAll {s : Session} (h : s.parseState.Balanced) (rs : List Request) :
    s.parseState.view.SameRules (s.serveAll rs).parseState.view := by
  induction rs generalizing s with
  | nil => exact ⟨rfl, rfl⟩
  | cons r rs ih => exact (sameRules_serve h.sound r).trans (ih (balanced_serve h r))

theorem view_trim {s : Session} (hs : s.parseState.Sound) {n : Nat} (hn : n ≤ s.log.text.length) :
    (s.trim n).2.parseState.view = s.parseState.view.trim n
      ((s.log.clearLabels 0 n).delete ⟨0, n⟩).labels.spans := by
  have hmin : min n s.log.length = n := Nat.min_eq_left hn
  have hfindings := Parse.findings_discardBefore s.parseState n
  have htext := Transcript.text_trim s.log hn
  have hhome : (s.parse.trail.shiftBack n).base.paths = s.parseState.view.dirsBefore n n := by
    rw [DirectoryTrail.base_shiftBack]
    unfold View.dirsBefore
    rw [Nat.min_eq_right (Nat.sub_le n 1)]
    split <;> rfl
  have hdirs : (fun o => ((s.parse.trail.shiftBack n).stackAt o).paths)
      = fun o => s.parseState.view.dirs (o + n) := by
    funext o
    exact congrArg DirectoryStack.paths
      (DirectoryTrail.stackAt_shiftBack (t := s.parse.trail) hs.trail.sorted n o)
  unfold Session.trim
  dsimp only
  rw [hmin]
  unfold parseState Parse.State.view View.trim
  rw [View.mk.injEq]
  exact ⟨rfl, rfl, hhome, hdirs, rfl, rfl, hfindings, rfl, rfl, htext, rfl⟩

theorem view_parseAll {s : Session} (hs : s.parseState.Sound) (disk : Disk) :
    (s.parseAll disk).2.parseState.view = (s.parseState.view.advance s.log.text.length).2 :=
  (Parse.view_advance hs disk s.log.text.length).2.1

theorem findings_trim_parseAll_iff {s : Session} (hs : s.parseState.Sound)
    (hready : s.parseState.view.Ready) (hord : Ordered s.parseState.view.findings) {n : Nat}
    (hn : n ≤ s.log.text.length) (disk : Disk) :
    ((s.trim n).2.parseAll disk).2.parse.messages.map Message.finding
        = ((s.parse.messages.filter (n ≤ ·.start)).map (·.shiftBack n)).map Message.finding
      ↔ s.parseState.view.Carries n := by
  have hsound : (s.trim n).2.parseState.Sound := sound_turn hs (.trim n)
  have hread := congrArg View.findings (view_parseAll hsound disk)
  have hlen : (s.trim n).2.log.text.length = (s.trim n).2.parseState.view.text.length := rfl
  rw [hlen, view_trim hs hn] at hread
  have hleft : ((s.parse.messages.filter (n ≤ ·.start)).map (·.shiftBack n)).map Message.finding
      = (s.parseState.view.trim n
          ((s.log.clearLabels 0 n).delete ⟨0, n⟩).labels.spans).findings := by
    show _ = ((s.parse.messages.map Message.finding).filter (n ≤ ·.start)).map (·.shiftBack n)
    rw [← Parse.map_finding_filter s.parse.messages fun start => decide (n ≤ start), List.map_map,
      List.map_map]
    rfl
  rw [hleft, ← hready.findings_trim_iff n _ hord, ← hread]
  rfl

/-- The log of a session loses its head, at a line start in no message, and is read again.  The
messages behind the head are left, and no others, just if those that are read again are found
again.  They are in a finished log, and also if every rule stays within its lines and one of three
holds: a message is left that is not read again, no message goes, or every rule names its file. -/
theorem trim_parseAll_iff (cfg : ScanSettings) (p : Option DirectoryPattern) (workingDir : Path)
    (searchPath : List (Option Path)) (nav : NavigationSettings) (sources : Sources)
    (log : Transcript) (rs : List Request) (disk disk' : Disk) (n : Nat) :
    let s := (((start cfg { pattern := p } { workingDir, searchPath } nav sources log).serveAll
      rs).parseAll disk).2
    (n = 0 ∨ s.log.text[n - 1]? = some '\n') →
      (∀ m ∈ s.parse.messages, n ≤ m.start ∨ m.span.stop ≤ n) →
      (((s.trim n).2.parseAll disk').2.parse.messages.map Message.finding
          = ((s.parse.messages.filter (n ≤ ·.start)).map (·.shiftBack n)).map Message.finding
        ↔ s.parseState.view.Carries n)
      ∧ (s.parse.finished = true → s.parseState.view.Carries n)
      ∧ ((∀ r ∈ cfg.rules.rules, r.WithinLines) → DirsLineByLine p →
        ((∃ m ∈ s.parse.messages, n ≤ m.start ∧ m.start < s.parse.cursor)
          ∨ (∀ m ∈ s.parse.messages, n ≤ m.start) ∨ ∀ r ∈ cfg.rules.rules, r.NamesFile) →
        s.parseState.view.Carries n) := by
  intro s hline houtside
  have hstart : (start cfg { pattern := p } { workingDir, searchPath } nav sources
      log).parseState.Balanced := by
    have hattach := (Parse.State.balanced_start cfg p workingDir searchPath log).attach
    exact hattach
  have hbefore := balanced_serveAll hstart rs
  have hbalanced : s.parseState.Balanced := hbefore.read disk _
  have hview := view_parseAll hbefore.sound disk
  have hready : s.parseState.view.Ready := by
    rw [hview]
    exact View.ready_advance _ _
  obtain ⟨hsettings, hpattern⟩ : View.SameRules _ s.parseState.view :=
    (sameRules_serveAll hstart rs).trans
      (sameRules_serve hbefore.sound (.read disk (Session.log _).length))
  have hcfg : s.parseState.view.settings = cfg := hsettings
  have hp' : s.parseState.view.pattern = p := hpattern
  obtain ⟨hn, hterm⟩ := terminated_take_of_newline hline
  have houtside' : ∀ f ∈ s.parseState.view.findings, f.start < n → f.span.stop ≤ n := by
    intro f hf hlt
    obtain ⟨m, hm, rfl⟩ := List.mem_map.mp hf
    exact (houtside m hm).resolve_left (Nat.not_le.mpr hlt)
  refine ⟨findings_trim_parseAll_iff hbalanced.sound hready hbalanced.ordered hn disk',
    fun hfin => ?_, fun hrules hp hfile => ?_⟩
  · exact View.carries_of_finished hview hfin
  · cases hfin : s.parse.finished with
    | true => exact View.carries_of_finished hview hfin
    | false =>
      rw [← hp'] at hp
      rw [← hcfg] at hrules hfile
      refine View.carries_of_withinLines hview hbefore.ordered hfin hp hrules hn hterm houtside' ?_
      refine hfile.imp (fun ⟨m, hm, hmn, hmc⟩ => ?_) fun hfile => hfile.imp (fun hall => ?_) id
      · exact ⟨m.finding, List.mem_map_of_mem hm, hmn, hmc⟩
      · intro f hf
        obtain ⟨m, hm, rfl⟩ := List.mem_map.mp hf
        exact hall m hm

/-- Capitals, the last of which are held back: two messages are left, and one of them is read
again. -/
theorem trim_parseAll_capitals :
    let rule : Rule := { Rule.ofSet "capital" (.ofRange 65 90) with lines := 2 }
    let s := (((start { rules := ⟨[rule]⟩ } { pattern := some .slash } { workingDir := ⟨['/']⟩ } {} {}
      {}).serveAll [.append "A\n/B\nC\n".toList]).parseAll .empty).2
    s.log.text[2 - 1]? = some '\n' ∧ (∀ m ∈ s.parse.messages, 2 ≤ m.start ∨ m.span.stop ≤ 2)
      ∧ s.parse.messages.map (·.span) = [⟨0, 1⟩, ⟨3, 4⟩, ⟨5, 6⟩] ∧ s.parse.cursor = 5
      ∧ ((s.trim 2).2.parseAll .empty).2.parse.messages.map Message.finding
        = ((s.parse.messages.filter (2 ≤ ·.start)).map (·.shiftBack 2)).map Message.finding := by
  intro rule s
  have hrules : ∀ r ∈ [rule], r.WithinLines := by
    intro r hr
    have hletters : (Rule.ofSet "capital" (.ofRange 65 90)).pattern.LineByLine :=
      Pattern.lineByLine_ofSet _ _
    rw [List.mem_singleton.mp hr]
    exact (hletters.withinLines (Nat.le_refl 1)).lines_le (Nat.le_succ 1)
  obtain ⟨hiff, -, hcarries⟩ := trim_parseAll_iff { rules := ⟨[rule]⟩ } (some .slash) ⟨['/']⟩ [none]
    {} {} {} [.append "A\n/B\nC\n".toList] .empty .empty 2 (by decide +kernel) (by decide +kernel)
  refine ⟨by decide +kernel, by decide +kernel, by decide +kernel, by decide +kernel, ?_⟩
  dsimp only [s]
  exact hiff.mpr (hcarries hrules dirsLineByLine_slash (.inl (by decide +kernel)))

/-- A message in a line of its own takes over the file of the one before it.  The head of the log goes
with the one before, and the message, which is left at first, is not found again. -/
theorem trim_parseAll_differs :
    let head : Rule := .ofExpr "head" (.one (.singleton 'A')) 1
    let tail : Rule := { Rule.ofExpr "tail" (.one (.singleton 'b')) 2 with file := none }
    let s := (((start { rules := ⟨[head, tail]⟩ } { pattern := none } { workingDir := ⟨['/']⟩ } {} {}
      {}).serveAll [.append "A\nb\n".toList]).parseAll .empty).2
    s.log.text[2 - 1]? = some '\n' ∧ (∀ m ∈ s.parse.messages, 2 ≤ m.start ∨ m.span.stop ≤ 2)
      ∧ (s.trim 2).2.parse.messages.map (fun m => (m.rule, m.span)) = [("tail", ⟨0, 1⟩)]
      ∧ ((s.trim 2).2.parseAll .empty).2.parse.messages = []
      ∧ ¬ ((s.trim 2).2.parseAll .empty).2.parse.messages.map Message.finding
        = ((s.parse.messages.filter (2 ≤ ·.start)).map (·.shiftBack 2)).map Message.finding := by
  decide +kernel

end Session

end BuildLog
