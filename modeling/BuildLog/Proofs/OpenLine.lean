import BuildLog.Proofs.OneMessage

/-!
# The open line — what is behind the last newline while the tool runs

A line without its newline is not read before the tool has ended.  A message can get into it all the
same, when the newline behind the message is deleted: it stays if the next reading does not come to
it.  The log has no such message if nothing was deleted from it.
-/

namespace BuildLog

open Text

theorem Text.terminatedLength_le_insert (a t b : Text) :
    terminatedLength (a ++ b) ≤ terminatedLength (a ++ (t ++ b)) := by
  -- the last newline is in the text behind the insertion, or else in that before it
  by_cases hb : 0 < b.terminatedLength
  · have htb : 0 < (t ++ b).terminatedLength := by
      rw [terminatedLength_append_of_pos t hb]
      omega
    rw [terminatedLength_append_of_pos a hb, terminatedLength_append_of_pos a htb,
      terminatedLength_append_of_pos t hb]
    omega
  · rw [terminatedLength_append_of_zero a (by omega)]
    exact terminatedLength_le_append a (t ++ b)

namespace View

/-! ## 1. Readings of an unfinished log -/

section Running

variable {v : View} (hv : v.finished = false)
include hv

/-- What is read up to the end of an unfinished log are the complete lines from the cursor on. -/
theorem readEnd_eq {upto : Nat} (hu : v.text.length ≤ upto) (hc : Terminated (v.text.take v.cursor))
    (hle : v.cursor ≤ v.text.length) : v.readEnd upto = v.text.terminatedLength := by
  have hlen := length_readable upto v
  have hslice : v.text.slice v.cursor (min upto v.text.length) = v.text.drop v.cursor := by
    rw [Nat.min_eq_right hu, slice, List.take_length]
  rw [atEnd_eq_false hv, if_neg (by simp), hslice] at hlen
  unfold readEnd
  rw [hlen]
  have happ := terminatedLength_append hc (v.text.drop v.cursor)
  rw [List.take_append_drop, List.length_take, Nat.min_eq_left hle] at happ
  exact happ.symm

theorem readEnd_le_terminatedLength {upto : Nat} (hready : v.Ready) (hne : v.readable upto ≠ []) :
    v.readEnd upto ≤ v.text.terminatedLength := by
  have hend := readEnd_le hne
  have hstart : Terminated (v.text.take v.cursor) := hready.lineStart.resolve_right (by omega)
  have hterm : Terminated (v.text.take (v.readEnd upto)) := by
    rw [take_readEnd]
    exact hstart.append (terminated_readable (atEnd_eq_false hv upto))
  have hle : v.readEnd upto ≤ terminatedLength (v.text.take v.text.length) :=
    le_terminatedLength_take hterm (by omega) (Nat.le_refl _)
  rwa [List.take_length] at hle

end Running

/-- The findings lie in complete lines. -/
def Complete (v : View) : Prop := ∀ f ∈ v.findings, f.span.stop ≤ v.text.terminatedLength

/-- The findings that the next reading of all there is does not come to lie in complete lines:
those that begin before the cursor, or all if there is no line to be read. -/
def CompleteBehind (v : View) : Prop :=
  ∀ f ∈ v.findings, f.start < v.cursor ∨ v.text.terminatedLength ≤ v.cursor →
    f.span.stop ≤ v.text.terminatedLength

variable {v : View}

theorem complete_readOn_iff (hv : v.finished = false) (hready : v.Ready) {upto : Nat}
    (hu : v.text.length ≤ upto) : (v.readOn upto).2.Complete ↔ v.CompleteBehind := by
  unfold readOn
  by_cases hnil : v.readable upto = []
  · rw [if_pos hnil]
    -- the cursor is at the start of a line, so nothing to read means no complete line behind it
    have hle : v.text.terminatedLength ≤ v.cursor := by
      rcases hready.lineStart with hc | hc
      · have hend := readEnd_eq hv hu hc hready.cursor_le
        unfold readEnd at hend
        rw [hnil] at hend
        exact Nat.le_of_eq hend.symm
      · rw [hc]
        exact terminatedLength_le v.text
    exact ⟨fun h f hf _ => h f hf, fun h f hf => h f hf (.inr hle)⟩
  · rw [if_neg hnil]
    have hend := readEnd_le hnil
    have hlast := readEnd_le_terminatedLength hv hready hnil
    constructor
    · -- the cursor is before the last newline, so only what begins before it is not read again
      intro h f hf hstay
      have hlt : f.start < v.cursor := hstay.resolve_right (by omega)
      exact h f (List.mem_append_left _ (List.mem_filter.mpr ⟨hf, decide_eq_true hlt⟩))
    · intro h f hf
      rcases List.mem_append.mp hf with hf | hf
      · obtain ⟨hf, hlt⟩ := List.mem_filter.mp hf
        exact h f hf (.inl (of_decide_eq_true hlt))
      · have hstop := (found_within v _ f hf).stop_le
        unfold readEnd at hlast
        show f.span.stop ≤ v.text.terminatedLength
        omega

theorem Complete.advance (h : v.Complete) (hv : v.finished = false) (upto : Nat) :
    (v.advance upto).2.Complete := by
  have hready := ready_settle_snap v
  have hrun : v.settle.snap.finished = false := (sameSetting_snap v.settle).finished.trans hv
  have hold : v.settle.snap.Complete := by
    intro f hf
    rw [text_snap]
    exact h f ((sublist_snap v.settle).mem hf)
  unfold View.advance readOn
  split
  · exact hold
  · rename_i hne
    have hlast := readEnd_le_terminatedLength hrun hready hne
    -- what is found lies in what is read, which is complete lines
    intro f hf
    rcases List.mem_append.mp hf with hf | hf
    · exact hold f (List.mem_filter.mp hf).1
    · have hstop := (found_within _ _ f hf).stop_le
      unfold readEnd at hlast
      show f.span.stop ≤ v.settle.snap.text.terminatedLength
      omega

theorem Complete.change {w : View} (h : v.Complete) (hf : w.findings.Sublist v.findings)
    (ht : v.text.terminatedLength ≤ w.text.terminatedLength) : w.Complete :=
  fun f hm => Nat.le_trans (h f (hf.mem hm)) ht

end View

namespace Session

/-! ## 2. Sessions whose tool does not end -/

/-- The messages lie in complete lines. -/
def Complete (s : Session) : Prop :=
  ∀ m ∈ s.parse.messages, m.span.stop ≤ s.log.text.terminatedLength

theorem complete_iff_view {s : Session} : s.Complete ↔ s.parseState.view.Complete := by
  show _ ↔ ∀ f ∈ s.parse.messages.map Message.finding, f.span.stop ≤ s.log.text.terminatedLength
  rw [List.forall_mem_map]
  rfl

theorem running_act {s : Session} (hs : s.parseState.Sound)
    (hv : s.parseState.view.finished = false) {a : Action} (ha : a ≠ .finish) :
    (s.act a).parseState.view.finished = false := by
  have hedit : ∀ offset, (s.onEdit offset).parseState.view.finished = false := by
    intro offset
    rw [view_onEdit]
    exact (View.sameSetting_flushFrom _ offset).finished.trans hv
  cases a with
  | append t => exact hv
  | insert offset t => exact hedit offset
  | delete span => exact hedit span.start
  | read disk upto =>
    rw [view_read disk upto hs]
    exact (View.sameSetting_advance upto _).finished.trans hv
  | finish => exact absurd rfl ha

theorem running_run {s : Session} (hs : s.parseState.Sound)
    (hv : s.parseState.view.finished = false) {as : List Action} (has : ∀ a ∈ as, a ≠ .finish) :
    (s.run as).parseState.view.finished = false := by
  induction as generalizing s with
  | nil => exact hv
  | cons a as ih =>
    exact ih (sound_act hs a) (running_act hs hv (has a List.mem_cons_self))
      fun b hb => has b (List.mem_cons_of_mem a hb)

/-- The last newline goes back only when something is deleted. -/
theorem complete_act {s : Session} (hs : s.parseState.Sound)
    (hv : s.parseState.view.finished = false) (h : s.parseState.view.Complete) {a : Action}
    (hfin : a ≠ .finish) (hdel : ∀ span, a ≠ .delete span) :
    (s.act a).parseState.view.Complete := by
  cases a with
  | append t => exact h.change (List.Sublist.refl _) (terminatedLength_le_append _ t)
  | insert offset t =>
    -- the flush may drop findings, and the newlines behind the insertion only move on
    have hflush := View.sublist_flushFrom s.parseState.view offset
    rw [← view_onEdit] at hflush
    refine h.change hflush ?_
    have hins := terminatedLength_le_insert (s.log.text.take (min offset s.log.text.length)) t
      (s.log.text.drop (min offset s.log.text.length))
    rw [List.take_append_drop, ← List.append_assoc] at hins
    exact hins
  | delete span => exact absurd rfl (hdel span)
  | read disk upto =>
    rw [view_read disk upto hs]
    exact h.advance hv upto
  | finish => exact absurd rfl hfin

/-- A rule that may take two lines, so that the last line that was read is read again. -/
def letterRules : RuleSet := ⟨[.ofExpr "letter" (.one (.singleton 'M')) 2]⟩

section Start

variable (cfg : ScanSettings) (p : Option DirectoryPattern) (workingDir : Path)
  (searchPath : List (Option Path)) (nav : NavigationSettings) (sources : Sources)
  (log : Transcript) {as : List Action}

/-- In any history of edits and readings of a tool that has not ended, reading all there is leaves
no message in the open line just if none of the messages that it does not come to is in it. -/
theorem complete_parseAll_iff (has : ∀ a ∈ as, a ≠ .finish) (disk : Disk) :
    let s := (start cfg { pattern := p } { workingDir, searchPath } nav sources log).run as
    (s.parseAll disk).2.Complete ↔ s.parseState.view.settle.snap.CompleteBehind := by
  intro s
  have hs := sound_start cfg p workingDir searchPath nav sources log
  have hv : s.parseState.view.settle.snap.finished = false :=
    (View.sameSetting_snap _).finished.trans (running_run hs rfl has)
  have hview : (s.parseAll disk).2.parseState.view
      = (s.parseState.view.settle.snap.readOn s.log.text.length).2 :=
    view_read disk s.log.text.length (sound_run hs as)
  have hlen : s.parseState.view.settle.snap.text.length ≤ s.log.text.length :=
    Nat.le_of_eq (congrArg List.length (View.text_snap s.parseState.view.settle))
  rw [complete_iff_view, hview]
  exact View.complete_readOn_iff hv (View.ready_settle_snap s.parseState.view) hlen

/-- A newline is taken out behind a line that has no message. -/
theorem complete_parseAll_letters :
    let as : List Action := [.append "Mx\ny\n".toList, .read .empty 5, .delete ⟨4, 5⟩]
    (∀ a ∈ as, a ≠ .finish)
      ∧ let s := (start { rules := letterRules } { pattern := none } { workingDir := ⟨['/']⟩ } {} {}
          {}).run as
        ((s.parseAll .empty).2.Complete ↔ s.parseState.view.settle.snap.CompleteBehind) :=
  have has : ∀ a ∈ ([.append "Mx\ny\n".toList, .read .empty 5, .delete ⟨4, 5⟩] : List Action),
      a ≠ .finish := by simp
  ⟨has, complete_parseAll_iff { rules := letterRules } none ⟨['/']⟩ [none] {} {} {} has .empty⟩

/-- A newline is taken out behind a message and a letter in the last line.  The message is
provisional, but there is no complete line to be read again, and so it stays in the open line. -/
theorem complete_parseAll_differs :
    let s := (start { rules := letterRules } { pattern := none } { workingDir := ⟨['/']⟩ } {} {}
      {}).run [.append "Mx\n".toList, .read .empty 3, .delete ⟨2, 3⟩]
    (s.parseAll .empty).2.parse.messages.map (·.span) = [⟨0, 1⟩]
      ∧ (s.parseAll .empty).2.log.text = ['M', 'x'] ∧ ¬ (s.parseAll .empty).2.Complete := by
  intro s
  refine ⟨by decide +kernel, by decide +kernel, ?_⟩
  unfold Complete
  decide +kernel

/-- While nothing is deleted, no message is in the open line. -/
theorem complete_run_of_grows (has : ∀ a ∈ as, a ≠ .finish ∧ ∀ span, a ≠ .delete span) :
    ((start cfg { pattern := p } { workingDir, searchPath } nav sources log).run as).Complete := by
  have hs := sound_start cfg p workingDir searchPath nav sources log
  rw [complete_iff_view]
  induction as using List.reverseRecOn with
  | nil => exact nofun
  | append_singleton as a ih =>
    have hbefore := ih fun b hb => has b (List.mem_append_left [a] hb)
    have hv := running_run hs rfl fun b hb => (has b (List.mem_append_left [a] hb)).1
    have ha := has a (List.mem_append_right as List.mem_cons_self)
    rw [run_concat]
    exact complete_act (sound_run hs as) hv hbefore ha.1 ha.2

end Start

end Session

end BuildLog
