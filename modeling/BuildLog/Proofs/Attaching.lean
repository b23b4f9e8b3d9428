import BuildLog.Proofs.Breaks
import BuildLog.Proofs.Letters
import BuildLog.Proofs.Reach
import BuildLog.Proofs.Runs

/-!
# Attaching — a new parse behind the labels of an earlier one

A new parse begins at the line behind the last label, as an editor counts lines, and a reading begins
at a line start, which is behind a newline.  If the two agree, then the labels stay for good and no
message begins before their end.  If they do not, the first reading goes back into the line of the
last label and clears it.
-/

namespace BuildLog

/-! ## 1. The line behind an offset -/

namespace Text

theorem getElem?_length_takeWhile {α : Type} (p : α → Bool) (l : List α) :
    l[(l.takeWhile p).length]? = l.find? fun a => !p a := by
  induction l with
  | nil => rfl
  | cons a l ih =>
    rw [List.takeWhile_cons, List.find?_cons]
    cases p a with
    | true => exact ih
    | false => rfl

/-- Start of the line behind the one that holds an offset. -/
def nextLineStart (t : Text) (offset : Nat) : Nat := t.lineStart (t.lineAt offset + 1)

theorem nextLineStart_eq (t : Text) (offset : Nat) :
    t.nextLineStart offset = (t.lineStarts.find? (offset < ·)).getD t.length := by
  have hpos : 0 < (t.lineStarts.takeWhile (· ≤ offset)).length := by
    rw [lineStarts, List.takeWhile_cons, if_pos (decide_eq_true (Nat.zero_le offset))]
    exact Nat.succ_pos _
  unfold nextLineStart lineStart lineAt
  rw [Nat.sub_add_cancel hpos, getElem?_length_takeWhile]
  congr 2
  funext k
  rw [← decide_not, decide_eq_decide]
  exact Nat.not_le

theorem nextLineStart_spec {t : Text} {offset : Nat} (ho : offset < t.length) :
    offset < t.nextLineStart offset ∧ t.nextLineStart offset ≤ t.length
      ∧ (t.nextLineStart offset ∈ t.lineStarts ∨ t.nextLineStart offset = t.length)
      ∧ ∀ k ∈ t.lineStarts, offset < k → t.nextLineStart offset ≤ k := by
  rw [nextLineStart_eq]
  cases hfind : t.lineStarts.find? (offset < ·) with
  | none =>
    refine ⟨ho, Nat.le_refl _, .inr rfl, fun k hk hlt => ?_⟩
    exact absurd (decide_eq_true hlt) (List.find?_eq_none.mp hfind k hk)
  | some k =>
    obtain ⟨⟨hk, hlt⟩, hfirst⟩ := (find?_eq_some_iff_of_pairwise (fun _ _ => Nat.lt_asymm)
      (pairwise_lineStarts t)).mp hfind
    refine ⟨of_decide_eq_true hlt, lineStarts_le hk, .inl hk, fun j hj hlt' => ?_⟩
    rcases hfirst j hj (decide_eq_true hlt') with rfl | hkj
    · exact Nat.le_refl _
    · exact Nat.le_of_lt hkj

theorem mem_lineStarts_of_terminated {t : Text} {k : Nat} (hk : Terminated (t.take k))
    (hle : k ≤ t.length) : k ∈ t.lineStarts := by
  rcases (terminated_take_iff hle).mp hk with rfl | hnewline
  · exact mem_lineStarts.mpr (.inl rfl)
  · rcases Nat.eq_zero_or_pos k with rfl | hpos
    · exact mem_lineStarts.mpr (.inl rfl)
    · exact mem_lineStarts.mpr (.inr ⟨k - 1, '\n', (Nat.sub_add_cancel hpos).symm, hnewline, rfl⟩)

/-- If the line behind an offset does not begin behind a newline, then no newline is in between. -/
theorem terminatedLength_take_nextLineStart {t : Text} {offset : Nat} (ho : offset < t.length)
    (h : ¬ Terminated (t.take (t.nextLineStart offset))) :
    terminatedLength (t.take (t.nextLineStart offset)) ≤ offset := by
  obtain ⟨-, hle, -, hfirst⟩ := nextLineStart_spec ho
  have hstart := terminated_take_terminatedLength_take t (t.nextLineStart offset)
  have hbefore := terminatedLength_take_le t (t.nextLineStart offset)
  by_contra hlt
  have hge := hfirst _ (mem_lineStarts_of_terminated hstart (Nat.le_trans hbefore hle))
    (Nat.lt_of_not_le hlt)
  exact h (Nat.le_antisymm hbefore hge ▸ hstart)

/-- A text whose line breaks are all newlines, with or without a carriage return before them. -/
def NewlinesOnly (t : Text) : Prop :=
  ∀ i c, t[i]? = some c → endsLine c (t.drop (i + 1)) → c = '\n'

theorem NewlinesOnly.terminated_take {t : Text} (h : t.NewlinesOnly) (ht : Terminated t) {k : Nat}
    (hk : k ∈ t.lineStarts ∨ k = t.length) : Terminated (t.take k) := by
  rcases hk with hk | rfl
  · rw [terminated_take_iff (lineStarts_le hk)]
    rcases mem_lineStarts.mp hk with rfl | ⟨i, c, rfl, hc, hends⟩
    · exact .inl rfl
    · rw [Nat.add_sub_cancel, hc, h i c hc hends]
      exact .inr rfl
  · rw [List.take_length]
    exact ht

end Text

/-! ## 2. The labels of a parse -/

namespace Parse

open LabelIndex

theorem indexed_label {l : Transcript} (h : l.labels.Indexed) (ms : List Message) :
    (ms.foldl (fun l m => l.label m.labelledSpan) l).labels.Indexed := by
  induction ms generalizing l with
  | nil => exact h
  | cons m ms ih => exact ih (h.insert m.labelledSpan)

theorem State.indexed_act {s : State} (h : s.log.labels.Indexed) (a : Action) :
    (s.act a).log.labels.Indexed := by
  cases a with
  | insert offset t => exact indexed_ofSorted _
  | delete span =>
    show (s.log.delete span).labels.Indexed
    unfold Transcript.delete
    dsimp only
    split
    · exact h
    · exact indexed_ofSorted _
  | clearLabels start stop => exact h.removeRange start stop
  | read disk upto =>
    have hsettle : (settle s).log.labels.Indexed := by
      unfold settle
      dsimp only
      split
      · exact h.removeRange _ _
      · exact h
    have hsnap : (snap (settle s)).log.labels.Indexed := by
      unfold snap
      split
      · exact hsettle.removeRange _ _
      · exact hsettle
    show (advance disk upto s).2.log.labels.Indexed
    rw [advance_eq]
    split
    · exact hsnap
    · exact indexed_label (hsnap.removeRange _ _) _
  | _ => exact h

theorem State.indexed_run {s : State} (h : s.log.labels.Indexed) (as : List Action) :
    (s.run as).log.labels.Indexed :=
  State.run_induction (P := fun u => u.log.labels.Indexed) (Q := fun _ => True) h
    (fun _ a hu _ => State.indexed_act hu a) fun _ _ => trivial

end Parse

/-! ## 3. Readings -/

theorem LabelIndex.sublist_insertSorted (s : LabelledSpan) (ls : List LabelledSpan) :
    ls.Sublist (insertSorted s ls) := by
  induction ls with
  | nil => exact List.nil_sublist _
  | cons l ls ih =>
    rw [insertSorted]
    split
    · exact ih.cons_cons l
    · exact List.sublist_cons_self s _

namespace View

open LabelIndex

theorem sublist_labelAll (fs : List Finding) (ls : List LabelledSpan) :
    ls.Sublist (labelAll fs ls) := by
  induction fs generalizing ls with
  | nil => exact List.Sublist.refl ls
  | cons f fs ih => exact (sublist_insertSorted f.labelledSpan ls).trans (ih _)

/-- A view that is read behind an offset, before which there are some labels and no findings. -/
structure ReadBehind (k : Nat) (ls : List LabelledSpan) (v : View) : Prop where
  ready : v.Ready
  le_cursor : k ≤ v.cursor
  le_start : ∀ f ∈ v.findings, k ≤ f.start
  labels : ls.Sublist v.labels

section

variable {k : Nat} {ls : List LabelledSpan} {v : View}

theorem ReadBehind.readOn (hls : LabelsWithin k ls) (h : v.ReadBehind k ls) (upto : Nat) :
    (v.readOn upto).2.ReadBehind k ls := by
  have hready := h.ready.readOn upto
  revert hready
  unfold View.readOn
  split
  · exact fun _ => h
  · intro hready
    refine ⟨hready, Nat.le_add_right_of_le h.le_cursor, fun f hf => ?_, ?_⟩
    · rcases List.mem_append.mp hf with hf | hf
      · exact h.le_start f (List.mem_filter.mp hf).1
      · exact Nat.le_trans h.le_cursor (found_within v (v.readable upto) f hf).start_le
    · -- what is cleared is behind the cursor
      have hkept : ls.filter (fun l => !l.span.meets v.cursor v.text.length) = ls := by
        refine List.filter_eq_self.mpr fun l hl => Span.not_meets_iff.mpr (.inl ?_)
        exact Nat.le_trans (hls l hl) h.le_cursor
      have hfilter := h.labels.filter fun l => !l.span.meets v.cursor v.text.length
      rw [hkept] at hfilter
      exact hfilter.trans (sublist_labelAll _ _)

theorem ReadBehind.advance (hls : LabelsWithin k ls) (h : v.ReadBehind k ls) (upto : Nat) :
    (v.advance upto).2.ReadBehind k ls := by
  rw [h.ready.advance]
  exact h.readOn hls upto

theorem readable_ne_nil (ht : Text.Terminated v.text) (hc : v.cursor < v.text.length) :
    v.readable v.text.length ≠ [] := by
  have hslice : v.text.slice v.cursor (min v.text.length v.text.length) = v.text.drop v.cursor := by
    rw [Nat.min_self, Text.slice, List.take_length]
  have hterm : Text.terminatedLength (v.text.drop v.cursor) = (v.text.drop v.cursor).length :=
    ht.drop _
  rw [Ne, readable_eq_nil_iff, hslice, hterm, ite_self, List.length_drop]
  omega

/-- A reading of the whole log that goes back into a line clears what reaches behind the start of the
line.  A label that is there all the same is that of a message that was found. -/
theorem mem_labels_advance (hp : v.pendingClear = none) (hc : v.cursor < v.text.length)
    (hin : v.insideLine) (ht : Text.Terminated v.text) {l : LabelledSpan}
    (hstart : l.span.start < v.text.length) (hstop : v.lineStart < l.span.stop)
    (hmem : l ∈ (v.advance v.text.length).2.labels) :
    ∃ f ∈ (v.advance v.text.length).2.findings, f.Within v.lineStart v.text.length
      ∧ f.labelledSpan = l := by
  have hsnap : v.settle.snap = { v.dropFrom v.lineStart with
      cursor := v.lineStart
      rewound := false
      labels := v.clearLabels v.lineStart v.cursor } := by
    rw [settle_of_pending hp (Nat.le_of_lt hc)]
    unfold View.snap
    rw [if_pos hin]
  have hlt : v.lineStart < v.text.length := Nat.lt_of_le_of_lt (lineStart_le v) hc
  revert hmem
  unfold View.advance
  rw [hsnap]
  generalize hw : View.mk _ _ _ _ _ _ _ _ _ _ _ = w
  have hcursor : w.cursor = v.lineStart := by rw [← hw]
  have htext : w.text = v.text := by rw [← hw]; rfl
  rw [← htext] at ht hlt hstart ⊢
  rw [← hcursor] at hlt hstop ⊢
  have hne := readable_ne_nil ht hlt
  unfold View.readOn
  rw [if_neg hne]
  intro hmem
  rcases mem_labelAll.mp hmem with hmem | hmem
  · -- the label reaches behind the cursor
    have hnot := Span.not_meets_iff.mp (List.mem_filter.mp hmem).2
    omega
  · obtain ⟨f, hf, hfl⟩ := List.mem_map.mp hmem
    have hwithin := found_within w (w.readable w.text.length) f hf
    have hend : w.cursor + (w.readable w.text.length).length ≤ w.text.length :=
      Nat.le_trans (readEnd_le hne).2 (Nat.min_le_right _ _)
    exact ⟨f, List.mem_append_right _ hf, ⟨hwithin.start_le, hwithin.nonempty,
      Nat.le_trans hwithin.stop_le hend, hwithin.link⟩, hfl⟩

end

end View

/-! ## 4. A new parse -/

namespace Transcript

/-- A new parse begins at the head of the log or at the line behind a label. -/
theorem firstUnlabelled_cases (l : Transcript) :
    (min l.labels.furthestEnd l.text.length = 0 ∧ l.firstUnlabelled = 0)
      ∨ ∃ last, min l.labels.furthestEnd l.text.length = last + 1
        ∧ l.firstUnlabelled = l.text.nextLineStart last := by
  unfold firstUnlabelled
  split
  · rename_i heq
    exact .inl ⟨heq, rfl⟩
  · rename_i last heq
    exact .inr ⟨last, heq, rfl⟩

theorem firstUnlabelled_spec {l : Transcript} (h : l.labels.Indexed)
    (hw : LabelsWithin l.text.length l.labels.spans) :
    l.labels.furthestEnd ≤ l.firstUnlabelled ∧ l.firstUnlabelled ≤ l.text.length
      ∧ (l.firstUnlabelled ∈ l.text.lineStarts ∨ l.firstUnlabelled = l.text.length) := by
  have hle : l.labels.furthestEnd ≤ l.text.length := by
    by_cases hzero : l.labels.furthestEnd = 0
    · rw [hzero]
      exact Nat.zero_le _
    · obtain ⟨x, hx, hstop⟩ := h.exists_stop_eq hzero
      exact hstop ▸ hw x hx
  rcases l.firstUnlabelled_cases with ⟨hmin, hk⟩ | ⟨last, hmin, hk⟩
  · rw [hk]
    exact ⟨by omega, Nat.zero_le _, .inl List.mem_cons_self⟩
  · obtain ⟨hlt, hlen, hstart, -⟩ := Text.nextLineStart_spec
      (show last < l.text.length by omega)
    rw [hk]
    exact ⟨by omega, hlen, hstart⟩

/-- If a new parse begins inside a line, then the last label reaches into the line. -/
theorem terminatedLength_take_firstUnlabelled {l : Transcript}
    (h : ¬ Text.Terminated (l.text.take l.firstUnlabelled)) :
    Text.terminatedLength (l.text.take l.firstUnlabelled) < l.labels.furthestEnd := by
  rcases l.firstUnlabelled_cases with ⟨-, hk⟩ | ⟨last, hmin, hk⟩
  · rw [hk] at h
    exact absurd Text.terminated_nil h
  · have hlt := Text.terminatedLength_take_nextLineStart
      (show last < l.text.length by omega)
      (hk ▸ h)
    rw [hk]
    omega

end Transcript

namespace Parse

/-- What only reads a log. -/
def Action.Reads : Action → Prop
  | .read _ _ => True
  | .finish _ => True
  | _ => False

/-- Readings leave labels alone, and put messages behind the last of them. -/
def State.Resumes (s : State) (as : List Action) : Prop :=
  s.log.labels.spans.Sublist (s.run as).log.labels.spans
    ∧ ∀ m ∈ (s.run as).parse.messages, s.log.labels.furthestEnd ≤ m.start

theorem readBehind_act {k : Nat} {ls : List LabelledSpan} (hls : LabelsWithin k ls) {s : State}
    (hs : s.Sound ∧ s.view.ReadBehind k ls) {a : Action} (ha : a.Reads) :
    (s.act a).Sound ∧ (s.act a).view.ReadBehind k ls := by
  cases a with
  | read disk upto =>
    refine ⟨(view_advance hs.1 disk upto).2.2, ?_⟩
    rw [view_read hs.1]
    exact hs.2.advance hls upto
  | finish finished =>
    obtain ⟨⟨hpending, hrewound, hle, hready⟩, hcursor, hfindings, hlabels⟩ := hs.2
    exact ⟨⟨hs.1.trail, hs.1.table⟩, ⟨hpending, hrewound, hle, hready⟩, hcursor, hfindings,
      hlabels⟩
  | _ => exact ha.elim

section

variable {cfg : ScanSettings} {p : Option DirectoryPattern} {workingDir : Path}
  {searchPath : List (Option Path)} {log : Transcript} (hindexed : log.labels.Indexed)
  (hwithin : LabelsWithin log.text.length log.labels.spans)
include hindexed hwithin

theorem resumes_of_terminated (hline : Text.Terminated (log.text.take log.firstUnlabelled))
    {as : List Action} (has : ∀ a ∈ as, a.Reads) :
    ((State.start cfg p workingDir searchPath log).act .attach).Resumes as := by
  obtain ⟨hend, hlen, -⟩ := Transcript.firstUnlabelled_spec hindexed hwithin
  have hproper := (State.proper_start cfg p workingDir searchPath hwithin).act .attach
  have hbehind : ((State.start cfg p workingDir searchPath log).act .attach).view.ReadBehind
      log.firstUnlabelled log.labels.spans :=
    ⟨⟨rfl, rfl, hlen, .inl hline⟩, Nat.le_refl _, nofun, List.Sublist.refl _⟩
  have hls : LabelsWithin log.firstUnlabelled log.labels.spans := fun l hl =>
    Nat.le_trans (hindexed.stop_le_furthestEnd hl) hend
  obtain ⟨-, hrun⟩ := State.run_induction (P := fun w => w.Sound
      ∧ w.view.ReadBehind log.firstUnlabelled log.labels.spans) (Q := Action.Reads)
    ⟨hproper.sound, hbehind⟩ (fun _ _ hw ha => readBehind_act hls hw ha) has
  exact ⟨hrun.labels, fun m hm =>
    Nat.le_trans hend (hrun.le_start m.finding (List.mem_map_of_mem hm))⟩

/-- If the first reading goes back into a line, then it clears the last label, and if that is there
afterwards, then a message was found that begins before its end. -/
theorem terminated_of_resumes (ht : Text.Terminated log.text)
    (hnonempty : LabelsNonempty log.labels.spans) {disk : Disk}
    (hresumes : ((State.start cfg p workingDir searchPath log).act .attach).Resumes
      [.read disk log.length]) : Text.Terminated (log.text.take log.firstUnlabelled) := by
  by_contra hline
  obtain ⟨hend, hlen, -⟩ := Transcript.firstUnlabelled_spec hindexed hwithin
  have hlt : log.firstUnlabelled < log.text.length := by
    refine Nat.lt_of_le_of_ne hlen fun heq => hline ?_
    rw [heq, List.take_length]
    exact ht
  generalize hs : (State.start cfg p workingDir searchPath log).act .attach = s at hresumes
  have hproper : s.Proper := hs ▸ (State.proper_start cfg p workingDir searchPath hwithin).act .attach
  have hlog : s.log = log := by rw [← hs]; rfl
  have hcursor : s.parse.cursor = log.firstUnlabelled := by rw [← hs]; rfl
  have hpending : s.view.pendingClear = none := by rw [← hs]; rfl
  subst hlog
  have hview : s.view.text = s.log.text := rfl
  have hread : (s.act (.read disk s.log.length)).view = (s.view.advance s.view.text.length).2 :=
    view_read hproper.sound disk s.log.length
  rw [← hcursor] at hline hlt hlen
  have hin : s.view.insideLine := by
    rw [← Bool.not_eq_false, View.insideLine_eq_false hlen]
    exact fun h => h.elim hline fun h => Nat.ne_of_lt hlt h.1
  have hreaches : s.view.lineStart < s.log.labels.furthestEnd := by
    have hbefore := Transcript.terminatedLength_take_firstUnlabelled (hcursor ▸ hline)
    rw [← hcursor] at hbefore
    exact hbefore
  obtain ⟨l, hl, hstop⟩ := hindexed.exists_stop_eq (Nat.ne_zero_of_lt hreaches)
  have hfirst := hnonempty l hl
  have hmem : l ∈ (s.view.advance s.view.text.length).2.labels := hread ▸ hresumes.1.subset hl
  obtain ⟨f, hf, hw, rfl⟩ := View.mem_labels_advance hpending hlt hin ht
    (Nat.lt_of_lt_of_le hfirst (hwithin l hl)) (hstop ▸ hreaches) hmem
  have hfound : f ∈ (s.run [.read disk s.log.length]).parse.messages.map Message.finding := by
    rw [← hread] at hf
    exact hf
  obtain ⟨m, hm, rfl⟩ := List.mem_map.mp hfound
  have hbehind := hresumes.2 m hm
  rw [← hstop] at hbehind
  exact Nat.lt_irrefl _ (Nat.lt_of_le_of_lt hw.link.1 (Nat.lt_of_lt_of_le hfirst hbehind))

end

/-- Let a parse begin behind the labels that an earlier parse left in a log, whatever this did and
whatever was done to the log.  If it begins at the head of the log or behind a newline, then no
reading removes a label, and no message begins before the end of the last one.  It does so if every
line of the log ends with a newline, with or without a carriage return before it.  Otherwise one
reading of the whole log removes a label or finds a message that begins before the end of the last. -/
theorem attach_resumes_iff (cfg cfg' : ScanSettings) (p p' : Option DirectoryPattern)
    (workingDir workingDir' : Path) (searchPath searchPath' : List (Option Path)) (t : Text)
    (earlier : List Action) :
    let u := (State.start cfg p workingDir searchPath (.ofText t)).run earlier
    let s := (State.start cfg' p' workingDir' searchPath' u.log).act .attach
    Text.Terminated u.log.text →
      (Text.Terminated (u.log.text.take s.parse.cursor) →
        ∀ as, (∀ a ∈ as, a.Reads) → s.Resumes as)
      ∧ (u.log.text.NewlinesOnly → Text.Terminated (u.log.text.take s.parse.cursor))
      ∧ (LabelsNonempty u.log.labels.spans → ∀ disk, s.Resumes [.read disk u.log.length] →
        Text.Terminated (u.log.text.take s.parse.cursor)) := by
  intro u s ht
  have hproper : u.Proper := (State.reachable_run cfg p workingDir searchPath t earlier).proper
  have hindexed : u.log.labels.Indexed := State.indexed_run (s := State.start cfg p workingDir
    searchPath (.ofText t)) (LabelIndex.indexed_ofSorted []) earlier
  obtain ⟨-, -, hstart⟩ := Transcript.firstUnlabelled_spec hindexed hproper.labels
  exact ⟨fun hline as has => resumes_of_terminated hindexed hproper.labels hline has,
    fun hnewlines => hnewlines.terminated_take ht hstart,
    fun hnonempty disk => terminated_of_resumes hindexed hproper.labels ht hnonempty⟩

/-- The first line was read when a second and a third came.  Whatever the new parse reads, the label
of the first line stays, and no message is found there. -/
theorem attach_resumes_capitals :
    let u := (State.start .capitals none ⟨['/']⟩ [none] (.ofText [])).run
      [.append "A\n".toList, .read .empty 2, .append "x\r\nB\n".toList]
    let s := (State.start .capitals none ⟨['/']⟩ [none] u.log).act .attach
    Text.Terminated u.log.text ∧ s.parse.cursor = 2
      ∧ (s.act (.read .empty 7)).parse.messages.map Message.start = [5]
      ∧ ∀ as, (∀ a ∈ as, a.Reads) → s.Resumes as := by
  intro u s
  have ht : Text.Terminated u.log.text := by decide +kernel
  refine ⟨ht, by decide +kernel, by decide +kernel, ?_⟩
  exact (attach_resumes_iff .capitals .capitals none none ⟨['/']⟩ ⟨['/']⟩ [none] [none] [] _ ht).1
    (by decide +kernel)

/-- The first of two lines has a form feed in it, and the only label is before that.  The new parse
begins behind the form feed, but reads the line from its start: it finds the message that is labelled
already, and with no rules it clears the label. -/
theorem attach_resumes_differs :
    let u := (State.start .capitals none ⟨['/']⟩ [none] (.ofText [])).run
      [.append "A\x0cx\ny\n".toList, .read .empty 6]
    let s := (State.start .capitals none ⟨['/']⟩ [none] u.log).act .attach
    let s' := (State.start { rules := ⟨[]⟩ } none ⟨['/']⟩ [none] u.log).act .attach
    Text.Terminated u.log.text
      ∧ u.log.labels.spans.map (·.span) = [⟨0, 1⟩] ∧ u.log.labels.furthestEnd = 1
      ∧ s.parse.cursor = 2
      ∧ (s.act (.read .empty 6)).parse.messages.map Message.start = [0]
      ∧ (s'.act (.read .empty 6)).log.labels.spans = [] := by
  decide +kernel

end Parse

end BuildLog
