import BuildLog.Proofs.OneMessage
import BuildLog.Proofs.Standing

/-!
# Mirroring — a log has one label for each of its messages

While a log grows, is edited, read and trimmed, its labels are those of its messages, unless a link
is cut off: text is edited, read again or trimmed between the start of a message and the end of its
link.  An edit can also bring a label back that was to be cleared, if it comes before the place to
clear from and leaves that place where it was.
-/

namespace BuildLog

open Text LabelIndex

/-! ## 1. Logs that lose their head -/

/-- A label after `delta` characters were taken from the head of the log. -/
def LabelledSpan.shiftBack (l : LabelledSpan) (delta : Nat) : LabelledSpan :=
  { l with span := l.span.shiftBack delta }

@[simp] theorem Finding.labelledSpan_shiftBack (f : Finding) (delta : Nat) :
    (f.shiftBack delta).labelledSpan = f.labelledSpan.shiftBack delta := rfl

theorem Transcript.clamp_head {l : Transcript} {n : Nat} (hn : n ≤ l.text.length) :
    l.clamp ⟨0, n⟩ = ⟨0, n⟩ := by
  unfold clamp
  dsimp only
  rw [Nat.zero_min, Nat.zero_max, Nat.min_eq_left hn]

theorem Transcript.text_trim (l : Transcript) {n : Nat} (hn : n ≤ l.text.length) :
    ((l.clearLabels 0 n).delete ⟨0, n⟩).text = l.text.drop n := by
  have hclamp : (l.clearLabels 0 n).clamp ⟨0, n⟩ = ⟨0, n⟩ := Transcript.clamp_head hn
  unfold Transcript.delete
  dsimp only
  rw [hclamp]
  by_cases hzero : 0 = n
  · rw [if_pos hzero, ← hzero]
    rfl
  · rw [if_neg hzero]
    rfl

/-- The labels that begin behind the head are left, and counted from there. -/
theorem Transcript.perm_trim {l : Transcript} (hl : LabelsNonempty l.labels.spans) {n : Nat}
    (hn : n ≤ l.text.length) : ((l.clearLabels 0 n).delete ⟨0, n⟩).labels.spans.Perm
      ((l.labels.spans.filter (n ≤ ·.span.start)).map (·.shiftBack n)) := by
  have hclear : (l.clearLabels 0 n).labels.spans = l.labels.spans.filter (n ≤ ·.span.start) := by
    apply List.filter_congr
    intro m hm
    have := hl m hm
    rw [Bool.eq_iff_iff, Span.not_meets_iff, decide_eq_true_eq]
    omega
  have hclamp : (l.clearLabels 0 n).clamp ⟨0, n⟩ = ⟨0, n⟩ := Transcript.clamp_head hn
  unfold Transcript.delete
  dsimp only
  rw [hclamp]
  -- a head of no characters is not taken out, and moves nothing
  by_cases hzero : 0 = n
  · rw [if_pos hzero, hclear, ← hzero]
    exact List.Perm.of_eq (List.map_id _).symm
  · rw [if_neg hzero]
    refine (perm_labelsAfterDeletion 0 n _).trans (List.Perm.of_eq ?_)
    rw [hclear, ← List.filterMap_eq_map]
    apply List.filterMap_congr
    intro m hm
    obtain ⟨hm, hle⟩ := List.mem_filter.mp hm
    have hle : n ≤ m.span.start := of_decide_eq_true hle
    have := hl m hm
    -- what is left begins behind the head, so no label is cut short
    unfold spanAfterDeletion
    rw [if_neg (by omega), if_pos hle]
    rfl

namespace View

/-- The head of a log goes.  It has to have the link of each message that begins in it, if not the
whole of it. -/
theorem Mirrored.trim {v w : View} (h : v.Mirrored) {n : Nat}
    (hheads : ∀ f ∈ v.findings, f.start < n → f.hyperlink.start < n)
    (hfindings : w.findings = (v.findings.filter (n ≤ ·.start)).map (·.shiftBack n))
    (hlabels : w.labels.Perm ((v.labels.filter (n ≤ ·.span.start)).map (·.shiftBack n)))
    (hcursor : w.cursor = v.cursor - n) (hpending : w.pendingClear = v.pendingClear.map (· - n))
    (htext : w.text = v.text.drop n) : w.Mirrored := by
  have hmoved : ∀ l ∈ w.labels, ∃ m ∈ v.labels, n ≤ m.span.start ∧ l = m.shiftBack n := by
    intro l hl
    obtain ⟨m, hm, rfl⟩ := List.mem_map.mp (hlabels.mem_iff.mp hl)
    obtain ⟨hm, hle⟩ := List.mem_filter.mp hm
    exact ⟨m, hm, of_decide_eq_true hle, rfl⟩
  have hleft : ∀ f ∈ w.findings, ∃ g ∈ v.findings, n ≤ g.start ∧ f = g.shiftBack n := by
    intro f hf
    rw [hfindings] at hf
    obtain ⟨g, hg, rfl⟩ := List.mem_map.mp hf
    obtain ⟨hg, hle⟩ := List.mem_filter.mp hg
    exact ⟨g, hg, of_decide_eq_true hle, rfl⟩
  have hstanding : w.standing.Perm ((v.standing.filter (n ≤ ·.span.start)).map (·.shiftBack n)) := by
    have hfilter := hlabels.filter fun l => w.pendingClear.all (l.span.stop ≤ ·)
    rw [List.filter_map, List.filter_filter] at hfilter
    refine hfilter.trans (List.Perm.of_eq (congrArg _ ?_))
    unfold View.standing
    rw [List.filter_filter]
    apply List.filter_congr
    intro l hl
    have hlt := h.nonempty l hl
    -- behind the head, the place to clear from moves with the labels
    rw [hpending, Bool.and_comm, Bool.eq_iff_iff]
    cases v.pendingClear with
    | none => simp
    | some p =>
      simp only [Function.comp_apply, Option.map_some, Option.all_some, Bool.and_eq_true,
        decide_eq_true_eq, LabelledSpan.shiftBack, Span.shiftBack]
      omega
  refine ⟨?_, ?_, ?_, ?_, ?_, ?_, ?_, ?_⟩
  · intro l hl
    obtain ⟨m, hm, hle, rfl⟩ := hmoved l hl
    exact Nat.sub_lt_sub_right hle (h.nonempty m hm)
  · intro l hl
    obtain ⟨m, hm, -, rfl⟩ := hmoved l hl
    rw [htext, List.length_drop]
    exact Nat.sub_le_sub_right (h.within m hm) n
  · intro p hp l hl hlt
    obtain ⟨m, hm, hle, rfl⟩ := hmoved l hl
    rw [hpending] at hp
    obtain ⟨q, hq, rfl⟩ := Option.map_eq_some_iff.mp hp
    have hlt : m.span.start - n < q - n := hlt
    exact Nat.sub_le_sub_right (h.apart q hq m hm (by omega)) n
  · rw [hcursor, htext, List.length_drop]
    exact Nat.sub_le_sub_right h.cursor_le n
  · intro f hf hlt
    obtain ⟨g, hg, hle, rfl⟩ := hleft f hf
    rw [hcursor] at hlt ⊢
    have hlt : g.start - n < v.cursor - n := hlt
    exact Nat.sub_le_sub_right (h.clean g hg (by omega)) n
  · rw [hcursor, htext]
    refine h.lineStart.imp (fun hterm => ?_) fun hall f hf => ?_
    · rw [← List.drop_take]
      exact hterm.drop n
    · obtain ⟨g, hg, -, rfl⟩ := hleft f hf
      exact Nat.sub_le_sub_right (hall g hg) n
  · intro f hf
    obtain ⟨g, hg, -, rfl⟩ := hleft f hf
    exact Nat.sub_le_sub_right (h.le_link g hg) n
  · -- findings and labels behind the head are the same, as no link is behind it without its finding
    refine hstanding.trans (((h.standing.filter _).map _).trans (List.Perm.of_eq ?_))
    have hheads' : v.findings.filter (fun f => decide (n ≤ f.hyperlink.start))
        = v.findings.filter (n ≤ ·.start) := by
      apply List.filter_congr
      intro f hf
      have h₁ := h.le_link f hf
      have h₂ := hheads f hf
      rw [decide_eq_decide]
      omega
    rw [hfindings, ← hheads', List.filter_map, List.map_map, List.map_map]
    rfl

end View

/-! ## 2. Sessions -/

namespace Session

/-- What is done to a session while its log grows, is edited and trimmed. -/
inductive Turn
  | act (a : Action)
  /-- Remove the head of the log. -/
  | trim (length : Nat)

def turn (s : Session) : Turn → Session
  | .act a => s.act a
  | .trim length => (s.trim length).2

def turns (s : Session) (ts : List Turn) : Session := ts.foldl turn s

/-- Whether a turn cuts no link off, and brings no label back that was to be cleared. -/
def Careful (s : Session) : Turn → Prop
  | .act (.append _) => True
  | .act (.insert offset _) =>
    s.parseState.view.Clean (View.doubtfulFrom offset s.parseState.view.findings.reverse)
  | .act (.delete span) =>
    s.parseState.view.Clean (View.doubtfulFrom span.start s.parseState.view.findings.reverse)
      ∧ ∀ p ∈ (s.onEdit span.start).parse.pendingClear, p ≤ span.start
  | .act (.read _ _) => s.parseState.view.Clean s.parseState.view.settle.snap.cursor
  | .act .finish => True
  | .trim length => ∀ f ∈ s.parseState.view.findings, f.start < length → f.hyperlink.start < length

def AllCareful (s : Session) : List Turn → Prop
  | [] => True
  | t :: ts => s.Careful t ∧ (s.turn t).AllCareful ts

instance (k : Nat) (v : View) : Decidable (v.Clean k) :=
  inferInstanceAs (Decidable (∀ f ∈ v.findings, f.start < k → f.hyperlink.stop ≤ k))

instance (s : Session) : (t : Turn) → Decidable (s.Careful t)
  | .act (.append _) => inferInstanceAs (Decidable True)
  | .act (.insert _ _) => inferInstanceAs (Decidable (View.Clean _ _))
  | .act (.delete span) => inferInstanceAs (Decidable (View.Clean _ _ ∧ ∀ p ∈ _, p ≤ span.start))
  | .act (.read _ _) => inferInstanceAs (Decidable (View.Clean _ _))
  | .act .finish => inferInstanceAs (Decidable True)
  | .trim length => inferInstanceAs (Decidable (∀ f ∈ s.parseState.view.findings,
      f.start < length → f.hyperlink.start < length))

def decideAllCareful (s : Session) : (ts : List Turn) → Decidable (s.AllCareful ts)
  | [] => inferInstanceAs (Decidable True)
  | t :: ts =>
    have := decideAllCareful (s.turn t) ts
    inferInstanceAs (Decidable (s.Careful t ∧ (s.turn t).AllCareful ts))

instance (s : Session) (ts : List Turn) : Decidable (s.AllCareful ts) := decideAllCareful s ts

theorem sound_turn {s : Session} (hs : s.parseState.Sound) (t : Turn) :
    (s.turn t).parseState.Sound := by
  cases t with
  | act a => exact sound_act hs a
  | trim length =>
    exact ⟨hs.trail.shiftBack _, (Parse.sound_releaseAll hs.table _).sweep⟩

theorem mirrored_trim {s : Session} (h : s.parseState.view.Mirrored) {length : Nat}
    (ht : s.Careful (.trim length)) : (s.trim length).2.parseState.view.Mirrored := by
  have hle : min length s.log.text.length ≤ s.log.text.length := Nat.min_le_right _ _
  refine h.trim (n := min length s.log.text.length) (fun f hf hlt => ?_)
    (Parse.findings_discardBefore s.parseState _) (Transcript.perm_trim h.nonempty hle) rfl rfl
    (Transcript.text_trim s.log hle)
  -- links lie in the text, so a trim beyond its end is one of all of it
  have h₁ := ht f hf (by omega)
  have h₂ := h.link_nonempty f hf
  have h₃ : f.hyperlink.stop ≤ s.log.text.length := h.link_le_length f hf
  omega

theorem mirrored_turn {s : Session} (hs : s.parseState.Sound) (h : s.parseState.view.Mirrored)
    (hlinks : s.parse.settings.rules.LinksNonempty) {t : Turn} (ht : s.Careful t) :
    (s.turn t).parseState.view.Mirrored := by
  -- an edit is told of first, and what is left then is before it
  have hedit : ∀ offset,
      s.parseState.view.Clean (View.doubtfulFrom offset s.parseState.view.findings.reverse) →
      (s.onEdit offset).parseState.view.Mirrored
        ∧ (s.onEdit offset).parseState.view.cursor ≤ offset
        ∧ ∀ f ∈ (s.onEdit offset).parseState.view.findings, f.hyperlink.stop ≤ offset := by
    intro offset hclean
    rw [view_onEdit]
    exact h.flushFrom hclean
  cases t with
  | act a =>
    cases a with
    | append t => exact h.append rfl rfl t
    | insert offset t =>
      obtain ⟨hflush, hcursor, hstop⟩ := hedit offset ht
      exact hflush.insert rfl rfl hcursor hstop t
    | delete span =>
      obtain ⟨hflush, hcursor, hstop⟩ := hedit span.start ht.1
      exact hflush.delete rfl rfl hcursor hstop ht.2
    | read disk upto =>
      show (s.act (.read disk upto)).parseState.view.Mirrored
      rw [view_read disk upto hs]
      exact h.advance hlinks ht
    | finish => exact ⟨h.1, h.2, h.3, h.4, h.5, h.6, h.7, h.8⟩
  | trim length => exact mirrored_trim h ht

/-- Where each message begins behind the last line of the one before, no insertion cuts a link
off. -/
theorem careful_insert_of_tidy {s : Session} (h : s.parseState.view.Tidy)
    (ho : Ordered s.parseState.view.findings) (offset : Nat) (t : Text) :
    s.Careful (.act (.insert offset t)) := fun f hf hlt =>
  Nat.le_trans (ho.proper f hf).link_le (h.stop_le_doubtfulFrom offset f hf hlt)

theorem settings_turn {s : Session} (hs : s.parseState.Sound) (t : Turn) :
    (s.turn t).parse.settings = s.parse.settings := by
  have hedit : ∀ offset, (s.onEdit offset).parse.settings = s.parse.settings := by
    intro offset
    show (s.onEdit offset).parseState.view.settings = _
    rw [view_onEdit]
    exact (View.sameSetting_flushFrom _ offset).settings
  cases t with
  | act a =>
    cases a with
    | append t => rfl
    | insert offset t => exact hedit offset
    | delete span => exact hedit span.start
    | read disk upto =>
      show (s.act (.read disk upto)).parseState.view.settings = _
      rw [view_read disk upto hs]
      exact (View.sameSetting_advance upto _).settings
    | finish => rfl
  | trim length => rfl

theorem mirrored_turns {s : Session} (hs : s.parseState.Sound) (h : s.parseState.view.Mirrored)
    (hlinks : s.parse.settings.rules.LinksNonempty) {ts : List Turn} (hts : s.AllCareful ts) :
    (s.turns ts).parseState.Sound ∧ (s.turns ts).parseState.view.Mirrored := by
  induction ts generalizing s with
  | nil => exact ⟨hs, h⟩
  | cons t ts ih =>
    refine ih (sound_turn hs t) (mirrored_turn hs h hlinks hts.1) ?_ hts.2
    rw [settings_turn hs]
    exact hlinks

section OfText

variable (cfg : ScanSettings) (p : Option DirectoryPattern) (workingDir : Path)
  (searchPath : List (Option Path)) (nav : NavigationSettings) (sources : Sources)

theorem mirrored_ofText (t : Text) :
    (ofText cfg p workingDir searchPath nav sources t).parseState.view.Mirrored := by
  rw [parseState_ofText]
  exact ⟨nofun, nofun, nofun, Nat.zero_le _, nofun, .inl terminated_nil, nofun, List.Perm.nil⟩

/-- After careful turns over a log without labels, reading all there is leaves one label for each
message just if it cuts no link off. -/
theorem perm_labels_parseAll_iff (hlinks : cfg.rules.LinksNonempty) (t : Text) {ts : List Turn}
    (hts : (ofText cfg p workingDir searchPath nav sources t).AllCareful ts) (disk : Disk) :
    let s := (ofText cfg p workingDir searchPath nav sources t).turns ts
    (s.parseAll disk).2.log.labels.spans.Perm
        ((s.parseAll disk).2.parse.messages.map Message.labelledSpan)
      ↔ s.Careful (.act (.read disk s.log.text.length)) := by
  intro s
  have hs := sound_start cfg p workingDir searchPath nav sources (.ofText t)
  obtain ⟨hsound, hmirrored⟩ :=
    mirrored_turns hs (mirrored_ofText cfg p workingDir searchPath nav sources t) hlinks hts
  have hview := view_read disk s.log.text.length hsound
  have hiff := hmirrored.perm_advance_iff s.log.text.length
  rw [← hview] at hiff
  have hmap : (s.parseAll disk).2.parseState.view.findings.map Finding.labelledSpan
      = (s.parseAll disk).2.parse.messages.map Message.labelledSpan := List.map_map
  rw [← hmap]
  exact hiff

/-- A line is put in before lines that were read, the head of the log goes, and the last line is cut
short. -/
theorem perm_labels_parseAll_capitals :
    let ts : List Turn := [.act (.append "A\nB\nC\n".toList), .act (.read .empty 6),
      .act (.insert 2 "D\n".toList), .trim 2, .act (.delete ⟨4, 5⟩)]
    let s := (ofText .capitals none ⟨['/']⟩ [none] {} {} []).turns ts
    ScanSettings.capitals.rules.LinksNonempty
      ∧ (ofText .capitals none ⟨['/']⟩ [none] {} {} []).AllCareful ts
      ∧ ((s.parseAll .empty).2.log.labels.spans.Perm
          ((s.parseAll .empty).2.parse.messages.map Message.labelledSpan)
        ↔ s.Careful (.act (.read .empty s.log.text.length))) := by
  intro ts s
  have hlinks := inLines_capitals.linksNonempty
  have hts : (ofText .capitals none ⟨['/']⟩ [none] {} {} []).AllCareful ts := by decide +kernel
  exact ⟨hlinks, hts, perm_labels_parseAll_iff .capitals none ⟨['/']⟩ [none] {} {} hlinks [] hts
    .empty⟩

/-- A letter is put in right behind a pair.  The next reading begins at the start of this line,
inside the pair, whose label is cleared from there on, while the message stays. -/
theorem perm_labels_parseAll_differs :
    let s := (ofText { rules := ⟨[pairRule]⟩ } none ⟨['/']⟩ [none] {} {} []).run
      [.append "A\nB\nx\n".toList, .read .empty 6, .insert 3 ['C']]
    RuleSet.LinksNonempty ⟨[pairRule]⟩
      ∧ (s.parseAll .empty).2.parse.messages.map (·.hyperlink) = [⟨0, 3⟩]
      ∧ ¬ (s.parseAll .empty).2.log.labels.spans.Perm
        ((s.parseAll .empty).2.parse.messages.map Message.labelledSpan) := by
  refine ⟨RuleSet.linksNonempty_of_whole fun r hr g hg => ?_, by decide +kernel, fun hperm => ?_⟩
  · rw [List.mem_singleton.mp hr] at hg
    exact (Option.some.inj hg).symm
  · have hlen := hperm.length_eq
    revert hlen
    decide +kernel

/-- The head of the log goes up to the link of a message: the message goes, its label stays. -/
example :
    let letter (c : Char) : Pattern.Expr := .one (.singleton c)
    let second : Pattern.Expr := .cat (letter 'A') (.cat (letter '\n') (.group 1 none (letter 'B')))
    let rule : Rule := { Rule.ofExpr "pair" second 2 with hyperlink := some 1 }
    let s := (ofText { rules := ⟨[rule]⟩ } none ⟨['/']⟩ [none] {} {} []).turns
      [.act (.append "A\nB\nx\n".toList), .act (.read .empty 6)]
    ¬ s.Careful (.trim 2) ∧ (s.trim 2).2.parse.messages = []
      ∧ (s.trim 2).2.log.labels.spans.map (·.span) = [⟨0, 1⟩] := by
  decide +kernel

/-- A message is dropped for an edit, and its label is to be cleared from where it is.  Text is
taken out before it, and the label comes to lie before the place to clear from. -/
example :
    let rule : Rule := .ofExpr "mark" (.one (.singleton 'M')) 3
    let s := (ofText { rules := ⟨[rule]⟩ } none ⟨['/']⟩ [none] {} {} []).turns
      [.act (.append "x\nM\n".toList), .act (.read .empty 4), .act (.insert 2 []),
        .act (.delete ⟨3, 4⟩)]
    ¬ s.Careful (.act (.delete ⟨0, 2⟩))
      ∧ ((s.delete ⟨0, 2⟩).parseAll .empty).2.parse.messages = []
      ∧ ((s.delete ⟨0, 2⟩).parseAll .empty).2.log.labels.spans.map (·.span) = [⟨0, 1⟩] := by
  decide +kernel

/-- While a log only grows, no reading cuts a link off. -/
theorem allCareful_of_streams {s : Session} (hs : s.parseState.Sound)
    (huncut : s.parseState.view.Uncut) (h : s.parseState.view.Mirrored)
    (hlinks : s.parse.settings.rules.LinksNonempty) {as : List Action} (has : ∀ a ∈ as, a.Streams) :
    s.AllCareful (as.map .act) := by
  induction as generalizing s with
  | nil => trivial
  | cons a as ih =>
    have ha := has a List.mem_cons_self
    have hcareful : s.Careful (.act a) := by
      cases a with
      | append t => trivial
      | read disk upto =>
        -- the cursor is at the start of a line, so the reading begins there
        show s.parseState.view.Clean s.parseState.view.settle.snap.cursor
        rw [huncut.ready.settle, huncut.ready.snap]
        exact h.clean
      | _ => exact ha.elim
    refine ⟨hcareful, ih (sound_act hs a) (uncut_act hs huncut ha) (mirrored_turn hs h hlinks hcareful)
      ?_ fun b hb => has b (List.mem_cons_of_mem a hb)⟩
    rw [← settings_turn hs (.act a)] at hlinks
    exact hlinks

/-- While a log only grows, it has one label for each message. -/
theorem perm_labels_of_streams (hlinks : cfg.rules.LinksNonempty) {as : List Action}
    (has : ∀ a ∈ as, a.Streams) :
    let s := (ofText cfg p workingDir searchPath nav sources []).run as
    s.log.labels.spans.Perm (s.parse.messages.map Message.labelledSpan) := by
  intro s
  have hs : (ofText cfg p workingDir searchPath nav sources []).parseState.Sound :=
    sound_start cfg p workingDir searchPath nav sources (.ofText [])
  have huncut := uncut_start cfg p workingDir searchPath nav sources
  have h := mirrored_ofText cfg p workingDir searchPath nav sources []
  have hrun := (mirrored_turns hs h hlinks (allCareful_of_streams hs huncut h hlinks has)).2
  have hturns : (ofText cfg p workingDir searchPath nav sources []).turns (as.map .act) = s :=
    List.foldl_map
  rw [hturns] at hrun
  have hstanding := hrun.standing
  rw [View.standing_of_none (uncut_run hs huncut has).ready.pending] at hstanding
  exact hstanding.trans (List.Perm.of_eq List.map_map)

end OfText

end Session

end BuildLog
