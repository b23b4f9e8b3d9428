import BuildLog.Proofs.Letters
import BuildLog.Proofs.WholeReading

/-!
# Streaming — a log that is read while it grows

A log that grows at its end is read piece by piece.  At each moment the findings before the cursor
are the certain findings of some part of the text, however it was cut into pieces.  So in the end
they are the findings of the whole text, for every way of cutting it, exactly if readings can be
resumed.
-/

namespace BuildLog

open Text

namespace View

/-! ## 1. The invariant -/

/-- While the log grows: what was read and is not to be read again is what was certain of the
text `a`. -/
structure Streamed (a : Text) (v : View) : Prop where
  pending : v.pendingClear = none
  rewound : v.rewound = false
  terminated : Terminated a
  leads : a <+: v.text
  cursor : v.cursor = certain v.settings v.pattern v.home a
  kept : v.kept = certainFindings v.settings v.pattern v.home a
  dirs : ∀ o, o < v.cursor → v.dirs o = dirsIn v.pattern v.home (a.take v.cursor) o
  inText : ∀ f ∈ v.findings, f.start < v.text.length

section Streamed

variable {v : View} {a : Text} (h : v.Streamed a)
include h

theorem Streamed.cursor_le : v.cursor ≤ a.length := by
  rw [h.cursor]
  exact certain_le _ _ _ a

theorem Streamed.take_cursor : v.text.take v.cursor = a.take v.cursor := by
  obtain ⟨b, hb⟩ := h.leads
  rw [← hb, List.take_append_of_le_length h.cursor_le]

theorem Streamed.cursor_le_text : v.cursor ≤ v.text.length :=
  Nat.le_trans h.cursor_le h.leads.length_le

theorem Streamed.ready : v.Ready := by
  refine ⟨h.pending, h.rewound, h.cursor_le_text, .inl ?_⟩
  rw [h.take_cursor, h.cursor]
  exact terminated_take_certain _ _ _ h.terminated

theorem Streamed.knows : v.Knows (a.take v.cursor) := by
  have hlen : (a.take v.cursor).length = v.cursor := by
    rw [List.length_take]
    exact Nat.min_eq_left h.cursor_le
  refine ⟨?_, hlen.symm, fun o ho => h.dirs o (by omega)⟩
  rw [h.cursor]
  exact terminated_take_certain _ _ _ h.terminated

theorem Streamed.append (t : Text) : Streamed a { v with text := v.text ++ t } where
  pending := h.pending
  rewound := h.rewound
  terminated := h.terminated
  leads := h.leads.trans (List.prefix_append v.text t)
  cursor := h.cursor
  kept := h.kept
  dirs := h.dirs
  inText f hf := by
    have := h.inText f hf
    show f.start < (v.text ++ t).length
    rw [List.length_append]
    omega

theorem Streamed.found (hp : DirsLineByLine v.pattern) (t : Text) :
    v.found t = readingFrom v.settings v.pattern v.home (a.take v.cursor) t
      ((certainFindings v.settings v.pattern v.home a).getLast?.map Finding.origin) := by
  rw [h.knows.found hp, h.kept]

end Streamed

/-! ## 2. How far a reading is certain -/

section Certain

variable {cfg : ScanSettings} {p : Option DirectoryPattern} {home : List Path}

variable (cfg p home) in
theorem claimAfter_certainFindings {a : Text} (ha : Terminated a) (b : Text) :
    claimAfter (a ++ b).lineEndAfter 0 (certainFindings cfg p home a)
      = claimAfter a.lineEndAfter 0 (certainFindings cfg p home a) := by
  unfold claimAfter
  cases hl : (certainFindings cfg p home a).getLast? with
  | none => rfl
  | some f =>
    have hf := (List.mem_filter.mp (List.mem_of_getLast? hl)).1
    dsimp only
    rw [lineEndAfter_append_right ha b (reading_within a f hf).stop_le]

/-- Where the findings of a text behind `u` are certain, counted from the start of the log. -/
theorem add_certainLength_eq {u r : Text} (hu : Terminated u) (n : Nat) {fs : List Finding}
    (hfs : ∀ f ∈ fs, u.length ≤ f.start ∧ u.length ≤ f.span.stop) :
    u.length + certainLength n r u.length fs
      = max (u.length + r.tailStart (n - 1)) (claimAfter (u ++ r).lineEndAfter 0
          (fs.filter (·.start < u.length + r.tailStart (n - 1)))) := by
  have hfilter : fs.filter (fun f => decide (f.start - u.length < r.tailStart (n - 1)))
      = fs.filter (·.start < u.length + r.tailStart (n - 1)) := by
    apply List.filter_congr
    intro f hf
    have := (hfs f hf).1
    rw [decide_eq_decide]
    omega
  unfold certainLength claimAfter
  dsimp only
  rw [hfilter]
  cases hl : (fs.filter (·.start < u.length + r.tailStart (n - 1))).getLast? with
  | none => exact (Nat.max_eq_left (Nat.zero_le _)).symm
  | some f =>
    have hf := (hfs f (List.mem_filter.mp (List.mem_of_getLast? hl)).1).2
    have hend := lineEndAfter_append_left hu r (f.span.stop - u.length)
    rw [Nat.add_sub_cancel' hf] at hend
    dsimp only
    rw [hend]
    omega

/-- Once the certain findings of `a` and those behind them are the findings of a longer text, the
cursor is put where the findings of that text are certain. -/
theorem add_certainLength {v : View} {a b : Text} (ha : Terminated a)
    (hc : v.cursor = certain v.settings v.pattern v.home a)
    {fs : List Finding} (hfs : ∀ f ∈ fs, v.cursor ≤ f.start)
    (hres : certainFindings v.settings v.pattern v.home a ++ fs
      = reading v.settings v.pattern v.home (a ++ b)) :
    v.cursor + certainLength v.settings.rules.maxLines (a.drop v.cursor ++ b) v.cursor fs
      = certain v.settings v.pattern v.home (a ++ b) := by
  have hlen : (a.take v.cursor).length = v.cursor :=
    List.length_take_of_le (hc ▸ certain_le _ _ _ a)
  have hterm : Terminated (a.take v.cursor) := by
    rw [hc]
    exact terminated_take_certain _ _ _ ha
  have hsplit := take_append_drop_append v.cursor a b
  -- what was found behind the cursor lies behind it as a whole
  have hbounds : ∀ f ∈ fs, (a.take v.cursor).length ≤ f.start
      ∧ (a.take v.cursor).length ≤ f.span.stop := by
    intro f hf
    have h₁ := (reading_within (a ++ b) f (hres ▸ List.mem_append_right _ hf)).nonempty
    have h₂ := hfs f hf
    omega
  have hcursor := add_certainLength_eq (r := a.drop v.cursor ++ b) hterm
    v.settings.rules.maxLines hbounds
  have htail := tailStart_append hterm (a.drop v.cursor ++ b) (v.settings.rules.maxLines - 1)
  rw [hsplit, hlen] at hcursor htail
  have hmono := tailStart_le_append ha b (v.settings.rules.maxLines - 1)
  -- the cursor was put where the last lines of `a` begin, or where its findings claim the text
  have hcert := certain_eq v.settings v.pattern v.home a
  rw [← certainFindings_eq, ← claimAfter_certainFindings v.settings v.pattern v.home ha b, ← hc]
    at hcert
  have hbefore : ∀ f ∈ certainFindings v.settings v.pattern v.home a,
      f.start < a.tailStart (v.settings.rules.maxLines - 1) := by
    intro f hf
    rw [certainFindings_eq] at hf
    simpa using (List.mem_filter.mp hf).2
  rw [hcursor, certain_eq _ _ _ (a ++ b), ← hres]
  rcases htail with htail | ⟨hzero, htail⟩
  · -- the last lines begin behind the cursor, so all that is certain of `a` begins before them
    have hkeep : ∀ f ∈ certainFindings v.settings v.pattern v.home a,
        decide (f.start < v.cursor
          + tailStart (a.drop v.cursor ++ b) (v.settings.rules.maxLines - 1)) = true :=
      fun f hf => decide_eq_true (by have := hbefore f hf; omega)
    have hclaim : claimAfter (a ++ b).lineEndAfter 0 (certainFindings v.settings v.pattern v.home a)
        ≤ v.cursor + tailStart (a.drop v.cursor ++ b) (v.settings.rules.maxLines - 1) := by
      omega
    rw [htail, List.filter_append, List.filter_eq_self.mpr hkeep, claimAfter_append,
      max_claimAfter hclaim]
  · -- the last lines begin at the cursor or before it, which stays
    have hnone : ∀ f ∈ fs, ¬ decide (f.start < v.cursor + 0) = true := by
      intro f hf
      have := hfs f hf
      simpa using this
    rw [hzero, List.filter_eq_nil_iff.mpr hnone, filter_append_left]
    · show max _ 0 = _
      omega
    · intro f hf
      have := hbefore f hf
      exact decide_eq_true (by omega)
    · intro f hf
      have := hfs f hf
      exact decide_eq_false (by omega)

end Certain

/-! ## 3. Readings -/

section Read

variable {v : View} {a : Text} (h : v.Streamed a) (hp : DirsLineByLine v.pattern)
include h hp

theorem Streamed.readText_dirs {t : Text} {c : Nat} (hc : c ≤ v.cursor + t.length)
    (hterm : Terminated ((a.take v.cursor ++ t).take c)) :
    ∀ o, o < c → v.dirsWith t o = dirsIn v.pattern v.home ((a.take v.cursor ++ t).take c) o := by
  intro o ho
  have hlen : (a.take v.cursor).length = v.cursor := h.knows.cursor.symm
  have hlt : o < ((a.take v.cursor ++ t).take c).length := by
    rw [List.length_take, List.length_append]
    omega
  rw [h.knows.dirsWith hp t (by omega),
    ← dirsIn_append_left hp v.home hterm ((a.take v.cursor ++ t).drop c) hlt,
    List.take_append_drop]

/-- Reading no further than `a` finds no more than what was found before, and the cursor stays. -/
theorem Streamed.readText_short {t d : Text} (ht : Terminated t)
    (ha : a.take v.cursor ++ t ++ d = a) : Streamed a (v.readText t false).2 := by
  have hlen : (a.take v.cursor).length = v.cursor := h.knows.cursor.symm
  have hterm : Terminated (a.take v.cursor) := h.knows.terminated
  have hfound := found_within v t
  -- the cursor is behind the start of the last lines of `a`, and `t` has no more lines than these
  have hzero : t.tailStart (v.settings.rules.maxLines - 1) = 0 := by
    have hle := tailStart_le_append ht d (v.settings.rules.maxLines - 1)
    have happ := tailStart_append hterm (t ++ d) (v.settings.rules.maxLines - 1)
    rw [← List.append_assoc, ha, hlen] at happ
    have hcert := tailStart_le_certain v.settings v.pattern v.home a
    rw [← h.cursor] at hcert
    omega
  have hcursor : (v.readText t false).2.cursor = v.cursor := by
    show v.cursor + certainLength _ t v.cursor (v.found t) = v.cursor
    unfold certainLength
    simp only [hzero, Nat.not_lt_zero, decide_false, List.filter_false, List.getLast?_nil]
    omega
  have hcut : a.length = v.cursor + t.length + d.length := by
    rw [← ha, List.length_append, List.length_append, hlen]
  have hle := h.leads.length_le
  refine ⟨h.pending, h.rewound, h.terminated, h.leads, ?_, ?_, ?_, fun f hf => ?_⟩
  · rw [hcursor, h.cursor]
    rfl
  · unfold View.kept
    rw [hcursor]
    show (v.kept ++ v.found t).filter _ = _
    rw [filter_append_left, h.kept]
    · rfl
    · intro f hf
      exact (List.mem_filter.mp hf).2
    · intro f hf
      have := (hfound f hf).start_le
      exact decide_eq_false (by omega)
  · rw [hcursor]
    have hsame : (a.take v.cursor ++ t).take v.cursor = a.take v.cursor :=
      List.take_left' hlen
    have hdirs := h.readText_dirs hp (c := v.cursor) (by omega) (by rw [hsame]; exact hterm)
    rw [hsame] at hdirs
    exact hdirs
  · rcases List.mem_append.mp hf with hf | hf
    · exact h.inText f (List.mem_filter.mp hf).1
    · have hw := hfound f hf
      have h₁ := hw.nonempty
      have h₂ := hw.stop_le
      show f.start < v.text.length
      omega

/-- Reading on behind `a` leaves what is certain of the longer text. -/
theorem Streamed.readText_long {t b : Text} (ht : Terminated t)
    (hres : certainFindings v.settings v.pattern v.home a
        ++ readingFrom v.settings v.pattern v.home (a.take v.cursor) t
          ((certainFindings v.settings v.pattern v.home a).getLast?.map Finding.origin)
      = reading v.settings v.pattern v.home (a ++ b))
    (hb : a.take v.cursor ++ t = a ++ b) (hpre : a ++ b <+: v.text) :
    Streamed (a ++ b) (v.readText t false).2
      ∧ (v.readText t false).2.findings = reading v.settings v.pattern v.home (a ++ b) := by
  have hlen : (a.take v.cursor).length = v.cursor := h.knows.cursor.symm
  have hfound := found_within v t
  have ht' : t = a.drop v.cursor ++ b :=
    List.append_cancel_left (hb.trans (take_append_drop_append v.cursor a b).symm)
  -- with what is resumed, the findings are those of the longer text
  have hall : v.kept ++ v.found t = reading v.settings v.pattern v.home (a ++ b) := by
    rw [h.kept, h.found hp, hres]
  have hcursor : (v.readText t false).2.cursor
      = certain v.settings v.pattern v.home (a ++ b) := by
    show v.cursor + certainLength _ t v.cursor (v.found t) = _
    rw [← add_certainLength h.terminated h.cursor (fun f hf => (hfound f hf).start_le)
      (h.kept ▸ hall), ← ht']
  have hterm : Terminated (a ++ b) := by
    rw [← hb]
    exact h.knows.terminated.append ht
  have hle := certain_le v.settings v.pattern v.home (a ++ b)
  refine ⟨⟨h.pending, h.rewound, hterm, hpre, hcursor, ?_, ?_, fun f hf => ?_⟩, hall⟩
  · unfold View.kept
    rw [hcursor]
    show (v.kept ++ v.found t).filter _ = _
    rw [hall]
    rfl
  · rw [hcursor, ← hb]
    have hbound : certain v.settings v.pattern v.home (a.take v.cursor ++ t)
        ≤ v.cursor + t.length := by
      have := certain_le v.settings v.pattern v.home (a.take v.cursor ++ t)
      rw [List.length_append, hlen] at this
      exact this
    refine h.readText_dirs hp hbound ?_
    rw [hb]
    exact terminated_take_certain _ _ _ hterm
  · have hf : f ∈ reading v.settings v.pattern v.home (a ++ b) := hall ▸ hf
    exact Nat.lt_of_lt_of_le (start_lt_of_mem_reading hf) hpre.length_le

theorem Streamed.advance (hrun : v.finished = false)
    (hres : ∀ b, certainFindings v.settings v.pattern v.home a
        ++ readingFrom v.settings v.pattern v.home (a.take v.cursor) (a.drop v.cursor ++ b)
          ((certainFindings v.settings v.pattern v.home a).getLast?.map Finding.origin)
      = reading v.settings v.pattern v.home (a ++ b)) (upto : Nat) :
    ∃ a', Streamed a' (v.advance upto).2 := by
  rw [h.ready.advance, readOn]
  by_cases hnil : v.readable upto = []
  · rw [if_pos hnil]
    exact ⟨a, h⟩
  · rw [if_neg hnil]
    have hend : v.atEnd upto = false := by
      unfold atEnd
      rw [hrun]
      rfl
    have ht : Terminated (v.readable upto) := terminated_readable hend
    have htake := take_readEnd upto v
    rw [h.take_cursor] at htake
    have hpre : a.take v.cursor ++ v.readable upto <+: v.text :=
      htake ▸ List.take_prefix (v.readEnd upto) v.text
    rw [hend]
    -- either the text read so far begins `a`, or `a` begins it
    rcases Nat.le_total (a.take v.cursor ++ v.readable upto).length a.length with hle | hle
    · obtain ⟨d, hd⟩ := List.prefix_of_prefix_length_le hpre h.leads hle
      exact ⟨a, h.readText_short hp ht hd⟩
    · obtain ⟨b, hb⟩ := List.prefix_of_prefix_length_le h.leads hpre hle
      have ht' : v.readable upto = a.drop v.cursor ++ b :=
        List.append_cancel_left (hb.symm.trans (take_append_drop_append v.cursor a b).symm)
      exact ⟨a ++ b, (h.readText_long hp ht (ht' ▸ hres b) hb.symm (hb.symm ▸ hpre)).1⟩

/-- In the end, the certain findings of `a` stay, and the text behind them is read once more. -/
theorem Streamed.findings_closed :
    ({ v with finished := true }.advance v.text.length).2.findings
      = certainFindings v.settings v.pattern v.home a
        ++ readingFrom v.settings v.pattern v.home (a.take v.cursor) (v.text.drop v.cursor)
          ((certainFindings v.settings v.pattern v.home a).getLast?.map Finding.origin) := by
  have hready : Ready { v with finished := true } :=
    ⟨h.pending, h.rewound, h.ready.cursor_le, h.ready.lineStart⟩
  have hend : atEnd v.text.length { v with finished := true } = true := by
    unfold atEnd
    simp
  have htext : readable v.text.length { v with finished := true } = v.text.drop v.cursor := by
    have hlen := length_readable v.text.length { v with finished := true }
    rw [if_pos hend] at hlen
    rw [readable_eq, hlen]
    show (v.text.drop v.cursor).take (min v.text.length v.text.length - v.cursor) = _
    rw [Nat.min_self, ← List.length_drop, List.take_length]
  rw [hready.advance, readOn, htext]
  -- with nothing left to read, nothing was provisional
  by_cases hnil : v.text.drop v.cursor = []
  · rw [if_pos hnil, hnil, readingFrom_nil, List.append_nil, ← h.kept]
    have hcursor : v.text.length ≤ v.cursor := List.drop_eq_nil_iff.mp hnil
    refine (List.filter_eq_self.mpr fun f hf => ?_).symm
    have := h.inText f hf
    exact decide_eq_true (by omega)
  · rw [if_neg hnil]
    show v.kept ++ v.found (v.text.drop v.cursor) = _
    rw [h.kept, h.found hp]

end Read

theorem streamed_nil {v : View} (hp : v.pendingClear = none) (hr : v.rewound = false)
    (hc : v.cursor = 0) (hf : v.findings = []) : v.Streamed [] where
  pending := hp
  rewound := hr
  terminated := terminated_nil
  leads := List.nil_prefix
  cursor := by
    have := certain_le v.settings v.pattern v.home []
    rw [List.length_nil] at this
    omega
  kept := by
    have hnil : reading v.settings v.pattern v.home [] = [] := readingFrom_nil [] none
    rw [View.kept, hf, certainFindings, hnil]
    rfl
  dirs o ho := by omega
  inText f hf' := by
    rw [hf] at hf'
    cases hf'

end View

/-! ## 4. States -/

namespace Parse

/-- An action that makes a log grow, or reads it. -/
def Action.Streams : Action → Prop
  | .append _ => True
  | .read _ _ => True
  | _ => False

/-- The state after the tool has ended and the rest of the log was read. -/
def State.closed (disk : Disk) (s : State) : State :=
  (s.act (.finish true)).act (.read disk s.log.length)

section States

variable (cfg : ScanSettings) (p : Option DirectoryPattern) (workingDir : Path)
  (searchPath : List (Option Path))

/-- What a run of a growing log keeps, whatever it reads. -/
structure State.Growing (s : State) : Prop where
  proper : s.Proper
  settings : s.view.settings = cfg
  pattern : s.view.pattern = p
  home : s.view.home = []
  running : s.view.finished = false

theorem State.growing_start (t : Text) :
    (State.start cfg p workingDir searchPath (.ofText t)).Growing cfg p :=
  ⟨State.proper_start cfg p workingDir searchPath (fun _ hl => nomatch hl), rfl, rfl, rfl, rfl⟩

variable {cfg p workingDir searchPath}

theorem State.Growing.act {s : State} (h : s.Growing cfg p) {a : Action} (ha : a.Streams) :
    (s.act a).Growing cfg p := by
  obtain ⟨hproper, hsettings, hpattern, hhome, hrun⟩ := h
  cases a with
  | append t => exact ⟨hproper.act (.append t), hsettings, hpattern, hhome, hrun⟩
  | read disk upto =>
    have hsame := sameSetting_read hproper.sound disk upto
    exact ⟨hproper.act (.read disk upto), hsame.settings.trans hsettings,
      hsame.pattern.trans hpattern, hsame.home.trans hhome, hsame.finished.trans hrun⟩
  | _ => exact ha.elim

/-- What the tool's end leaves of a log of which `a` was certain. -/
theorem State.Growing.findings_closed {s : State} (h : s.Growing cfg p) (hp : DirsLineByLine p)
    {a b : Text} (ha : s.view.Streamed a) (hb : s.log.text = a ++ b) (disk : Disk) :
    (s.closed disk).parse.messages.map Message.finding
      = certainFindings cfg p [] a
        ++ readingFrom cfg p [] (a.take (certain cfg p [] a)) (a.drop (certain cfg p [] a) ++ b)
          ((certainFindings cfg p [] a).getLast?.map Finding.origin) := by
  have hpattern : DirsLineByLine s.view.pattern := h.pattern ▸ hp
  have hview : (s.closed disk).view
      = ({ s.view with finished := true }.advance s.view.text.length).2 :=
    (view_advance (s := s.act (.finish true)) ⟨h.proper.sound.trail, h.proper.sound.table⟩ disk
      s.log.length).2.1
  have hdrop : s.view.text.drop s.view.cursor = a.drop s.view.cursor ++ b := by
    show s.log.text.drop _ = _
    rw [hb, List.drop_append_of_le_length ha.cursor_le]
  show (s.closed disk).view.findings = _
  rw [hview, ha.findings_closed hpattern, hdrop, ha.cursor, h.settings, h.pattern, h.home]

theorem findings_closed_start (hp : DirsLineByLine p) (t : Text) (disk : Disk) :
    ((State.start cfg p workingDir searchPath (.ofText t)).closed disk).parse.messages.map
        Message.finding = reading cfg p [] t := by
  have hgrow := State.growing_start cfg p workingDir searchPath t
  rw [hgrow.findings_closed hp (a := []) (b := t) (View.streamed_nil rfl rfl rfl rfl) rfl disk,
    certainFindings_nil, List.take_nil, List.drop_nil]
  rfl

theorem growing_run {as : List Action} (has : ∀ a ∈ as, a.Streams) {s : State}
    (hs : s.Growing cfg p) : (s.run as).Growing cfg p :=
  State.run_induction hs (fun _ _ hu ha => hu.act ha) has

theorem exists_streamed (hp : DirsLineByLine p) (hres : Resumable cfg p []) {as : List Action}
    (has : ∀ a ∈ as, a.Streams) {s : State} (hs : s.Growing cfg p) {a : Text}
    (ha : s.view.Streamed a) :
    (s.run as).Growing cfg p ∧ ∃ a', (s.run as).view.Streamed a' := by
  refine State.run_induction (P := fun u => u.Growing cfg p ∧ ∃ a', u.view.Streamed a')
    ⟨hs, a, ha⟩ (fun u x ⟨hu, a', ha'⟩ hx => ⟨hu.act hx, ?_⟩) has
  -- text that is added changes nothing that is certain
  cases x with
  | append t => exact ⟨a', ha'.append t⟩
  | read disk upto =>
    rw [view_read hu.proper.sound]
    refine ha'.advance (hu.pattern ▸ hp) hu.running (fun b => ?_) upto
    have := hres a' b ha'.terminated
    rw [ha'.cursor, hu.settings, hu.pattern, hu.home]
    exact this
  | _ => exact hx.elim

variable (cfg workingDir searchPath) in
/-- A text that is added and read at once while the log grows is certain as far as it can be. -/
theorem streamed_append_read (hp : DirsLineByLine p) {a : Text} (ha : Terminated a) (hne : a ≠ [])
    (disk : Disk) :
    ((State.start cfg p workingDir searchPath {}).run
      [.append a, .read disk a.length]).view.Streamed a := by
  have hgrow := (State.growing_start cfg p workingDir searchPath []).act (a := .append a) trivial
  let v := ((State.start cfg p workingDir searchPath {}).act (.append a)).view
  have hv : v.Streamed [] := View.streamed_nil rfl rfl rfl rfl
  have hend : v.atEnd a.length = false := rfl
  have hread : v.readable a.length = a := by
    unfold View.readable
    rw [hend]
    show (slice a 0 (min a.length a.length)).take (slice a 0 (min a.length a.length)).terminatedLength
      = a
    rw [Nat.min_self, slice, List.take_length, List.drop_zero, ha, List.take_length]
  have hlong := hv.readText_long hp (b := a) ha (by
    rw [List.take_nil, certainFindings_nil]
    rfl) rfl (List.prefix_refl a)
  have hview : ((State.start cfg p workingDir searchPath {}).run
      [.append a, .read disk a.length]).view = (v.advance a.length).2 :=
    (view_advance hgrow.proper.sound disk a.length).2.1
  rw [hview, hv.ready.advance, View.readOn, hread, if_neg hne, hend]
  exact hlong.1

theorem streams_append_read_append (a b : Text) :
    ∀ x ∈ [Action.append a, .read .empty a.length, .append b], x.Streams := by
  intro x hx
  simp only [List.mem_cons, List.not_mem_nil, or_false] at hx
  rcases hx with rfl | rfl | rfl <;> trivial

variable (cfg workingDir searchPath) in
/-- A log is read when `a` is there, and then `b` is added. -/
theorem closed_append_read_append (hp : DirsLineByLine p) {a : Text} (ha : Terminated a)
    (hne : a ≠ []) (b : Text) (disk : Disk) {s : State}
    (hs : (State.start cfg p workingDir searchPath {}).run
      [.append a, .read .empty a.length, .append b] = s) :
    s.log.text = a ++ b
      ∧ (s.closed disk).parse.messages.map Message.finding
        = certainFindings cfg p [] a
          ++ readingFrom cfg p [] (a.take (certain cfg p [] a)) (a.drop (certain cfg p [] a) ++ b)
            ((certainFindings cfg p [] a).getLast?.map Finding.origin) := by
  have hstart : (State.start cfg p workingDir searchPath {}).Growing cfg p :=
    State.growing_start cfg p workingDir searchPath []
  have htext : s.log.text = a ++ b := by
    have hview := view_read (hstart.act (a := .append a) trivial).proper.sound .empty a.length
    have hread := congrArg View.text hview
    rw [View.text_advance] at hread
    rw [← hs]
    exact congrArg (· ++ b) hread
  have hstreamed : s.view.Streamed a :=
    hs ▸ (streamed_append_read cfg workingDir searchPath hp ha hne .empty).append b
  have hgrow : s.Growing cfg p := hs ▸ growing_run (streams_append_read_append a b) hstart
  exact ⟨htext, hgrow.findings_closed hp hstreamed htext disk⟩

/-- A log that was read while it grew has, in the end, the messages of a log read at once: this
holds for all ways of cutting and reading it exactly if readings can be resumed, and so it does if
every rule stays within its lines. -/
theorem streaming_iff (hp : DirsLineByLine p) :
    ((∀ (as : List Action) (disk disk' : Disk), (∀ a ∈ as, a.Streams) →
        (((State.start cfg p workingDir searchPath {}).run as).closed disk).parse.messages.map
            Message.finding
          = ((State.start cfg p workingDir searchPath (.ofText
              ((State.start cfg p workingDir searchPath {}).run as).log.text)).closed
                disk').parse.messages.map Message.finding)
      ↔ Resumable cfg p [])
    ∧ ((∀ r ∈ cfg.rules.rules, r.WithinLines) → Resumable cfg p []) := by
  refine ⟨⟨fun h a b ha => ?_, fun hres as disk disk' has => ?_⟩,
    fun hr => resumable_of_withinLines hr hp⟩
  · by_cases hne : a = []
    · subst hne
      rw [certainFindings_nil, List.take_nil, List.drop_nil]
      rfl
    · -- `a` is added and read, and then `b` is added
      have hsame := h _ .empty .empty (streams_append_read_append a b)
      obtain ⟨htext, hclosed⟩ :=
        closed_append_read_append cfg workingDir searchPath hp ha hne b .empty rfl
      rw [findings_closed_start hp, hclosed, htext] at hsame
      exact hsame
  · obtain ⟨hgrow, a, ha⟩ := exists_streamed hp hres has
      (State.growing_start cfg p workingDir searchPath []) (View.streamed_nil rfl rfl rfl rfl)
    have hgrow' : ((State.start cfg p workingDir searchPath {}).run as).Growing cfg p := hgrow
    obtain ⟨b, hb⟩ := ha.leads
    have hb' : ((State.start cfg p workingDir searchPath {}).run as).log.text = a ++ b := hb.symm
    rw [findings_closed_start hp, hgrow'.findings_closed hp ha hb', hb']
    exact hres a b ha.terminated

end States

/-- A line is added, read up to its middle, and ended. -/
theorem streaming_capitals :
    DirsLineByLine (some .slash)
    ∧ let s := (State.start .capitals (some .slash) ⟨['/']⟩ [none] {}).run
        [.append "A\n/".toList, .read .empty 3, .append "B\nC".toList]
      (s.closed .empty).parse.messages.map Message.finding
        = ((State.start .capitals (some .slash) ⟨['/']⟩ [none] (.ofText s.log.text)).closed
            .empty).parse.messages.map Message.finding := by
  have hrules : ∀ r ∈ ScanSettings.capitals.rules.rules, r.WithinLines := fun r hr =>
    (lineByLine_capitals r hr).withinLines (RuleSet.lines_le_maxLines (s := ⟨[_]⟩) hr)
  obtain ⟨hiff, hres⟩ := @streaming_iff .capitals (some .slash) ⟨['/']⟩ [none] dirsLineByLine_slash
  exact ⟨dirsLineByLine_slash, hiff.mpr (hres hrules) _ .empty .empty
    (streams_append_read_append "A\n/".toList "B\nC".toList)⟩

/-- A rule for the letter `M`, and one for two lines of which the first ends with an `A` and the
second begins with one. -/
def pairRules : RuleSet :=
  let letter (c : Char) : Pattern.Expr := .one (.singleton c)
  ⟨[.ofSet "mark" (.singleton 'M'),
    .ofExpr "pair" (.cat (letter 'A') (.cat (letter '\n') (letter 'A'))) 2]⟩

/-- In the whole text, the second rule finds the first two lines, so not the last two; but the first
line is claimed.  Once the first line is certain, the search begins with the second one. -/
theorem streaming_differs :
    let s := (State.start { rules := pairRules } none ⟨['/']⟩ [none] {}).run
      [.append "MA\nA\n".toList, .read .empty 5, .append "A\n".toList]
    (s.closed .empty).parse.messages.map (fun m => (m.rule, m.span))
        = [("mark", ⟨0, 1⟩), ("pair", ⟨3, 6⟩)]
      ∧ ((State.start { rules := pairRules } none ⟨['/']⟩ [none] (.ofText s.log.text)).closed
            .empty).parse.messages.map (fun m => (m.rule, m.span))
        = [("mark", ⟨0, 1⟩)] := by
  decide +kernel

end Parse

end BuildLog
