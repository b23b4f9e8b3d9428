import BuildLog.Parse
import BuildLog.Proofs.Lines
import BuildLog.Proofs.Scans

/-!
# Views — a parse without its file table

The view of a state is what a user of the log sees, and all that the next steps depend on: the
text, its labels, the findings, the directories in effect and the place to read on from.  It has
neither the entries of the file table nor what the trail remembers.  The steps of a parse are
written once more for views, and a step of a state is seen as the same step of its view.
-/

namespace BuildLog

/-! ## 1. Views and their steps -/

/-- What a state says of its log. -/
structure View where
  settings : ScanSettings
  pattern : Option DirectoryPattern
  /-- The directories before the first change. -/
  home : List Path
  /-- The directories in effect at each offset. -/
  dirs : Nat → List Path
  cursor : Nat
  finished : Bool
  findings : List Finding
  pendingClear : Option Nat
  rewound : Bool
  text : Text
  labels : List LabelledSpan

namespace View

/-- The directories in effect when no change at `k` or later is known. -/
def dirsBefore (v : View) (k o : Nat) : List Path :=
  if k = 0 then v.home else v.dirs (min o (k - 1))

def clearLabels (v : View) (start stop : Nat) : List LabelledSpan :=
  v.labels.filter fun l => !l.span.meets start stop

def dropFrom (v : View) (k : Nat) : View :=
  { v with findings := v.findings.filter (·.start < k), dirs := v.dirsBefore k }

def settle (v : View) : View :=
  { v with
    labels := match v.pendingClear with
      | some start => v.clearLabels start (max v.text.length start)
      | none => v.labels
    pendingClear := none
    cursor := min v.cursor v.text.length }

def insideLine (v : View) : Bool :=
  v.cursor ≠ 0 && (v.cursor ≠ v.text.length || v.rewound) && v.text[v.cursor - 1]? ≠ some '\n'

/-- The start of the line that the cursor is in. -/
def lineStart (v : View) : Nat := Text.terminatedLength (v.text.take v.cursor)

def snap (v : View) : View :=
  if v.insideLine then
    { v.dropFrom v.lineStart with
      cursor := v.lineStart
      rewound := false
      labels := v.clearLabels v.lineStart v.cursor }
  else { v with rewound := false }

/-- The findings that stay when the log is read from the cursor. -/
def kept (v : View) : List Finding := v.findings.filter (·.start < v.cursor)

/-- The findings that are dropped when the log is read from the cursor. -/
def provisional (v : View) : List Finding := v.findings.filter (v.cursor ≤ ·.start)

/-- The directories in effect once a text has been read from the cursor. -/
def dirsWith (v : View) (text : Text) (o : Nat) : List Path :=
  pathsAt (turns v.pattern text v.cursor) (v.dirsBefore v.cursor o) o

/-- The findings of a text at the cursor. -/
def found (v : View) (text : Text) : List Finding :=
  BuildLog.findings v.settings (fun o => (v.dirsWith text o).head?)
    (fun stop => v.cursor + text.lineEndAfter (stop - v.cursor)) v.cursor
    (v.kept.getLast?.map Finding.origin) (v.settings.rules.hits text v.cursor)

/-- Offset in a text up to which its findings are certain. -/
def certainLength (maxLines : Nat) (text : Text) (base : Nat) (fs : List Finding) : Nat :=
  let tail := text.tailStart (maxLines - 1)
  match (fs.filter fun f => f.start - base < tail).getLast? with
  | none => tail
  | some f => max tail (text.lineEndAfter (f.span.stop - base))

/-- Puts the labels of findings into those of a log. -/
def labelAll (fs : List Finding) (ls : List LabelledSpan) : List LabelledSpan :=
  fs.foldl (fun ls f => LabelIndex.insertSorted f.labelledSpan ls) ls

def readText (text : Text) (certain : Bool) (v : View) : Nat × View :=
  ((v.found text).length - v.provisional.length,
    { v with
      dirs := v.dirsWith text
      findings := v.kept ++ v.found text
      cursor := v.cursor +
        if certain then text.length
        else certainLength v.settings.rules.maxLines text v.cursor (v.found text)
      labels := labelAll (v.found text) (v.clearLabels v.cursor v.text.length) })

/-- Whether a reading up to an offset is one to the end of a log that will not grow. -/
def atEnd (upto : Nat) (v : View) : Bool := v.finished && min upto v.text.length = v.text.length

/-- The text that a reading up to an offset reads. -/
def readable (upto : Nat) (v : View) : Text :=
  let text := v.text.slice v.cursor (min upto v.text.length)
  text.take (if v.atEnd upto then text.length else text.terminatedLength)

/-- Reads on from a cursor that is at the start of a line. -/
def readOn (upto : Nat) (v : View) : Nat × View :=
  if v.readable upto = [] then (0, v) else v.readText (v.readable upto) (v.atEnd upto)

def advance (upto : Nat) (v : View) : Nat × View := v.settle.snap.readOn upto

/-- The offset from which findings are doubtful after an edit. -/
def doubtfulFrom (offset : Nat) : List Finding → Nat
  | [] => offset
  | f :: fs =>
    if offset ≤ f.start then doubtfulFrom offset fs
    else if offset < f.span.stop then doubtfulFrom f.start fs
    else offset

def flushFrom (v : View) (offset : Nat) : View :=
  let offset := doubtfulFrom offset v.findings.reverse
  if !(v.findings.any (offset ≤ ·.start)) && v.cursor ≤ offset then v
  else
    { v.dropFrom offset with
      cursor := if offset < v.cursor then offset else v.cursor
      rewound := v.rewound || offset < v.cursor
      pendingClear := some (match v.pendingClear with
        | some earlier => min earlier offset
        | none => offset) }

/-! ## 2. The text that is read -/

theorem length_readable (upto : Nat) (v : View) :
    (v.readable upto).length =
      if v.atEnd upto then min upto v.text.length - v.cursor
      else (v.text.slice v.cursor (min upto v.text.length)).terminatedLength := by
  unfold readable
  rw [List.length_take]
  have hle := Text.terminatedLength_le (v.text.slice v.cursor (min upto v.text.length))
  have hlen := Text.length_slice v.text v.cursor (min upto v.text.length)
  rw [Nat.min_assoc, Nat.min_self] at hlen
  split
  · rw [Nat.min_self, hlen]
  · exact Nat.min_eq_left hle

theorem readable_eq_nil_iff (upto : Nat) (v : View) :
    v.readable upto = [] ↔
      (if v.atEnd upto then (v.text.slice v.cursor (min upto v.text.length)).length
        else (v.text.slice v.cursor (min upto v.text.length)).terminatedLength) = 0 := by
  unfold readable
  dsimp only
  rw [List.take_eq_nil_iff]
  refine ⟨fun h => h.elim id fun hnil => ?_, .inl⟩
  rw [hnil]
  split <;> rfl

theorem readable_of_le {upto : Nat} {v : View} (h : min upto v.text.length ≤ v.cursor) :
    v.readable upto = [] := by
  have hnil : v.text.slice v.cursor (min upto v.text.length) = [] := by
    apply List.eq_nil_of_length_eq_zero
    rw [Text.length_slice]
    omega
  unfold readable
  dsimp only
  rw [hnil, List.take_nil]

end View

/-! ## 3. The view of a state -/

namespace Parse

/-- What a state says of its log. -/
def State.view (s : State) : View where
  settings := s.parse.settings
  pattern := s.parse.trail.pattern
  home := s.parse.trail.base.paths
  dirs o := (s.parse.trail.stackAt o).paths
  cursor := s.parse.cursor
  finished := s.parse.finished
  findings := s.parse.messages.map Message.finding
  pendingClear := s.parse.pendingClear
  rewound := s.parse.rewound
  text := s.log.text
  labels := s.log.labels.spans

/-- The file table and the trail answer rightly. -/
structure State.Sound (s : State) : Prop where
  trail : s.parse.trail.Sound
  table : s.table.Sound

theorem sound_releaseAll {table : FileTable} (h : table.Sound) (ms : List Message) :
    (releaseAll table ms).Sound := by
  unfold releaseAll
  induction ms generalizing table with
  | nil => exact h
  | cons m ms ih => exact ih (h.release m.file)

theorem map_finding_filter (ms : List Message) (p : Nat → Bool) :
    (ms.filter fun m => p m.start).map Message.finding
      = (ms.map Message.finding).filter fun f => p f.start := by
  rw [List.filter_map]
  rfl

theorem dirs_truncateFrom (t : DirectoryTrail) (k o : Nat) :
    ((t.truncateFrom k).stackAt o).paths
      = if k = 0 then t.base.paths else (t.stackAt (min o (k - 1))).paths := by
  rw [DirectoryTrail.stackAt_truncateFrom]
  split
  · rfl
  · rfl

theorem view_dropFrom (s : State) (k : Nat) :
    State.view ⟨(s.parse.dropFrom s.table k).1, s.log, (s.parse.dropFrom s.table k).2⟩
      = s.view.dropFrom k := by
  unfold dropFrom State.view View.dropFrom View.dirsBefore
  dsimp only
  rw [map_finding_filter s.parse.messages fun start => decide (start < k)]
  simp only [dirs_truncateFrom]
  rfl

theorem State.Sound.dropFrom {s : State} (h : s.Sound) (k : Nat) :
    (s.parse.dropFrom s.table k).1.trail.Sound ∧ (s.parse.dropFrom s.table k).2.Sound :=
  ⟨h.trail.truncateFrom k, sound_releaseAll h.table _⟩

theorem view_settle (s : State) : (settle s).view = s.view.settle := by
  unfold settle State.view View.settle
  cases s.parse.pendingClear with
  | none => rfl
  | some start => rfl

theorem State.Sound.settle {s : State} (h : s.Sound) : (settle s).Sound := ⟨h.trail, h.table⟩

theorem view_snap (s : State) : (snap s).view = s.view.snap := by
  have hinside : insideLine s = s.view.insideLine := rfl
  unfold snap View.snap
  rw [hinside]
  split
  · have hdrop := view_dropFrom s s.view.lineStart
    have hline : Text.terminatedLength (s.log.text.take s.parse.cursor) = s.view.lineStart := rfl
    rw [← hdrop, hline]
    rfl
  · rfl

theorem State.Sound.snap {s : State} (h : s.Sound) : (snap s).Sound := by
  unfold Parse.snap
  split
  · exact ⟨(h.dropFrom _).1, (h.dropFrom _).2⟩
  · exact ⟨h.trail, h.table⟩

theorem certainLength_eq (maxLines : Nat) (text : Text) (base : Nat) (ms : List Message) :
    certainLength maxLines text base ms
      = View.certainLength maxLines text base (ms.map Message.finding) := by
  unfold certainLength View.certainLength
  dsimp only
  rw [← map_finding_filter ms fun start => decide (start - base < text.tailStart (maxLines - 1)),
    List.getLast?_map]
  cases (ms.filter fun m => decide (m.start - base < text.tailStart (maxLines - 1))).getLast? with
  | none => rfl
  | some m => rfl

theorem spans_labels (ms : List Message) (l : Transcript) :
    (ms.foldl (fun l m => l.label m.labelledSpan) l).labels.spans
      = View.labelAll (ms.map Message.finding) l.labels.spans := by
  unfold View.labelAll
  induction ms generalizing l with
  | nil => rfl
  | cons m ms ih =>
    rw [List.foldl_cons, ih]
    rfl

theorem text_labels (ms : List Message) (l : Transcript) :
    (ms.foldl (fun l m => l.label m.labelledSpan) l).text = l.text := by
  induction ms generalizing l with
  | nil => rfl
  | cons m ms ih =>
    rw [List.foldl_cons, ih]
    rfl

theorem kept_view (s : State) : s.view.kept
    = (s.parse.messages.filter (·.start < s.parse.cursor)).map Message.finding :=
  (map_finding_filter _ fun start => decide (start < s.parse.cursor)).symm

theorem length_provisional_view (s : State) : s.view.provisional.length
    = (s.parse.messages.filter (s.parse.cursor ≤ ·.start)).length := by
  rw [← List.length_map Message.finding]
  exact congrArg List.length
    (map_finding_filter _ fun start => decide (s.parse.cursor ≤ start)).symm

theorem origin_view (s : State) :
    ((s.parse.messages.filter (·.start < s.parse.cursor)).getLast?.map Inherited.ofMessage).map
      Inherited.origin = s.view.kept.getLast?.map Finding.origin := by
  rw [kept_view, List.getLast?_map, Option.map_map, Option.map_map]
  rfl

/-- What a scan of a text at the cursor begins with. -/
def State.scanState (s : State) (text : Text) : ScanState :=
  ⟨(s.parse.trail.truncateFrom s.parse.cursor).process text s.parse.cursor,
    (s.parse.dropFrom s.table s.parse.cursor).2⟩

theorem State.Sound.scanState {s : State} (h : s.Sound) (text : Text) :
    (s.scanState text).Sound :=
  ⟨(DirectoryTrail.recorded_process h.trail text s.parse.cursor).2, (h.dropFrom s.parse.cursor).2⟩

theorem paths_scanState {s : State} (h : s.Sound) (text : Text) (o : Nat) :
    ((s.scanState text).trail.stackAt o).paths = s.view.dirsWith text o := by
  have hpaths := (DirectoryTrail.recorded_process h.trail text s.parse.cursor).1.paths o
  rw [dirs_truncateFrom] at hpaths
  exact hpaths

theorem scan_readText {s : State} (h : s.Sound) (disk : Disk) (text : Text) :
    (scan s.parse.settings disk text s.parse.cursor
        ((s.parse.messages.filter (·.start < s.parse.cursor)).getLast?.map .ofMessage)
        (s.scanState text)).1.map Message.finding = s.view.found text
      ∧ (s.scanState text).Leads (scan s.parse.settings disk text s.parse.cursor
        ((s.parse.messages.filter (·.start < s.parse.cursor)).getLast?.map .ofMessage)
        (s.scanState text)).2 := by
  have hscan := scan_spec s.parse.settings disk s.parse.cursor (h.scanState text) text
    ((s.parse.messages.filter (·.start < s.parse.cursor)).getLast?.map .ofMessage)
  have hdir : (s.scanState text).trail.directoryAt = fun o => (s.view.dirsWith text o).head? := by
    funext o
    rw [← paths_scanState h, DirectoryTrail.directoryAt, DirectoryStack.directory?_eq]
  rw [hdir, origin_view] at hscan
  exact hscan

/-- Reading a text at the cursor is seen as such. -/
theorem view_readText {s : State} (h : s.Sound) (disk : Disk) (text : Text) (certain : Bool) :
    (readText disk text certain s).1 = (s.view.readText text certain).1
      ∧ (readText disk text certain s).2.view = (s.view.readText text certain).2
      ∧ (readText disk text certain s).2.Sound := by
  have hrec := (DirectoryTrail.recorded_process h.trail text s.parse.cursor).1
  have hscan := scan_readText h disk text
  have hdirs : (fun o => ((s.scanState text).trail.stackAt o).paths) = s.view.dirsWith text :=
    funext (paths_scanState h text)
  have hprov := length_provisional_view s
  revert hscan
  unfold readText
  dsimp only [Parse.dropFrom]
  unfold State.scanState at hdirs ⊢
  dsimp only [Parse.dropFrom] at hdirs ⊢
  generalize scan s.parse.settings disk text s.parse.cursor _ _ = r
  obtain ⟨ms, after⟩ := r
  rintro ⟨hfound, hafter⟩
  dsimp only at hfound ⊢
  have hlen : ms.length = (s.view.found text).length := by rw [← hfound, List.length_map]
  have hcursor : (if certain then text.length
      else certainLength s.parse.settings.rules.maxLines text s.parse.cursor ms)
      = if certain then text.length
        else View.certainLength s.parse.settings.rules.maxLines text s.parse.cursor
          (s.view.found text) := by
    rw [certainLength_eq, hfound]
  -- a scan changes the trail in what it remembers only
  obtain ⟨memo, hmemo⟩ := hafter.sameEvents
  dsimp only at hmemo
  refine ⟨?_, ?_, hafter.sound.trail, hafter.sound.table⟩
  · rw [← hprov, hlen]
    rfl
  · unfold State.view View.readText
    dsimp only
    rw [hcursor, spans_labels, text_labels, List.map_append, ← kept_view, hfound, hmemo]
    have hmemoDirs : (fun o => (DirectoryTrail.stackAt
        { (s.parse.trail.truncateFrom s.parse.cursor).process text s.parse.cursor with
          memo := memo } o).paths) = s.view.dirsWith text := hdirs
    rw [hmemoDirs]
    have hpattern := hrec.pattern
    have hbase := hrec.base
    dsimp only at hpattern hbase ⊢
    rw [hpattern, hbase]
    rfl

theorem advance_eq (disk : Disk) (upto : Nat) (s : State) :
    advance disk upto s =
      if (snap (settle s)).view.readable upto = [] then (0, snap (settle s))
      else readText disk ((snap (settle s)).view.readable upto)
        ((snap (settle s)).view.atEnd upto) (snap (settle s)) := by
  unfold advance
  dsimp only
  generalize snap (settle s) = u
  -- the two tests for an early end come to one: there is nothing to read
  by_cases hle : min upto u.log.length ≤ u.parse.cursor
  · rw [if_pos hle, if_pos (View.readable_of_le (v := u.view) hle)]
  · rw [if_neg hle]
    by_cases hnil : u.view.readable upto = []
    · rw [if_pos hnil, if_pos]
      exact (View.readable_eq_nil_iff upto u.view).mp hnil
    · rw [if_neg hnil, if_neg]
      · rfl
      · exact fun hzero => hnil ((View.readable_eq_nil_iff upto u.view).mpr hzero)

/-- Reading up to an offset is seen as such, whatever files there are. -/
theorem view_advance {s : State} (h : s.Sound) (disk : Disk) (upto : Nat) :
    (advance disk upto s).1 = (s.view.advance upto).1
      ∧ (advance disk upto s).2.view = (s.view.advance upto).2
      ∧ (advance disk upto s).2.Sound := by
  have hview : (snap (settle s)).view = s.view.settle.snap := by rw [view_snap, view_settle]
  have hsound : (snap (settle s)).Sound := h.settle.snap
  rw [advance_eq, View.advance, View.readOn, ← hview]
  split
  · exact ⟨rfl, rfl, hsound⟩
  · exact view_readText hsound disk _ _

theorem doubtfulFrom_eq (offset : Nat) (ms : List Message) :
    doubtfulFrom offset ms = View.doubtfulFrom offset (ms.map Message.finding) := by
  induction ms generalizing offset with
  | nil => rfl
  | cons m ms ih =>
    rw [doubtfulFrom, List.map_cons, View.doubtfulFrom, ih, ih]
    rfl

/-- The state after an edit at an offset was told. -/
def State.flush (s : State) (offset : Nat) : State :=
  { s with
    parse := (s.parse.flushFrom s.table offset).1
    table := (s.parse.flushFrom s.table offset).2 }

theorem view_flush (s : State) (offset : Nat) : (s.flush offset).view = s.view.flushFrom offset := by
  have hdoubt : doubtfulFrom offset s.parse.messages.reverse
      = View.doubtfulFrom offset s.view.findings.reverse := by
    rw [doubtfulFrom_eq, List.map_reverse]
    rfl
  have hany : ∀ k, (s.parse.messages.any (k ≤ ·.start)) = s.view.findings.any (k ≤ ·.start) := by
    intro k
    show _ = (s.parse.messages.map Message.finding).any _
    rw [List.any_map]
    rfl
  unfold State.flush flushFrom View.flushFrom
  dsimp only
  rw [hdoubt, hany]
  generalize View.doubtfulFrom offset s.view.findings.reverse = k
  have hdrop := view_dropFrom s k
  by_cases hdone : (!(s.view.findings.any (k ≤ ·.start)) && decide (s.view.cursor ≤ k)) = true
  · have hdone' : (!(s.view.findings.any (k ≤ ·.start)) && decide (s.parse.cursor ≤ k)) = true :=
      hdone
    rw [if_pos hdone, if_pos hdone']
  · have hdone' : ¬ (!(s.view.findings.any (k ≤ ·.start)) && decide (s.parse.cursor ≤ k)) = true :=
      hdone
    rw [if_neg hdone, if_neg hdone', ← hdrop]
    -- the cursor and the note that it was moved are set together
    by_cases hlt : k < s.parse.cursor
    · have hlt' : k < s.view.cursor := hlt
      have hlt'' : k < (s.parse.dropFrom s.table k).1.cursor := hlt
      simp only [hlt', hlt'', if_true, decide_true, Bool.or_true]
      rfl
    · have hlt' : ¬ k < s.view.cursor := hlt
      have hlt'' : ¬ k < (s.parse.dropFrom s.table k).1.cursor := hlt
      simp only [hlt', hlt'', if_false, decide_false, Bool.or_false]
      rfl

theorem State.Sound.flush {s : State} (h : s.Sound) (offset : Nat) : (s.flush offset).Sound := by
  unfold State.flush flushFrom
  dsimp only
  split
  · exact h
  · have hdrop := h.dropFrom (doubtfulFrom offset s.parse.messages.reverse)
    split
    · exact ⟨hdrop.1, hdrop.2⟩
    · exact ⟨hdrop.1, hdrop.2⟩

end Parse

end BuildLog
