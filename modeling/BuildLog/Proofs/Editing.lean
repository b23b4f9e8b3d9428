import BuildLog.Proofs.Settled
import BuildLog.Session

/-!
# Editing — a log that is read while it is edited

If every match stays in its line, the messages and labels of a log are, in the end, those of a
session that reads the last text at once, for every order of edits and readings.
-/

namespace BuildLog

open Text

/-! ## 1. States -/

namespace Parse

/-- What every edit and every reading keeps. -/
structure State.Right (cfg : ScanSettings) (p : Option DirectoryPattern) (s : State) : Prop where
  sound : s.Sound
  settings : s.view.settings = cfg
  pattern : s.view.pattern = p
  home : s.view.home = []
  right : s.view.Right

section States

variable {cfg : ScanSettings} {p : Option DirectoryPattern} (h : InLines cfg p)

variable (cfg p) in
theorem State.right_start (workingDir : Path) (searchPath : List (Option Path)) (t : Text) :
    (State.start cfg p workingDir searchPath (.ofText t)).Right cfg p := by
  have hnil : reading cfg p [] [] = [] := readingFrom_nil [] none
  have hproper : (State.start cfg p workingDir searchPath (.ofText t)).Proper :=
    State.proper_start cfg p workingDir searchPath (fun _ hl => nomatch hl)
  -- nothing is known, and nothing was read
  refine ⟨hproper.sound, rfl, rfl, rfl, .inl ⟨rfl, rfl, Nat.zero_le _, .inl terminated_nil, ?_, ?_,
    fun o ho => nomatch ho⟩⟩
  · exact hnil.symm
  · show [] = (reading cfg p [] []).map Finding.labelledSpan
    rw [hnil]
    rfl

variable {s : State} (hs : s.Right cfg p)
include h hs

theorem State.Right.inLines : InLines s.view.settings s.view.pattern :=
  hs.settings ▸ hs.pattern ▸ h

theorem State.Right.flush (k : Nat) :
    (s.flush k).Right cfg p ∧ (s.flush k).view.cursor ≤ k := by
  have hflush := hs.right.flushFrom (hs.inLines h) k
  have hsame := View.sameSetting_flushFrom s.view k
  rw [← view_flush] at hflush hsame
  exact ⟨⟨hs.sound.flush k, hsame.settings.trans hs.settings, hsame.pattern.trans hs.pattern,
    hsame.home.trans hs.home, hflush.1⟩, hflush.2⟩

theorem State.Right.append (t : Text) : (s.act (.append t)).Right cfg p :=
  ⟨⟨hs.sound.trail, hs.sound.table⟩, hs.settings, hs.pattern, hs.home,
    hs.right.change (hs.right.changedFrom_append (hs.inLines h) rfl rfl t)⟩

theorem State.Right.insert {offset : Nat} (hc : s.view.cursor ≤ offset) (t : Text) :
    (s.act (.insert offset t)).Right cfg p :=
  ⟨⟨hs.sound.trail, hs.sound.table⟩, hs.settings, hs.pattern, hs.home,
    hs.right.change (hs.right.changedFrom_insert (hs.inLines h) rfl rfl hc t)⟩

theorem State.Right.delete {span : Span} (hc : s.view.cursor ≤ span.start) :
    (s.act (.delete span)).Right cfg p :=
  ⟨⟨hs.sound.trail, hs.sound.table⟩, hs.settings, hs.pattern, hs.home,
    hs.right.change (hs.right.changedFrom_delete (hs.inLines h) rfl rfl hc)⟩

theorem State.Right.read (disk : Disk) (upto : Nat) : (s.act (.read disk upto)).Right cfg p := by
  have hsame := sameSetting_read hs.sound disk upto
  refine ⟨(view_advance hs.sound disk upto).2.2, hsame.settings.trans hs.settings,
    hsame.pattern.trans hs.pattern, hsame.home.trans hs.home, ?_⟩
  rw [view_read hs.sound]
  exact .inl (hs.right.advance (hs.inLines h) upto)

omit h in
theorem State.Right.finish : (s.act (.finish true)).Right cfg p := by
  refine ⟨⟨hs.sound.trail, hs.sound.table⟩, hs.settings, hs.pattern, hs.home, ?_⟩
  rcases hs.right with hv | hv
  · exact .inl ⟨hv.pending, hv.rewound, hv.cursor_le, .inr rfl, hv.findings, hv.labels, hv.dirs⟩
  · obtain ⟨h₁, h₂, h₃⟩ := hv.known
    exact .inr ⟨hv.pending, hv.rewound, hv.cursor_le, hv.inOrder, hv.nonempty, hv.within, hv.before,
      ⟨h₁, h₂, h₃⟩⟩

theorem State.Right.read_all (disk : Disk) :
    (advance disk s.log.length s).2.view.findings
        = reading cfg p [] (s.log.text.take s.view.lastEnd)
      ∧ (advance disk s.log.length s).2.view.labels
        = readingLabels cfg p [] (s.log.text.take s.view.lastEnd) := by
  have hall := hs.right.advance_all (hs.inLines h)
  have hview : (advance disk s.log.length s).2.view = (s.view.advance s.view.text.length).2 :=
    (view_advance hs.sound disk s.log.length).2.1
  rw [hview, ← hs.settings, ← hs.pattern, ← hs.home]
  exact hall

end States

end Parse

/-! ## 2. Sessions -/

namespace Session

/-- What is done to a session while its log grows and is edited. -/
inductive Action
  | append (t : Text)
  | insert (offset : Nat) (t : Text)
  | delete (span : Span)
  | read (disk : Disk) (upto : Nat)
  /-- The tool has ended. -/
  | finish

def act (s : Session) : Action → Session
  | .append t => (s.append t).2
  | .insert offset t => s.insert offset t
  | .delete span => s.delete span
  | .read disk upto => (s.advance disk upto).2
  | .finish => s.setFinished true

/-- The session after some actions in turn. -/
def run (s : Session) (as : List Action) : Session := as.foldl act s

/-- A session over a text of which nothing was read. -/
def ofText (cfg : ScanSettings) (p : Option DirectoryPattern) (workingDir : Path)
    (searchPath : List (Option Path)) (nav : NavigationSettings) (sources : Sources) (t : Text) :
    Session :=
  start cfg { pattern := p } { workingDir, searchPath } nav sources (.ofText t)

section Run

variable {cfg : ScanSettings} {p : Option DirectoryPattern} {workingDir : Path}
  {searchPath : List (Option Path)} {nav : NavigationSettings} {sources : Sources}

theorem parseState_ofText (t : Text) : (ofText cfg p workingDir searchPath nav sources t).parseState
    = .start cfg p workingDir searchPath (.ofText t) := by
  have hfirst : (Transcript.ofText t).firstUnlabelled = 0 := by
    have hmin : min (Transcript.ofText t).labels.furthestEnd (Transcript.ofText t).text.length = 0 :=
      Nat.zero_min _
    unfold Transcript.firstUnlabelled
    rw [hmin]
  unfold ofText start Parse.attach
  dsimp only
  rw [hfirst]
  rfl

theorem right_act (h : InLines cfg p) {s : Session} (hs : s.parseState.Right cfg p) (a : Action) :
    (s.act a).parseState.Right cfg p := by
  cases a with
  | append t => exact hs.append h t
  | insert offset t =>
    -- a session flushes before it edits, so the edit is behind the cursor
    obtain ⟨hflush, hc⟩ := hs.flush h offset
    exact hflush.insert h hc t
  | delete span =>
    obtain ⟨hflush, hc⟩ := hs.flush h span.start
    exact hflush.delete h hc
  | read disk upto => exact hs.read h disk upto
  | finish => exact hs.finish

theorem right_run (h : InLines cfg p) {s : Session} (hs : s.parseState.Right cfg p)
    (as : List Action) : (s.run as).parseState.Right cfg p := by
  induction as generalizing s with
  | nil => exact hs
  | cons a as ih => exact ih (right_act h hs a)

/-- However a log was edited and read, reading the rest of it gives the messages and the labels of
a session that reads the last text at once. -/
theorem parseAll_run_eq_ofText (h : InLines cfg p) (as : List Action) (disk disk' : Disk) :
    let s := (ofText cfg p workingDir searchPath nav sources []).run as
    let u := (ofText cfg p workingDir searchPath nav sources s.log.text).setFinished s.parse.finished
    (s.parseAll disk).2.parse.messages.map Message.finding
        = (u.parseAll disk').2.parse.messages.map Message.finding
      ∧ (s.parseAll disk).2.log.labels.spans = (u.parseAll disk').2.log.labels.spans := by
  intro s u
  have hs : s.parseState.Right cfg p := by
    refine right_run h ?_ as
    rw [parseState_ofText]
    exact Parse.State.right_start cfg p workingDir searchPath []
  have hstate : u.parseState = (Parse.State.start cfg p workingDir searchPath
      (.ofText s.log.text)).act (.finish s.parse.finished) := by
    rw [← parseState_ofText]
    rfl
  have hu : u.parseState.Right cfg p := by
    have hstart := Parse.State.right_start cfg p workingDir searchPath s.log.text
    rw [hstate]
    cases s.parse.finished with
    | false => exact hstart
    | true => exact hstart.finish
  have htext : u.log.text = s.log.text := congrArg (·.log.text) hstate
  have hend : u.parseState.view.lastEnd = s.parseState.view.lastEnd := by
    rw [hstate]
    rfl
  -- both sessions are right, and what they find in the end is a reading of one text
  obtain ⟨hsf, hsl⟩ := hs.read_all h disk
  obtain ⟨huf, hul⟩ := hu.read_all h disk'
  have htake : u.parseState.log.text.take u.parseState.view.lastEnd
      = s.parseState.log.text.take s.parseState.view.lastEnd := by
    rw [hend]
    exact congrArg (List.take s.parseState.view.lastEnd) htext
  rw [htake] at huf hul
  exact ⟨hsf.trans huf.symm, hsl.trans hul.symm⟩

/-- Text is put in before a line that was read, the tool ends, and some text is taken out. -/
theorem parseAll_run_capitals :
    InLines .capitals (some .slash)
    ∧ let s := (ofText .capitals (some .slash) ⟨['/']⟩ [none] {} {} []).run
        [.append "A\nB".toList, .read .empty 3, .insert 0 "C\n/".toList, .finish, .delete ⟨1, 2⟩]
      let u := (ofText .capitals (some .slash) ⟨['/']⟩ [none] {} {} s.log.text).setFinished
        s.parse.finished
      (s.parseAll .empty).2.parse.messages.map Message.finding
          = (u.parseAll .empty).2.parse.messages.map Message.finding
        ∧ (s.parseAll .empty).2.log.labels.spans = (u.parseAll .empty).2.log.labels.spans :=
  ⟨inLines_capitals, parseAll_run_eq_ofText inLines_capitals _ .empty .empty⟩

end Run

end Session

end BuildLog
