import BuildLog.Proofs.Counting
import BuildLog.Proofs.Letters
import BuildLog.Proofs.Ordering
import BuildLog.Session

/-!
# Sweeping — a sweep drops the files that no message refers to

Whatever is asked of a session, the count of each file it knows is the number of its messages in
that file.  So no count is released that was not taken, and a sweep drops just the files without
messages.
-/

namespace BuildLog

open FileTable

/-! ## 1. States -/

namespace Parse

/-- The messages are in order, and the table accounts for them. -/
structure State.Balanced (s : State) : Prop where
  trail : s.parse.trail.Sound
  ordered : Ordered s.view.findings
  accounted : s.Accounted

theorem State.Balanced.sound {s : State} (h : s.Balanced) : s.Sound :=
  ⟨h.trail, h.accounted.coherent.files⟩

theorem State.Balanced.starts {s : State} (h : s.Balanced) :
    s.parse.messages.Pairwise (·.start < ·.start) := by
  have hstarts : (s.parse.messages.map Message.finding).Pairwise fun f g => f.start < g.start :=
    h.ordered.starts
  rw [List.pairwise_map] at hstarts
  exact hstarts

theorem State.balanced_start (cfg : ScanSettings) (p : Option DirectoryPattern) (workingDir : Path)
    (searchPath : List (Option Path)) (log : Transcript) :
    (State.start cfg p workingDir searchPath log).Balanced :=
  ⟨DirectoryTrail.sound_of_pattern p, .nil, .nil_of_coherent (coherent_empty searchPath workingDir) nofun⟩

namespace State.Balanced

variable {s : State} (h : s.Balanced)
include h

theorem setLog (l : Transcript) : State.Balanced { s with log := l } :=
  ⟨h.trail, h.ordered, h.accounted⟩

theorem setTable {t : FileTable} (ht : t.Accounts (s.parse.messages.map Message.reference)) :
    State.Balanced { s with table := t } :=
  ⟨h.trail, h.ordered, ht⟩

theorem finish (finished : Bool) : (s.act (.finish finished)).Balanced :=
  ⟨h.trail, h.ordered, h.accounted⟩

theorem clear : (s.act .clear).Balanced :=
  ⟨DirectoryTrail.Sound.clear _, .nil, h.accounted.clear⟩

theorem attach : (s.act .attach).Balanced :=
  ⟨DirectoryTrail.Sound.clear _, .nil, h.accounted.clear⟩

theorem flush (k : Nat) : (s.flush k).Balanced := by
  refine ⟨(h.sound.flush k).trail, ?_, h.accounted.flush k⟩
  rw [view_flush]
  exact View.ordered_flushFrom h.ordered k

theorem read (disk : Disk) (upto : Nat) : (advance disk upto s).2.Balanced := by
  obtain ⟨-, hview, hsound⟩ := view_advance h.sound disk upto
  refine ⟨hsound.trail, ?_, h.accounted.advance disk upto⟩
  rw [hview]
  exact View.ordered_advance h.ordered upto

/-- The head of the log goes, with the messages that begin in it. -/
theorem discard (k : Nat) (l : Transcript) :
    State.Balanced ⟨(s.parse.discardBefore s.table k).2.1.shiftBack k, l,
      (s.parse.discardBefore s.table k).2.2⟩ := by
  refine ⟨h.trail.shiftBack k, ?_, h.accounted.discard k⟩
  have hfindings := findings_discardBefore s k
  show Ordered (((s.parse.discardBefore s.table k).2.1.shiftBack k).messages.map Message.finding)
  rw [hfindings]
  exact h.ordered.shiftBack k

theorem jump (disk : Disk) (start : Nat) (nav : Navigation) (sources : Sources) :
    (s.act (.jump disk start nav sources)).Balanced := by
  obtain ⟨hview, hsound⟩ := jump_spec disk start nav sources h.sound
  refine ⟨hsound.trail, ?_, h.accounted.jump disk h.starts start nav sources⟩
  rw [hview]
  exact h.ordered

end State.Balanced

end Parse

/-! ## 2. Sessions -/

namespace Session

/-- What can be asked of a session, and what can be done to its parts from outside. -/
inductive Request
  /-- Parse anew, behind the labelled head of the log. -/
  | attach
  | clear
  | append (t : Text)
  | insert (offset : Nat) (t : Text)
  | delete (span : Span)
  /-- An edit at an offset is told of. -/
  | edited (offset : Nat)
  /-- The log is edited, or labelled, without the session. -/
  | rewrite (log : Transcript)
  | read (disk : Disk) (upto : Nat)
  | finish (finished : Bool)
  | trim (length : Nat)
  | nextMessage (disk : Disk) (n : Int)
  | nextFile (disk : Disk) (n : Int)
  | firstMessage (disk : Disk)
  | jump (disk : Disk) (start : Nat)
  | nextError (disk : Disk) (n : Int)
  | flushFile (disk : Disk) (spec : FileSpec)
  | dropFile (id : FileId)
  | sweep
  | configure (settings : NavigationSettings)
  /-- Buffers are opened, closed or edited without the session. -/
  | resource (sources : Sources)

def serve (s : Session) : Request → Session
  | .attach => s.withParseState (s.parseState.act .attach)
  | .clear => s.withParseState (s.parseState.act .clear)
  | .append t => (s.append t).2
  | .insert offset t => s.insert offset t
  | .delete span => s.delete span
  | .edited offset => s.onEdit offset
  | .rewrite log => { s with log }
  | .read disk upto => (s.advance disk upto).2
  | .finish finished => s.setFinished finished
  | .trim length => (s.trim length).2
  | .nextMessage disk n => (s.nextMessage disk n).2
  | .nextFile disk n => (s.nextFile disk n).2
  | .firstMessage disk => (s.firstMessage disk).2
  | .jump disk start => (s.jump disk start).2
  | .nextError disk n => (s.nextError disk n).2
  | .flushFile disk spec => (s.flushFile disk spec).2
  | .dropFile id => { s with table := (s.table.dropFile id).2 }
  | .sweep => s.sweep.2
  | .configure settings => { s with navigation := { s.navigation with settings } }
  | .resource sources => { s with sources }

def serveAll (s : Session) (rs : List Request) : Session := rs.foldl serve s

/-- A step between messages reads all there is, and moves nothing but the navigation. -/
theorem parseState_stepWith
    (move : Navigation → Parse → FileTable → Except NavigationError (Nat × Navigation)) (disk : Disk)
    (s : Session) :
    (s.stepWith move disk).2.parseState = (Parse.advance disk s.log.length s.parseState).2 := by
  unfold stepWith
  dsimp only
  split
  · rfl
  · split <;> rfl

theorem balanced_start (cfg : ScanSettings) (p : Option DirectoryPattern) (workingDir : Path)
    (searchPath : List (Option Path)) (nav : NavigationSettings) (sources : Sources)
    (log : Transcript) :
    (start cfg { pattern := p } { workingDir, searchPath } nav sources log).parseState.Balanced :=
  (Parse.State.balanced_start cfg p workingDir searchPath log).attach

theorem balanced_serve {s : Session} (h : s.parseState.Balanced) (r : Request) :
    (s.serve r).parseState.Balanced := by
  -- a step reads first, and what it moves to does not matter
  have hstep : ∀ move disk, (s.stepWith move disk).2.parseState.Balanced := by
    intro move disk
    rw [parseState_stepWith]
    exact h.read disk _
  cases r with
  | attach => exact h.attach
  | clear => exact h.clear
  | append t => exact h.setLog _
  | insert offset t => exact (h.flush offset).setLog _
  | delete span => exact (h.flush span.start).setLog _
  | edited offset => exact h.flush offset
  | rewrite log => exact h.setLog log
  | read disk upto => exact h.read disk upto
  | finish finished => exact h.finish finished
  | trim length =>
    have hdiscard := h.discard (min length s.log.length)
      ((s.log.clearLabels 0 (min length s.log.length)).delete ⟨0, min length s.log.length⟩)
    exact hdiscard.setTable hdiscard.accounted.sweep
  | nextMessage disk n => exact hstep _ disk
  | nextFile disk n => exact hstep _ disk
  | firstMessage disk => exact hstep _ disk
  | jump disk start => exact h.jump disk start s.navigation s.sources
  | nextError disk n =>
    have hnext : (s.nextMessage disk n).2.parseState.Balanced := hstep _ disk
    show (s.nextError disk n).2.parseState.Balanced
    unfold nextError
    -- the step may fail, and the jump begins where it leads
    revert hnext
    generalize s.nextMessage disk n = r
    obtain ⟨e | m, s'⟩ := r
    · exact id
    · exact fun hnext => hnext.jump disk m.start s'.navigation s'.sources
  | flushFile disk spec => exact h.setTable (Accounts.flush h.accounted disk spec)
  | dropFile id => exact h.setTable (h.accounted.dropFile id)
  | sweep => exact h.setTable h.accounted.sweep
  | configure settings => exact h
  | resource sources => exact h

theorem balanced_serveAll {s : Session} (h : s.parseState.Balanced) (rs : List Request) :
    (s.serveAll rs).parseState.Balanced := by
  induction rs generalizing s with
  | nil => exact h
  | cons r rs ih => exact ih (balanced_serve h r)

section Run

variable {s : Session}

/-- No count is released that was not taken: whichever messages are dropped, one after the other,
the count of each is above zero when its turn comes. -/
theorem refs_pos_of_sublist (h : s.parseState.Balanced) (hfew : s.table.Few)
    {before after : List Message} {m : Message}
    (hsub : (before ++ m :: after).Sublist s.parse.messages) {f : FileEntry}
    (hf : (Parse.releaseAll s.table before).file? m.file = some f) : 0 < f.refs := by
  obtain ⟨rest, hperm⟩ := hsub.exists_perm_append
  -- the messages that are not yet dropped are counted still
  have hleft : (Parse.releaseAll s.table before).Accounts
      (((m :: after) ++ rest).map Message.reference) := by
    apply Parse.accounts_releaseAll
    rw [← List.map_append, ← List.append_assoc]
    exact h.accounted.perm (hperm.map _)
  rw [hleft.counted (Parse.few_releaseAll hfew before) _ f hf]
  exact List.countP_pos_iff.mpr ⟨m.reference, List.mem_map_of_mem List.mem_cons_self,
    decide_eq_true rfl⟩

theorem sweep_eq (h : s.parseState.Balanced) (hfew : s.table.Few) :
    s.sweep.1 = (s.table.entries.filter fun e => !s.parse.messages.any (·.file = e.1)).length
      ∧ ∀ id, s.sweep.2.table.file? id
        = (s.table.file? id).filter fun _ => s.parse.messages.any (·.file = id) := by
  have hany : ∀ id, (s.parse.messages.map Message.reference).any (·.file = id)
      = s.parse.messages.any (·.file = id) := fun id => List.any_map
  refine ⟨?_, fun id => ?_⟩
  · -- an entry is dropped if its count is 0, and the count is that of its messages
    show ((s.table.entries.filter _).map _).length = _
    rw [List.length_map]
    congr 1
    refine List.filter_congr fun ⟨id, f⟩ he => ?_
    have hcount := h.accounted.counted hfew id f (mem_entries.mp he)
    rw [← hany, Bool.eq_iff_iff, decide_eq_true_iff]
    dsimp only
    rw [hcount, List.countP_eq_zero, Bool.not_eq_true', List.any_eq_false]
    exact Iff.rfl
  · rw [← hany]
    exact h.accounted.file?_sweep hfew id

end Run

/-- Whatever was asked of a session, if no slot was emptied 2 ^ 32 times: the count of each file is
the number of messages in it, no count is released that was not taken, a sweep drops the files
without messages and no others, and it leaves the files and places of messages as they were. -/
theorem sweep_serveAll (cfg : ScanSettings) (p : Option DirectoryPattern) (workingDir : Path)
    (searchPath : List (Option Path)) (nav : NavigationSettings) (sources : Sources)
    (log : Transcript) (rs : List Request) :
    let s := (start cfg { pattern := p } { workingDir, searchPath } nav sources log).serveAll rs
    s.table.Few →
      (∀ id f, s.table.file? id = some f → f.refs = s.parse.messages.countP (·.file = id))
      ∧ (∀ before m after f, (before ++ m :: after).Sublist s.parse.messages →
          (Parse.releaseAll s.table before).file? m.file = some f → 0 < f.refs)
      ∧ (s.sweep.1 = (s.table.entries.filter fun e => !s.parse.messages.any (·.file = e.1)).length
        ∧ ∀ id, s.sweep.2.table.file? id
          = (s.table.file? id).filter fun _ => s.parse.messages.any (·.file = id))
      ∧ ∀ m ∈ s.parse.messages, s.sweep.2.table.file? m.file = s.table.file? m.file
          ∧ ∀ q ∈ m.place :: m.endPlace.toList, s.sweep.2.table.place? q = s.table.place? q := by
  intro s hfew
  -- a session begins with an empty table and no messages
  have hstart : (start cfg { pattern := p } { workingDir, searchPath } nav sources
      log).parseState.Balanced := by
    have hattach := (Parse.State.balanced_start cfg p workingDir searchPath log).attach
    exact hattach
  have h : s.parseState.Balanced := balanced_serveAll hstart rs
  refine ⟨fun id f hf => ?_, fun before m after f hsub hf => refs_pos_of_sublist h hfew hsub hf,
    sweep_eq h hfew, fun m hm => ?_⟩
  · rw [h.accounted.counted hfew id f hf]
    show (s.parse.messages.map Message.reference).countP _ = _
    rw [List.countP_map]
    rfl
  · exact h.accounted.sweep_keeps hfew (r := m.reference) (List.mem_map_of_mem hm)

/-- A file is flushed that two messages are in.  One of them is gone to, which makes a new entry, and
the other goes with the head of the log. -/
theorem sweep_serveAll_capitals :
    let s := (start .capitals { pattern := some .slash } { workingDir := ⟨['/']⟩ } {} {}
      (.ofText "A\nB\nA\n".toList)).serveAll
        [.read .empty 6, .flushFile .empty ⟨"A", none⟩, .jump .empty 4, .trim 1]
    s.table.Few
      ∧ (∀ id f, s.table.file? id = some f → f.refs = s.parse.messages.countP (·.file = id))
      ∧ (∀ before m after f, (before ++ m :: after).Sublist s.parse.messages →
          (Parse.releaseAll s.table before).file? m.file = some f → 0 < f.refs)
      ∧ (s.sweep.1 = (s.table.entries.filter fun e => !s.parse.messages.any (·.file = e.1)).length
        ∧ ∀ id, s.sweep.2.table.file? id
          = (s.table.file? id).filter fun _ => s.parse.messages.any (·.file = id))
      ∧ ∀ m ∈ s.parse.messages, s.sweep.2.table.file? m.file = s.table.file? m.file
          ∧ ∀ q ∈ m.place :: m.endPlace.toList, s.sweep.2.table.place? q = s.table.place? q := by
  intro s
  have hfew : s.table.Few := by decide +kernel
  exact ⟨hfew, sweep_serveAll .capitals (some .slash) ⟨['/']⟩ [none] {} {} _ _ hfew⟩

end Session

end BuildLog
