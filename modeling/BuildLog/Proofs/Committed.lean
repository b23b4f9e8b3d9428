import BuildLog.Proofs.OneMessage
import BuildLog.Proofs.Streaming

/-!
# Committed — what lies before the cursor is there to stay

While the tool runs and its log only grows, the cursor stands at the start of a line and never moves
back, whatever offsets are read up to.  A reading replaces the messages from the cursor on only, so
those before it stay as they are, and so do the places in the file table that they refer to.
-/

namespace BuildLog.Parse

/-! ## 1. One reading -/

/-- A state in which the messages before the cursor of `s` are those of `s`. -/
structure State.Keeps (s u : State) : Prop where
  cursor_le : s.parse.cursor ≤ u.parse.cursor
  messages : u.parse.messages.filter (·.start < s.parse.cursor)
    = s.parse.messages.filter (·.start < s.parse.cursor)

theorem State.Keeps.refl (s : State) : s.Keeps s := ⟨Nat.le_refl _, rfl⟩

theorem State.Keeps.trans {s u w : State} (h : s.Keeps u) (h' : u.Keeps w) : s.Keeps w := by
  refine ⟨Nat.le_trans h.cursor_le h'.cursor_le, ?_⟩
  have hle := h.cursor_le
  have hbefore : ∀ ms : List Message, (ms.filter (·.start < u.parse.cursor)).filter
      (·.start < s.parse.cursor) = ms.filter (·.start < s.parse.cursor) :=
    fun ms => filter_filter_of_imp fun m _ hm =>
      decide_eq_true (Nat.lt_of_lt_of_le (of_decide_eq_true hm) hle)
  rw [← hbefore, h'.messages, hbefore, h.messages]

/-- A ready state is read on from as it is. -/
theorem snap_settle_of_ready {s : State} (h : s.view.Ready) : snap (settle s) = s := by
  have hpending : s.parse.pendingClear = none := h.pending
  have hcursor : min s.parse.cursor s.log.length = s.parse.cursor := Nat.min_eq_left h.cursor_le
  have hrewound : s.parse.rewound = false := h.rewound
  have hsettle : settle s = s := by
    obtain ⟨parse, log, table⟩ := s
    obtain ⟨_, _, _, _, _, pending, _⟩ := parse
    cases hpending
    unfold settle
    dsimp only at hcursor ⊢
    rw [hcursor]
  have hinside : insideLine s = false := h.insideLine
  rw [hsettle, snap, hinside, if_neg (by simp), ← hrewound]

/-- What a reading finds begins at the cursor or behind it. -/
theorem messages_readText {s : State} (h : s.Sound) (disk : Disk) (text : Text) (certain : Bool) :
    ∃ found : List Message, (readText disk text certain s).2.parse.messages
        = s.parse.messages.filter (·.start < s.parse.cursor) ++ found
      ∧ ∀ m ∈ found, s.parse.cursor ≤ m.start := by
  refine ⟨_, rfl, fun m hm => ?_⟩
  have hmem : m.finding ∈ s.view.found text := by
    rw [← (scan_readText h disk text).1]
    exact List.mem_map_of_mem hm
  exact (View.found_within s.view text m.finding hmem).start_le

theorem keeps_advance {s : State} (h : s.Sound) (hr : s.view.Ready) (disk : Disk) (upto : Nat) :
    s.Keeps (advance disk upto s).2 := by
  rw [advance_eq, snap_settle_of_ready hr]
  split
  · exact .refl s
  · refine ⟨Nat.le_add_right _ _, ?_⟩
    obtain ⟨found, hmessages, hfound⟩ := messages_readText h disk (s.view.readable upto)
      (s.view.atEnd upto)
    -- whatever the old cursor held back, the new messages begin at it or behind it
    have hnone : found.filter (·.start < s.parse.cursor) = [] := by
      rw [List.filter_eq_nil_iff]
      intro m hm
      rw [decide_eq_true_iff]
      exact Nat.not_lt.mpr (hfound m hm)
    rw [hmessages, List.filter_append, hnone, List.append_nil, filter_filter_of_imp fun _ _ => id]

/-! ## 2. Runs of a growing log -/

section

variable {s : State} {as : List Action}

/-- A state of a running tool whose log only grows. -/
structure State.Uncut (s : State) : Prop where
  sound : s.Sound
  view : s.view.Uncut

theorem State.Uncut.act (h : s.Uncut) {a : Action} (ha : a.Streams) :
    (s.act a).Uncut ∧ s.Keeps (s.act a) := by
  cases a with
  | append t => exact ⟨⟨⟨h.sound.trail, h.sound.table⟩, h.view.append t⟩, ⟨Nat.le_refl _, rfl⟩⟩
  | read disk upto =>
    have hview := view_advance h.sound disk upto
    refine ⟨⟨hview.2.2, ?_⟩, keeps_advance h.sound h.view.ready disk upto⟩
    rw [view_read h.sound]
    exact h.view.advance upto
  | _ => exact ha.elim

theorem State.Uncut.run (h : s.Uncut) (has : ∀ a ∈ as, a.Streams) :
    (s.run as).Uncut ∧ s.Keeps (s.run as) := by
  induction as generalizing s with
  | nil => exact ⟨h, .refl s⟩
  | cons a as ih =>
    obtain ⟨hact, hkeeps⟩ := h.act (has a List.mem_cons_self)
    obtain ⟨hrun, hkeeps'⟩ := ih hact fun b hb => has b (List.mem_cons_of_mem a hb)
    exact ⟨hrun, hkeeps.trans hkeeps'⟩

end

/-- While the tool runs and its log only grows, the cursor stands at the start of a line in the log,
it never moves back, and later readings change nothing before it: no message is lost, changed or
added there. -/
theorem committed_run (cfg : ScanSettings) (p : Option DirectoryPattern) {table : FileTable}
    (ht : table.Sound) (log : Transcript) {as bs : List Action} (has : ∀ a ∈ as, a.Streams)
    (hbs : ∀ b ∈ bs, b.Streams) :
    let s := State.run ⟨{ settings := cfg, trail := { pattern := p } }, log, table⟩ as
    (s.parse.cursor = 0 ∨ s.log.text[s.parse.cursor - 1]? = some '\n')
      ∧ s.parse.cursor ≤ s.log.text.length
      ∧ s.parse.cursor ≤ (s.run bs).parse.cursor
      ∧ (s.run bs).parse.messages.filter (·.start < s.parse.cursor)
        = s.parse.messages.filter (·.start < s.parse.cursor) := by
  intro s
  -- the start is uncut, and so is every state of the run, from which later readings go on
  have hstart : State.Uncut ⟨{ settings := cfg, trail := { pattern := p } }, log, table⟩ :=
    ⟨⟨DirectoryTrail.sound_of_pattern p, ht⟩,
      ⟨rfl, ⟨rfl, rfl, Nat.zero_le _, .inl Text.terminated_nil⟩, Text.terminated_nil, nofun⟩⟩
  have hs : s.Uncut := (hstart.run has).1
  have hkeeps := (hs.run hbs).2
  exact ⟨(Text.terminated_take_iff hs.view.ready.cursor_le).mp hs.view.lineStart,
    hs.view.ready.cursor_le, hkeeps.cursor_le, hkeeps.messages⟩

/-- Two lines are read, and then a third, by a reading that stops inside it. -/
theorem committed_run_capitals :
    let s := State.run ⟨{ settings := .capitals, trail := { pattern := none } }, {},
      { workingDir := ⟨['/']⟩ }⟩ [.append "A\nB\nC".toList, .read .empty 5]
    FileTable.Sound { workingDir := ⟨['/']⟩ } ∧ s.parse.cursor = 4
      ∧ s.parse.messages.map (·.span) = [⟨0, 1⟩, ⟨2, 3⟩]
      ∧ (s.run [.append "D\nE\n".toList, .read .empty 6, .read .empty 9]).parse.messages.filter
          (·.start < s.parse.cursor) = s.parse.messages.filter (·.start < s.parse.cursor) := by
  intro s
  have has : ∀ a ∈ [Action.append "A\nB\nC".toList, .read .empty 5], a.Streams := by
    simp [Action.Streams]
  have hbs : ∀ b ∈ [Action.append "D\nE\n".toList, .read .empty 6, .read .empty 9], b.Streams := by
    simp [Action.Streams]
  have htable : FileTable.Sound { workingDir := ⟨['/']⟩ } := Slots.neat_empty
  refine ⟨htable, by decide +kernel, by decide +kernel, ?_⟩
  dsimp only [s]
  exact (committed_run .capitals none htable {} has hbs).2.2.2

end BuildLog.Parse
