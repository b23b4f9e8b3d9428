import BuildLog.Navigation
import BuildLog.Proofs.Reading

/-!
# Runs — the states that a parse and its log get to

A run is a list of actions: what is done to the log, to the parse, and to the file table.  Every
state of a run is proper: its file table and trail answer rightly, its labels lie in the text, and
the labels that are to be cleared lie behind the cursor.
-/

namespace BuildLog

namespace Parse

/-! ## 1. Actions -/

/-- What can be done to a parse, to its log and to its files. -/
inductive Action
  | append (t : Text)
  | insert (offset : Nat) (t : Text)
  | delete (span : Span)
  | clearLabels (start stop : Nat)
  | attach
  | clear
  | finish (finished : Bool)
  | flush (offset : Nat)
  | read (disk : Disk) (upto : Nat)
  | discard (offset : Nat)
  | shift (delta : Nat)
  | sweep
  | flushFile (disk : Disk) (spec : FileSpec)
  | jump (disk : Disk) (start : Nat) (nav : Navigation) (sources : Sources)

/-- A parse that has read nothing of a log. -/
def State.start (settings : ScanSettings) (pattern : Option DirectoryPattern) (workingDir : Path)
    (searchPath : List (Option Path)) (log : Transcript) : State where
  parse := { settings, trail := { pattern } }
  log
  table := { workingDir, searchPath }

def State.act (s : State) : Action → State
  | .append t => { s with log := (s.log.append t).2 }
  | .insert offset t => { s with log := s.log.insert offset t }
  | .delete span => { s with log := s.log.delete span }
  | .clearLabels start stop => { s with log := s.log.clearLabels start stop }
  | .attach =>
    { s with parse := (s.parse.attach s.log s.table).1, table := (s.parse.attach s.log s.table).2 }
  | .clear => { s with parse := (s.parse.clear s.table).1, table := (s.parse.clear s.table).2 }
  | .finish finished => { s with parse := { s.parse with finished } }
  | .flush offset => s.flush offset
  | .read disk upto => (advance disk upto s).2
  | .discard offset =>
    { s with
      parse := (s.parse.discardBefore s.table offset).2.1
      table := (s.parse.discardBefore s.table offset).2.2 }
  | .shift delta => { s with parse := s.parse.shiftBack delta }
  | .sweep => { s with table := s.table.sweep.2 }
  | .flushFile disk spec => { s with table := (s.table.flush disk spec).2 }
  | .jump disk start nav sources =>
    { s with
      parse := (Navigation.jump disk start ⟨nav, s.parse, s.table, sources⟩).2.parse
      table := (Navigation.jump disk start ⟨nav, s.parse, s.table, sources⟩).2.table }

/-- The state after some actions in turn. -/
def State.run (s : State) (as : List Action) : State := as.foldl State.act s

theorem view_read {s : State} (h : s.Sound) (disk : Disk) (upto : Nat) :
    (s.act (.read disk upto)).view = (s.view.advance upto).2 :=
  (view_advance h disk upto).2.1

theorem sameSetting_read {s : State} (h : s.Sound) (disk : Disk) (upto : Nat) :
    View.SameSetting s.view (s.act (.read disk upto)).view := by
  rw [view_read h]
  exact View.sameSetting_advance upto s.view

/-- What holds at the start and is kept by every action holds after a run. -/
theorem State.run_induction {P : State → Prop} {Q : Action → Prop} {s : State} {as : List Action}
    (hs : P s) (hact : ∀ u a, P u → Q a → P (u.act a)) (has : ∀ a ∈ as, Q a) : P (s.run as) := by
  induction as generalizing s with
  | nil => exact hs
  | cons a as ih =>
    exact ih (hact s a hs (has a List.mem_cons_self)) fun b hb => has b (List.mem_cons_of_mem a hb)

end Parse

/-! ## 2. Jumps -/

namespace Navigation

/-- A jump goes to the first place and then, if there is one, to the second, which need not be found;
and then it arrives. -/
theorem jumpTo_cases (disk : Disk) (start : Nat) (file : FileId) (place : PlaceId)
    (endPlace : Option PlaceId) (s : JumpState) :
    let screen := s.nav.settings.screenColumns
    let first := s.table.locate disk s.sources place screen
    (∃ e, first.1 = .error e ∧ jumpTo disk start file place endPlace s
        = (.error (.place e), { s with table := first.2.1, sources := first.2.2 }))
      ∨ ∃ position rangeEnd t sources, first.1 = .ok position
        ∧ (rangeEnd = none ∧ (t, sources) = first.2
          ∨ ∃ e, endPlace = some e
            ∧ rangeEnd = (first.2.1.locate disk first.2.2 e screen).1.toOption
            ∧ (t, sources) = (first.2.1.locate disk first.2.2 e screen).2)
        ∧ jumpTo disk start file place endPlace s
          = arrive start file place position rangeEnd { s with table := t, sources } := by
  intro screen first
  unfold jumpTo
  dsimp only [screen, first]
  generalize s.table.locate disk s.sources place s.nav.settings.screenColumns = l
  obtain ⟨e | position, table, sources⟩ := l
  · exact .inl ⟨e, rfl, rfl⟩
  · refine .inr ⟨position, ?_⟩
    cases endPlace with
    | none => exact ⟨none, table, sources, rfl, .inl ⟨rfl, rfl⟩, rfl⟩
    | some e =>
      dsimp only
      generalize hsecond : table.locate disk sources e s.nav.settings.screenColumns = l
      obtain ⟨e' | position', table', sources'⟩ := l
      · exact ⟨none, table', sources', rfl, .inr ⟨e, rfl, by rw [hsecond]; exact ⟨rfl, rfl⟩⟩, rfl⟩
      · exact ⟨some position', table', sources', rfl,
          .inr ⟨e, rfl, by rw [hsecond]; exact ⟨rfl, rfl⟩⟩, rfl⟩

theorem parse_arrive (start : Nat) (file : FileId) (place : PlaceId) (position : Nat)
    (rangeEnd : Option Nat) (s : JumpState) :
    (arrive start file place position rangeEnd s).2.parse = s.parse := by
  unfold arrive
  split
  · rfl
  · dsimp only
    split
    · rfl
    · split <;> rfl

/-- To arrive is to mark the place as gone to, if it is there. -/
theorem table_arrive (start : Nat) (file : FileId) (place : PlaceId) (position : Nat)
    (rangeEnd : Option Nat) (s : JumpState) :
    (arrive start file place position rangeEnd s).2.table = s.table
      ∨ s.table.markVisited place
        = .ok (arrive start file place position rangeEnd s).2.table := by
  unfold arrive
  cases s.table.markVisited place with
  | error e => exact .inl rfl
  | ok t =>
    refine .inr ?_
    dsimp only
    split
    · rfl
    · split <;> rfl

theorem sources_arrive (start : Nat) (file : FileId) (place : PlaceId) (position : Nat)
    (rangeEnd : Option Nat) (s : JumpState) :
    (arrive start file place position rangeEnd s).2.sources = s.sources := by
  unfold arrive
  split
  · rfl
  · dsimp only
    split
    · rfl
    · split <;> rfl

theorem parse_jumpTo (disk : Disk) (start : Nat) (file : FileId) (place : PlaceId)
    (endPlace : Option PlaceId) (s : JumpState) :
    (jumpTo disk start file place endPlace s).2.parse = s.parse := by
  rcases jumpTo_cases disk start file place endPlace s with
    ⟨e, -, heq⟩ | ⟨position, rangeEnd, t, sources, -, -, heq⟩
  · rw [heq]
  · rw [heq, parse_arrive]

/-- New entries are made for the file of a message and its place, and then, if there is one, for the
place where it ends; and the file is counted. -/
theorem reintern_cases (disk : Disk) (rules : RuleSet) (t : FileTable) (m : Message) :
    let first := t.intern disk m.location.spec .root (((rules.lookup m.rule).map (·.formats)).getD [])
    (∃ e, first.2.placeAt first.1 m.location.position = .error e
        ∧ reintern disk rules t m = (.error e, first.2))
      ∨ ∃ place u, first.2.placeAt first.1 m.location.position = .ok (place, u)
        ∧ ((∃ p e, m.location.endPosition? = some p ∧ u.placeAt first.1 p = .error e
            ∧ reintern disk rules t m = (.error e, u))
          ∨ ∃ endPlace v,
            (m.location.endPosition? = none ∧ endPlace = none ∧ v = u
              ∨ ∃ p q, m.location.endPosition? = some p ∧ endPlace = some q
                ∧ u.placeAt first.1 p = .ok (q, v))
            ∧ reintern disk rules t m = (.ok (first.1, place, endPlace), v.retain first.1)) := by
  intro first
  unfold reintern
  dsimp only [first]
  generalize t.intern disk m.location.spec .root
    (((rules.lookup m.rule).map (·.formats)).getD []) = r
  obtain ⟨file, t₁⟩ := r
  dsimp only
  cases hp : t₁.placeAt file m.location.position with
  | error e => exact .inl ⟨e, rfl, rfl⟩
  | ok r =>
    obtain ⟨place, u⟩ := r
    refine .inr ⟨place, u, rfl, ?_⟩
    cases he : m.location.endPosition? with
    | none => exact .inr ⟨none, u, .inl ⟨rfl, rfl, rfl⟩, rfl⟩
    | some p =>
      dsimp only
      cases hq : u.placeAt file p with
      | error e => exact .inl ⟨p, e, rfl, hq, rfl⟩
      | ok r =>
        obtain ⟨q, v⟩ := r
        exact .inr ⟨some q, v, .inr ⟨p, q, rfl, rfl, hq⟩, rfl⟩

/-- A jump changes no message but the one that is jumped to, and of that one which file and places it
refers to. -/
theorem parse_jump (disk : Disk) (start : Nat) (s : JumpState) :
    (jump disk start s).2.parse = s.parse
      ∨ ∃ file place endPlace,
        (jump disk start s).2.parse = s.parse.relocate start file place endPlace := by
  unfold jump
  cases s.parse.messageAtStart? start with
  | none => exact .inl rfl
  | some m =>
    dsimp only
    split
    · exact .inl (parse_jumpTo disk start m.file m.place m.endPlace s)
    · generalize reintern disk s.parse.settings.rules s.table m = r
      obtain ⟨e | ⟨file, place, endPlace⟩, table⟩ := r
      · exact .inl rfl
      · exact .inr ⟨file, place, endPlace, parse_jumpTo ..⟩

end Navigation

namespace Parse

section Jump

variable (disk : Disk) (start : Nat) (file : FileId) (place : PlaceId) (endPlace : Option PlaceId)

/-- A jump leaves the parse alone, and the table as good as it was. -/
def KeepsParse (s : Navigation.JumpState) (r : Except NavigationError Jump × Navigation.JumpState) :
    Prop := r.2.parse = s.parse ∧ r.2.table.Sound

theorem arrive_keepsParse {s : Navigation.JumpState} (h : s.table.Sound) (position : Nat)
    (rangeEnd : Option Nat) :
    KeepsParse s (Navigation.arrive start file place position rangeEnd s) := by
  refine ⟨Navigation.parse_arrive start file place position rangeEnd s, ?_⟩
  rcases Navigation.table_arrive start file place position rangeEnd s with heq | hm
  · rw [heq]
    exact h
  · exact h.markVisited hm

theorem jumpTo_keepsParse {s : Navigation.JumpState} (h : s.table.Sound) :
    KeepsParse s (Navigation.jumpTo disk start file place endPlace s) := by
  have h₁ := h.locate disk s.sources place s.nav.settings.screenColumns
  rcases Navigation.jumpTo_cases disk start file place endPlace s with
    ⟨e, -, heq⟩ | ⟨position, rangeEnd, t, sources, -, hsecond, heq⟩
  · rw [heq]
    exact ⟨rfl, h₁⟩
  · rw [heq]
    refine arrive_keepsParse start file place (s := { s with table := t, sources }) ?_ position
      rangeEnd
    rcases hsecond with ⟨-, h₂⟩ | ⟨e, -, -, h₂⟩
    · obtain ⟨rfl, rfl⟩ := Prod.mk.inj h₂
      exact h₁
    · obtain ⟨rfl, rfl⟩ := Prod.mk.inj h₂
      exact h₁.locate disk _ e s.nav.settings.screenColumns

theorem sound_reintern {t : FileTable} (h : t.Sound) (rules : RuleSet) (m : Message) :
    (Navigation.reintern disk rules t m).2.Sound := by
  have h₁ := h.intern disk m.location.spec .root (((rules.lookup m.rule).map (·.formats)).getD [])
  rcases Navigation.reintern_cases disk rules t m with
    ⟨e, -, heq⟩ | ⟨place, u, hplace, ⟨p, e, -, -, heq⟩ | ⟨endPlace, v, hend, heq⟩⟩
  · rw [heq]
    exact h₁
  · rw [heq]
    exact (FileTable.placeAt_files hplace).1 h₁
  · rw [heq]
    have h₂ := (FileTable.placeAt_files hplace).1 h₁
    rcases hend with ⟨-, -, rfl⟩ | ⟨p, q, -, -, hend⟩
    · exact h₂.retain _
    · exact ((FileTable.placeAt_files hend).1 h₂).retain _

theorem findings_relocate (p : Parse) :
    (p.relocate start file place endPlace).messages.map Message.finding
      = p.messages.map Message.finding := by
  show (p.messages.map _).map Message.finding = _
  rw [List.map_map]
  apply List.map_congr_left
  intro m _
  show Message.finding (if m.start = start then { m with file, place, endPlace } else m) = _
  split <;> rfl

theorem jump_spec (nav : Navigation) (sources : Sources) {s : State} (h : s.Sound) :
    (s.act (.jump disk start nav sources)).view = s.view
      ∧ (s.act (.jump disk start nav sources)).Sound := by
  -- a jump may change the file entries of messages, but not what they say
  have hkeep : ∀ {p : Parse} {r : Except NavigationError Jump × Navigation.JumpState},
      r.2.parse = p → p.messages.map Message.finding = s.parse.messages.map Message.finding →
      p = { s.parse with messages := p.messages } → r.2.table.Sound →
      State.view { s with parse := r.2.parse, table := r.2.table } = s.view
        ∧ State.Sound { s with parse := r.2.parse, table := r.2.table } := by
    rintro p r rfl hms hp ht
    refine ⟨?_, ?_, ht⟩
    · unfold State.view
      dsimp only
      rw [hms, hp]
    · dsimp only
      rw [hp]
      exact h.trail
  unfold State.act Navigation.jump
  dsimp only
  cases s.parse.messageAtStart? start with
  | none => exact hkeep rfl rfl rfl h.table
  | some m =>
    dsimp only
    by_cases hlive : (s.table.place? m.place).isSome
    · rw [if_pos hlive]
      obtain ⟨hparse, htable⟩ := jumpTo_keepsParse disk start m.file m.place m.endPlace
        (s := ⟨nav, s.parse, s.table, sources⟩) h.table
      exact hkeep hparse rfl rfl htable
    · rw [if_neg hlive]
      have hre := sound_reintern disk h.table s.parse.settings.rules m
      revert hre
      generalize Navigation.reintern disk s.parse.settings.rules s.table m = r
      obtain ⟨e | ⟨file, place, endPlace⟩, table⟩ := r
      · exact fun hre => hkeep rfl rfl rfl hre
      · intro hre
        obtain ⟨hparse, htable⟩ := jumpTo_keepsParse disk start file place endPlace
          (s := ⟨nav, s.parse.relocate start file place endPlace, table, sources⟩) hre
        exact hkeep hparse (findings_relocate start file place endPlace s.parse) rfl htable

end Jump

/-! ## 3. Proper states -/

/-- What holds in every state of a run. -/
structure State.Proper (s : State) : Prop where
  sound : s.Sound
  labels : LabelsWithin s.view.text.length s.view.labels
  pending : ∀ p, s.view.pendingClear = some p → s.view.cursor ≤ p

theorem State.proper_start (settings : ScanSettings) (pattern : Option DirectoryPattern)
    (workingDir : Path) (searchPath : List (Option Path)) {log : Transcript}
    (h : LabelsWithin log.text.length log.labels.spans) :
    (State.start settings pattern workingDir searchPath log).Proper :=
  ⟨⟨DirectoryTrail.sound_of_pattern pattern, Slots.neat_empty⟩, h, nofun⟩

/-- An insertion leaves the text before it alone. -/
theorem take_insert {l : Transcript} {offset k : Nat} (hk : k ≤ offset) (hl : k ≤ l.text.length)
    (t : Text) : (l.insert offset t).text.take k = l.text.take k := by
  show (l.text.take (min offset l.text.length) ++ t ++ l.text.drop _).take k = _
  rw [List.append_assoc, List.take_append_of_le_length (by rw [List.length_take]; omega),
    List.take_take, Nat.min_eq_left (by omega)]

/-- A deletion leaves the text before it alone. -/
theorem take_delete {l : Transcript} {span : Span} {k : Nat} (hk : k ≤ span.start)
    (hl : k ≤ l.text.length) : (l.delete span).text.take k = l.text.take k := by
  unfold Transcript.delete
  dsimp only
  split
  · rfl
  · show (l.text.take (min span.start l.text.length) ++ l.text.drop _).take k = _
    rw [List.take_append_of_le_length (by rw [List.length_take]; omega), List.take_take,
      Nat.min_eq_left (by omega)]

/-- Told of an edit, the labels to be cleared begin no earlier than the cursor. -/
theorem pending_flushFrom {v : View} (h : ∀ p, v.pendingClear = some p → v.cursor ≤ p)
    (offset : Nat) :
    ∀ p, (v.flushFrom offset).pendingClear = some p → (v.flushFrom offset).cursor ≤ p := by
  unfold View.flushFrom
  dsimp only
  split
  · exact h
  · intro p hp
    rw [← Option.some.inj hp]
    dsimp only
    cases hpend : v.pendingClear with
    | none =>
      dsimp only
      split <;> omega
    | some earlier =>
      have := h earlier hpend
      dsimp only
      split <;> omega

theorem text_flushFrom (v : View) (offset : Nat) :
    (v.flushFrom offset).text = v.text ∧ (v.flushFrom offset).labels = v.labels := by
  unfold View.flushFrom
  dsimp only
  split
  · exact ⟨rfl, rfl⟩
  · exact ⟨rfl, rfl⟩

theorem State.Proper.act {s : State} (h : s.Proper) (a : Action) : (s.act a).Proper := by
  obtain ⟨hsound, hlabels, hpending⟩ := h
  -- an action of the log moves labels, one of the parse the cursor, and some only the table
  cases a with
  | append t =>
    refine ⟨⟨hsound.trail, hsound.table⟩, fun l hl => ?_, hpending⟩
    have := hlabels l hl
    show l.span.stop ≤ (s.log.text ++ t).length
    rw [List.length_append]
    exact Nat.le_add_right_of_le this
  | insert offset t =>
    exact ⟨⟨hsound.trail, hsound.table⟩, Transcript.within_insert hlabels offset t, hpending⟩
  | delete span =>
    exact ⟨⟨hsound.trail, hsound.table⟩, Transcript.within_delete hlabels span, hpending⟩
  | clearLabels start stop =>
    exact ⟨⟨hsound.trail, hsound.table⟩, View.within_clearLabels hlabels start stop, hpending⟩
  | attach =>
    exact ⟨⟨DirectoryTrail.Sound.clear _, sound_releaseAll hsound.table _⟩, hlabels, nofun⟩
  | clear => exact ⟨⟨DirectoryTrail.Sound.clear _, sound_releaseAll hsound.table _⟩, hlabels, nofun⟩
  | finish finished => exact ⟨⟨hsound.trail, hsound.table⟩, hlabels, hpending⟩
  | flush offset =>
    have hview : (s.act (.flush offset)).view = s.view.flushFrom offset := view_flush s offset
    refine ⟨hsound.flush offset, ?_, ?_⟩
    · rw [hview, (text_flushFrom s.view offset).1, (text_flushFrom s.view offset).2]
      exact hlabels
    · rw [hview]
      exact pending_flushFrom hpending offset
  | read disk upto =>
    have hsound' := (view_advance hsound disk upto).2.2
    have hview := view_read hsound disk upto
    refine ⟨hsound', ?_, fun p hp => ?_⟩
    · rw [hview, View.text_advance]
      exact View.within_advance hlabels upto
    · rw [hview, (View.ready_advance upto s.view).pending] at hp
      cases hp
  | discard offset =>
    exact ⟨⟨hsound.trail, sound_releaseAll hsound.table _⟩, hlabels, hpending⟩
  | shift delta =>
    refine ⟨⟨hsound.trail.shiftBack delta, hsound.table⟩, hlabels, fun p hp => ?_⟩
    obtain ⟨q, hq, rfl⟩ := Option.map_eq_some_iff.mp hp
    exact Nat.sub_le_sub_right (hpending q hq) delta
  | sweep => exact ⟨⟨hsound.trail, hsound.table.sweep⟩, hlabels, hpending⟩
  | flushFile disk spec =>
    exact ⟨⟨hsound.trail, hsound.table.flush disk spec⟩, hlabels, hpending⟩
  | jump disk start nav sources =>
    obtain ⟨hview, hsound'⟩ := jump_spec disk start nav sources hsound
    exact ⟨hsound', by rw [hview]; exact hlabels, by rw [hview]; exact hpending⟩

theorem State.Proper.run {s : State} (h : s.Proper) (as : List Action) : (s.run as).Proper :=
  State.run_induction (Q := fun _ => True) h (fun _ a hu _ => hu.act a) fun _ _ => trivial

/-- A state that a run leads to, from a log whose labels lie in its text. -/
def State.Reachable (s : State) : Prop :=
  ∃ settings pattern workingDir searchPath log as,
    LabelsWithin log.text.length log.labels.spans
      ∧ s = (State.start settings pattern workingDir searchPath log).run as

theorem State.Reachable.proper {s : State} (h : s.Reachable) : s.Proper := by
  obtain ⟨settings, pattern, workingDir, searchPath, log, as, hlog, rfl⟩ := h
  exact (State.proper_start settings pattern workingDir searchPath hlog).run as

theorem State.reachable_run (settings : ScanSettings) (pattern : Option DirectoryPattern)
    (workingDir : Path) (searchPath : List (Option Path)) (t : Text) (as : List Action) :
    ((State.start settings pattern workingDir searchPath (.ofText t)).run as).Reachable :=
  ⟨settings, pattern, workingDir, searchPath, .ofText t, as, (fun _ hl => nomatch hl), rfl⟩

end Parse

end BuildLog
