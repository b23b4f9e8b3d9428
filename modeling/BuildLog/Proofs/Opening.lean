import BuildLog.CommandLine
import BuildLog.Proofs.Editing
import BuildLog.Proofs.Hops
import BuildLog.Proofs.Marks
import BuildLog.Proofs.Naming

/-!
# Opening — the session that the command reports

The command reads a log that will not grow to its end before it makes a step.  So no step finds
anything more to read, and what is reported is about the messages and files that are there at first.
No place was gone to then, and a file is gone only if some message says that it has changed.
-/

namespace BuildLog

/-! ## 1. Logs that are read to the end -/

/-- A finished log that is read as far as it goes is read to its end. -/
theorem View.cursor_advance_of_finished {v : View} (h : v.finished) :
    (v.advance v.text.length).2.cursor = v.text.length := by
  have hready := ready_settle_snap v
  have hfin : v.settle.snap.finished := (sameSetting_snap v.settle).finished.trans h
  have htext : v.settle.snap.text = v.text := text_snap v.settle
  rw [View.advance, ← htext]
  generalize v.settle.snap = u at hready hfin
  have hend : u.atEnd u.text.length := by
    unfold atEnd
    simp [hfin]
  have hle := hready.cursor_le
  unfold View.readOn
  split
  · rename_i hnil
    have hlen := length_readable u.text.length u
    rw [hnil, if_pos hend, Nat.min_self, List.length_nil] at hlen
    dsimp only
    omega
  · rw [hend]
    exact readEnd_of_atEnd hend hle

namespace Parse

/-- Everything was read, and nothing was edited since. -/
structure State.AllRead (s : State) : Prop where
  pending : s.parse.pendingClear = none
  rewound : s.parse.rewound = false
  cursor : s.parse.cursor = s.log.length

theorem State.allRead_advance {s : State} (h : s.Sound) (hfin : s.parse.finished) (disk : Disk) :
    (advance disk s.log.length s).2.AllRead := by
  have hview : (advance disk s.log.length s).2.view = (s.view.advance s.view.text.length).2 :=
    (view_advance h disk s.log.length).2.1
  have hready := View.ready_advance s.view.text.length s.view
  have hcursor := View.cursor_advance_of_finished (v := s.view) hfin
  have htext := View.text_advance s.view.text.length s.view
  rw [← hview] at hready hcursor htext
  exact ⟨hready.pending, hready.rewound, hcursor.trans (congrArg List.length htext.symm)⟩

/-- When everything was read, there is nothing more to read. -/
theorem State.AllRead.advance {s : State} (h : s.AllRead) (disk : Disk) (upto : Nat) :
    Parse.advance disk upto s = (0, s) := by
  have hsettle : settle s = s := by
    unfold settle
    dsimp only
    rw [h.pending, h.cursor, Nat.min_self]
    dsimp only
    rw [← h.cursor, ← h.pending]
  have hsnap : snap s = s := by
    have hline : insideLine s = false := by
      unfold insideLine
      simp [h.cursor, h.rewound]
    unfold snap
    rw [hline, if_neg Bool.false_ne_true, ← h.rewound]
  unfold Parse.advance
  dsimp only
  rw [hsettle, hsnap, h.cursor]
  exact if_pos (Nat.min_le_right _ _)

end Parse

/-! ## 2. Stores that nothing was taken out of -/

/-- Every slot has the first value that was put into it. -/
def Slots.Full {α : Type} (s : Slots α) : Prop := ∀ slot ∈ s.slots, slot.removals = 0 ∧ slot.value.isSome

namespace Slots

variable {α : Type} {s : Slots α} (h : s.Full)
include h

theorem Full.insert (hs : s.Neat) (a : α) : (s.insert a).2.Full := by
  obtain ⟨i, r, -, hold, hslots⟩ := hs.slots_insert a
  intro slot hslot
  obtain ⟨j, hj⟩ := Array.getElem?_of_mem hslot
  rw [hslots] at hj
  split at hj
  · cases hj
    rcases hold with ⟨hi, -⟩ | ⟨-, hr, -⟩
    · -- there is no slot to be filled
      cases (h _ (Array.mem_of_getElem? hi)).2
    · exact ⟨hr, rfl⟩
  · exact h slot (Array.mem_of_getElem? hj)

theorem Full.modify (k : Handle) (f : α → α) : (s.modify k f).Full := by
  intro slot hslot
  obtain ⟨j, hj⟩ := Array.getElem?_of_mem hslot
  rw [slots_modify, Option.map_eq_some_iff] at hj
  obtain ⟨old, hold, rfl⟩ := hj
  obtain ⟨hremovals, hvalue⟩ := h old (Array.mem_of_getElem? hold)
  split
  · exact ⟨hremovals, Option.isSome_map.trans hvalue⟩
  · exact ⟨hremovals, hvalue⟩

/-- Every handle that was given out is good. -/
theorem Full.isSome_get? {k : Handle} (hk : s.Issued k) : (s.get? k).isSome := by
  obtain ⟨slot, n, hslot, hn, hgen⟩ := hk
  obtain ⟨hremovals, hvalue⟩ := h slot (Array.mem_of_getElem? hslot)
  obtain ⟨a, ha⟩ := Option.isSome_iff_exists.mp hvalue
  rw [Slot.fills_of_some hvalue, hremovals] at hn
  obtain rfl : n = 0 := by omega
  have hget : s.get? k = some a :=
    get?_eq_some.mpr ⟨slot, hslot, by rw [Slot.generation, hremovals, hgen], ha⟩
  rw [hget]
  rfl

end Slots

/-- Whatever is added to a table, no file goes. -/
theorem FileTable.keptByAdding_full :
    KeptByAdding (fun _ => True) (fun _ => True) fun t => t.Filed ∧ t.files.Full where
  intern := by
    rintro t ⟨hfiled, hfull⟩ disk - spec stack formats -
    refine ⟨(becomes_intern hfiled disk spec stack formats).filed, ?_⟩
    rcases intern_eq t disk spec stack formats with ⟨_, -, heq⟩ | ⟨_, -, -, heq⟩ | ⟨f, -, -, -, heq⟩
    · rw [heq]
      exact hfull
    · rw [heq]
      exact hfull
    · rw [heq]
      exact hfull.insert hfiled.coherent.files f
  placeAt := by
    rintro t u file p q ⟨hfiled, hfull⟩ hplace
    refine ⟨(becomes_placeAt hfiled hplace).filed, ?_⟩
    obtain ⟨f, -, ⟨-, rfl⟩ | ⟨-, -, rfl⟩⟩ := placeAt_eq_ok hplace
    · exact hfull
    · exact hfull.modify _ _
  retain h id := ⟨(becomes_retain h.1 id).filed, h.2.modify _ _⟩

/-! ## 3. Opened sessions -/

namespace Session

/-- A session over a log that was read to its end, and of which no place was gone to. -/
structure Unexplored (s : Session) : Prop where
  allRead : s.parseState.AllRead
  ordered : s.parse.messages.Pairwise (·.start < ·.start)
  unvisited : ∀ q x, s.table.place? q = some x → ¬ x.visited

section

variable (cfg : ScanSettings) (p : Option DirectoryPattern) (workingDir : Path)
  (searchPath : List (Option Path)) (nav : NavigationSettings) (sources : Sources) (text : Text)
  (disk : Disk)

/-- A session over a text that will not grow, all of it read. -/
def opened : Session :=
  (((ofText cfg p workingDir searchPath nav sources text).setFinished true).parseAll disk).2

theorem opened_eq : opened cfg p workingDir searchPath nav sources text disk
    = (start cfg { pattern := p } { workingDir, searchPath } nav sources (.ofText text)).serveAll
      [.finish true, .read disk text.length] := rfl

theorem known_opened : (opened cfg p workingDir searchPath nav sources text disk).parseState.Known :=
  known_serveAll (known_start cfg p workingDir searchPath nav sources (.ofText text))
    [.finish true, .read disk text.length]

theorem settings_opened :
    (opened cfg p workingDir searchPath nav sources text disk).parse.settings = cfg :=
  settings_serveAll _ [.finish true, .read disk text.length]

theorem allRead_opened :
    (opened cfg p workingDir searchPath nav sources text disk).parseState.AllRead :=
  Parse.State.allRead_advance
    (known_serve (known_start cfg p workingDir searchPath nav sources (.ofText text))
      (.finish true)).balanced.sound rfl disk

theorem named_opened (hguide : sources.guide = none) :
    (opened cfg p workingDir searchPath nav sources text disk).table.Named { workingDir, searchPath }
      disk (Searched cfg.rules) := by
  rw [opened_eq]
  refine named_serveAll (known_start cfg p workingDir searchPath nav sources (.ofText text))
    ⟨FileTable.coherent_empty searchPath workingDir,
      FileTable.named_empty disk _ searchPath workingDir, hguide⟩ fun r hr => ?_
  simp only [List.mem_cons, List.not_mem_nil, or_false] at hr
  rcases hr with rfl | rfl
  · exact ⟨trivial, nofun⟩
  · exact ⟨rfl, nofun⟩

/-- No place was gone to. -/
theorem unvisited_opened {q : PlaceId} {x : Place}
    (hx : (opened cfg p workingDir searchPath nav sources text disk).table.place? q = some x) :
    ¬ x.visited := by
  intro hvisited
  have hkept := FileTable.keptByReading_noNewMarks { workingDir, searchPath }
  have hstart := known_start cfg p workingDir searchPath nav sources (.ofText text)
  have hmarks := Parse.advance_of_changes hkept.toKeptByAdding hkept.release disk trivial
    (s := ((ofText cfg p workingDir searchPath nav sources text).setFinished true).parseState)
    (fun _ _ => trivial) text.length (fun _ _ _ _ _ ht => hkept.dropFile ht)
    (known_serve hstart (.finish true)).balanced.sound
    ⟨FileTable.filed_empty searchPath workingDir, fun q x hx hvisited => ⟨x, hx, hvisited⟩⟩
  obtain ⟨x', hx', -⟩ := hmarks.2 q x hx hvisited
  cases hx'

theorem unexplored_opened :
    (opened cfg p workingDir searchPath nav sources text disk).Unexplored where
  allRead := allRead_opened cfg p workingDir searchPath nav sources text disk
  ordered := starts_serveAll cfg p workingDir searchPath nav sources (.ofText text)
    [.finish true, .read disk text.length]
  unvisited _ _ hx := unvisited_opened cfg p workingDir searchPath nav sources text disk hx

/-- The file of each message is there, if no message says that a file has changed. -/
theorem live_opened
    (hnone : let s := opened cfg p workingDir searchPath nav sources text disk
      ∀ m ∈ s.parse.messages, ∀ r ∈ cfg.rules.rules, r.name = m.rule → ¬ r.flushes)
    {m : Message} (hm : m ∈ (opened cfg p workingDir searchPath nav sources text disk).parse.messages) :
    (opened cfg p workingDir searchPath nav sources text disk).table.Live m.file := by
  have hstart := known_start cfg p workingDir searchPath nav sources (.ofText text)
  have hrelease : ∀ {t : FileTable}, t.Filed ∧ t.files.Full → ∀ id,
      (t.release id).Filed ∧ (t.release id).files.Full :=
    fun h id => ⟨(FileTable.becomes_release h.1 id).filed, h.2.modify _ _⟩
  have hfull := Parse.advance_of_changes FileTable.keptByAdding_full hrelease disk trivial
    (s := ((ofText cfg p workingDir searchPath nav sources text).setFinished true).parseState)
    (fun _ _ => trivial) text.length
    (fun r hr hflush ⟨m, hm, _, hrule⟩ => absurd hflush (hnone m hm r hr hrule.symm))
    (known_serve hstart (.finish true)).balanced.sound
    ⟨FileTable.filed_empty searchPath workingDir, nofun⟩
  -- the message was given its file, and no file went
  have hknown := known_opened cfg p workingDir searchPath nav sources text disk
  exact hfull.2.isSome_get?
    (hknown.balanced.accounted.issued m.reference (List.mem_map_of_mem hm)).file

end

/-- When everything was read, a step moves nothing but the navigation. -/
theorem stepWith_of_allRead {s : Session} (h : s.parseState.AllRead)
    (move : Navigation → Parse → FileTable → Except NavigationError (Nat × Navigation)) (disk : Disk) :
    s.stepWith move disk = match move s.navigation s.parse s.table with
      | .error e => (.error e, s)
      | .ok (start, navigation) => match s.parse.messageAtStart? start with
        | some m => (.ok m, { s with navigation })
        | none => (.error (.unknownMessage start), { s with navigation }) := by
  have hparse : s.parseAll disk = (0, s) := by
    unfold parseAll advance
    rw [h.advance]
    rfl
  unfold stepWith
  generalize s.parseAll disk = r at hparse ⊢
  subst hparse
  rfl

end Session

/-! ## 4. The command -/

namespace CommandLine

/-- Whatever the settings, the trail of a new session has seen nothing. -/
theorem directoryTrail_eq_ok {settings : Settings} {trail : DirectoryTrail}
    (h : settings.directoryTrail = .ok trail) : ∃ p, trail = { pattern := p } := by
  unfold Settings.directoryTrail at h
  split at h
  · rw [← Except.ok.inj h]
    exact ⟨_, rfl⟩
  · rename_i source _
    split at h
    · rename_i hpattern
      unfold DirectoryTrail.ofPattern at hpattern
      split at hpattern
      · cases hpattern
        cases h
        exact ⟨_, rfl⟩
      · cases hpattern
    · cases h

/-- The command opens a session over the text of the log, with nobody to ask. -/
theorem openSession_eq_ok {a : Arguments} {disk : Disk} {cwd : Path} {stdin : ByteArray} {s : Session}
    (h : openSession a disk cwd stdin = .ok s) :
    ∃ cfg p workingDir searchPath nav sources text, sources.guide = none
      ∧ s = Session.opened cfg p workingDir searchPath nav sources text disk := by
  unfold openSession at h
  cases hstart : startSession a disk cwd stdin with
  | error e =>
    rw [hstart] at h
    cases h
  | ok s₀ =>
    rw [hstart] at h
    cases h
    unfold startSession at hstart
    split at hstart
    · cases hstart
    · split at hstart
      · cases hstart
      · split at hstart
        · cases hstart
        · split at hstart
          · cases hstart
          · rename_i hsession
            cases hstart
            unfold Settings.session at hsession
            split at hsession
            · cases hsession
            · rename_i htrail
              split at hsession
              · cases hsession
              · cases hsession
                obtain ⟨p, rfl⟩ := directoryTrail_eq_ok htrail
                exact ⟨_, p, _, _, _, _, _, rfl, rfl⟩

/-- What the arguments name can be loaded: settings, rules, the text of the log, the pattern for
directories, and the substitutions of file names. -/
structure Loads (a : Arguments) (disk : Disk) (stdin : ByteArray) (settings : Settings)
    (rules : RuleSet) (text : String) (trail : DirectoryTrail)
    (substitutions : List Substitution) : Prop where
  hsettings : a.settings disk = .ok settings
  hrules : ruleSet a settings disk = .ok rules
  htext : logText a disk stdin = .ok text
  htrail : settings.directoryTrail = .ok trail
  hsubstitutions : Settings.compileSubstitutions settings.substitutions = .ok substitutions

section

variable {a : Arguments} {disk : Disk} {stdin : ByteArray} {settings : Settings} {rules : RuleSet}
  {text : String} {trail : DirectoryTrail} {substitutions : List Substitution}
  (h : Loads a disk stdin settings rules text trail substitutions) (cwd : Path)
include h

theorem Loads.startSession {p : Option DirectoryPattern} (hp : trail = { pattern := p }) :
    CommandLine.startSession a disk cwd stdin = .ok ((Session.ofText
      { rules, firstColumn := settings.firstColumn, substitutions } p
      (settings.workingDirectory.getD cwd) settings.searchPath settings.navigation settings.sources
      text.toList).setFinished true) := by
  subst hp
  rw [CommandLine.startSession, h.hsettings]
  dsimp only
  rw [h.hrules]
  dsimp only
  rw [h.htext]
  dsimp only
  rw [Settings.session, h.htrail]
  dsimp only
  rw [h.hsubstitutions]
  rfl

theorem Loads.openSession {p : Option DirectoryPattern} (hp : trail = { pattern := p }) :
    CommandLine.openSession a disk cwd stdin = .ok (Session.opened
      { rules, firstColumn := settings.firstColumn, substitutions } p
      (settings.workingDirectory.getD cwd) settings.searchPath settings.navigation settings.sources
      text.toList disk) := by
  rw [CommandLine.openSession, h.startSession cwd hp]
  rfl

/-- A column is too large if one of the scan of the whole log is. -/
theorem Loads.overflows_eq : overflows a disk cwd stdin
    = scanOverflows { rules, firstColumn := settings.firstColumn, substitutions } disk text.toList 0
      none ⟨trail.process text.toList 0, settings.fileTable cwd⟩ := by
  obtain ⟨p, rfl⟩ := directoryTrail_eq_ok h.htrail
  rw [overflows, h.startSession cwd rfl]
  rfl

end

end CommandLine

end BuildLog
