import BuildLog.Proofs.Indexes
import BuildLog.Proofs.Sweeping

/-!
# Changes — what each change of a file table keeps, a session keeps

A session changes its file table in a few ways only: a reading adds entries, places and counts, and
drops the files that are said to have changed; messages that go are not counted any more; and a jump
goes to places.  So what each of these changes keeps holds throughout a run.
-/

namespace BuildLog

/-! ## 1. Kinds of changes -/

section

variable (D : Disk → Prop) (F : List String → Prop)

/-- What is kept when names are looked up and places are made for them.  The disks are those of `D`,
and files are looked for in the formats of `F`. -/
structure KeptByAdding (I : FileTable → Prop) : Prop where
  intern : ∀ {t}, I t → ∀ {disk}, D disk → ∀ spec stack {formats}, F formats →
    I (t.intern disk spec stack formats).2
  placeAt : ∀ {t u file p q}, I t → t.placeAt file p = .ok (q, u) → I u
  retain : ∀ {t}, I t → ∀ id, I (t.retain id)

/-- What is kept when, besides, files are dropped and messages are not counted any more. -/
structure KeptByReading (I : FileTable → Prop) : Prop extends KeptByAdding D F I where
  dropFile : ∀ {t}, I t → ∀ id, I (t.dropFile id).2
  release : ∀ {t}, I t → ∀ id, I (t.release id)

/-- What is kept when, besides, places are gone to. -/
structure KeptByGoing (I : FileTable → Sources → Prop) : Prop where
  reading : ∀ sources, KeptByReading D F (I · sources)
  locate : ∀ {t sources}, I t sources → ∀ {disk}, D disk → ∀ q screen,
    I (t.locate disk sources q screen).2.1 (t.locate disk sources q screen).2.2
  markVisited : ∀ {t u sources q}, I t sources → t.markVisited q = .ok u → I u sources

end

/-! ## 2. Scans -/

/-- A message of a candidate is in the file that was chosen, and the places of its location were
made there. -/
theorem Candidate.of_message? {cfg : ScanSettings} {disk : Disk} {input : Array Char} {base : Nat}
    {previous : Option Inherited} {s s' : ScanState} {c : Candidate} {m : Message}
    (hm : c.message? cfg disk input base previous s = some (m, s')) :
    ∃ choice table, chooseFile cfg disk c.rule (.ofMatch input c.found)
        (c.found.span.shift base).start previous s = some choice
      ∧ placesOf choice.state.table choice.file m.location = .ok (m.place, m.endPlace, table)
      ∧ m.rule = c.rule.name ∧ m.file = choice.file
      ∧ m.location.spec = ⟨choice.filename, choice.directory⟩
      ∧ s' = { choice.state with table := table.retain choice.file } := by
  unfold message? at hm
  dsimp only at hm
  split at hm
  · cases hm
  · rename_i choice hchoice
    split at hm
    · cases hm
    · rename_i table hplaces
      cases hm
      exact ⟨choice, table, hchoice, hplaces, rfl, rfl, rfl, rfl⟩

namespace Candidate

theorem mem_insert {c d : Candidate} {ds : List Candidate} (h : d ∈ insert c ds) :
    d = c ∨ d ∈ ds := by
  induction ds with
  | nil => exact .inl (List.mem_singleton.mp h)
  | cons e es ih =>
    rw [insert] at h
    split at h
    · exact List.mem_cons.mp h
    · split at h
      · exact .inr h
      · rcases List.mem_cons.mp h with rfl | h
        · exact .inr List.mem_cons_self
        · exact (ih h).imp_right (List.mem_cons_of_mem e)

/-- The candidates of a text are matches of the rules. -/
theorem mem_flatMap_of_mem_all {rules : RuleSet} {text : Array Char} {c : Candidate}
    (h : c ∈ all rules text) : c ∈ rules.rules.flatMap (ofRule text) := by
  -- whatever is put in one after the other was there before
  have hfold : ∀ (ds acc : List Candidate), ∀ d ∈ ds.foldl (fun acc c => insert c acc) acc,
      d ∈ ds ∨ d ∈ acc := by
    intro ds
    induction ds with
    | nil => exact fun acc d hd => .inr hd
    | cons e es ih =>
      intro acc d hd
      rcases ih _ d hd with hd | hd
      · exact .inl (List.mem_cons_of_mem e hd)
      · rcases mem_insert hd with rfl | hd
        · exact .inl List.mem_cons_self
        · exact .inr hd
  rcases hfold _ [] c h with hc | hc
  · exact hc
  · cases hc

theorem rule_of_mem_all {rules : RuleSet} {text : Array Char} {c : Candidate}
    (h : c ∈ all rules text) : c.rule ∈ rules.rules := by
  obtain ⟨r, hr, hmem⟩ := List.mem_flatMap.mp (mem_flatMap_of_mem_all h)
  obtain ⟨m, -, rfl⟩ := List.mem_map.mp hmem
  exact hr

end Candidate

section Scan

variable {D : Disk → Prop} {F : List String → Prop} {I : FileTable → Prop}
  (hI : KeptByAdding D F I) {disk : Disk} (hD : D disk) (cfg : ScanSettings)
include hI

theorem KeptByAdding.placesOf {t u : FileTable} (ht : I t) {file : FileId} {l : TextLocation}
    {place : PlaceId} {endPlace : Option PlaceId}
    (h : BuildLog.placesOf t file l = .ok (place, endPlace, u)) : I u := by
  obtain ⟨v, hp, ⟨-, rfl⟩ | ⟨p, e, -, -, hp'⟩⟩ := placesOf_eq_ok h
  · exact hI.placeAt ht hp
  · exact hI.placeAt (hI.placeAt ht hp) hp'

include hD

theorem KeptByAdding.chooseFile {rule : Rule} (hF : F rule.formats)
    (hdrop : rule.flushes → ∀ t, I t → ∀ id, I (t.dropFile id).2) {s : ScanState} (hs : I s.table)
    {f : Found} {offset : Nat} {previous : Option Inherited} {choice : FileChoice}
    (hc : BuildLog.chooseFile cfg disk rule f offset previous s = some choice) :
    I choice.state.table := by
  unfold BuildLog.chooseFile at hc
  split at hc
  · obtain ⟨name, -, rfl⟩ := Option.map_eq_some_iff.mp hc
    unfold namedFile
    refine hI.intern ?_ hD _ _ hF
    split
    · rename_i hflush
      split
      · exact hdrop hflush _ hs _
      · exact hs
    · exact hs
  · obtain ⟨p, -, rfl⟩ := Option.map_eq_some_iff.mp hc
    unfold inheritedFile
    split
    · exact hs
    · exact hI.intern hs hD _ _ hF

theorem KeptByAdding.message? {c : Candidate} (hF : F c.rule.formats)
    (hdrop : c.rule.flushes → ∀ t, I t → ∀ id, I (t.dropFile id).2) {input : Array Char}
    {base : Nat} {previous : Option Inherited} {s s' : ScanState} (hs : I s.table) {m : Message}
    (hm : c.message? cfg disk input base previous s = some (m, s')) : I s'.table := by
  obtain ⟨choice, u, hchoice, hplaces, -, -, -, rfl⟩ := Candidate.of_message? hm
  exact hI.retain (hI.placesOf (hI.chooseFile hD cfg hF hdrop hs hchoice) hplaces) _

/-- Files need to be droppable only if there is a message of a rule that flushes. -/
theorem KeptByAdding.scanCandidates (text : Text) (input : Array Char) (base : Nat) {s : ScanState}
    (hs : I s.table) (claimed : Nat) (previous : Option Inherited) {cs : List Candidate}
    (hF : ∀ c ∈ cs, F c.rule.formats)
    (hdrop : ∀ c ∈ cs, c.rule.flushes →
      (∃ m ∈ (BuildLog.scanCandidates cfg disk text input base claimed previous s cs).1,
        m.rule = c.rule.name) → ∀ t, I t → ∀ id, I (t.dropFile id).2) :
    I (BuildLog.scanCandidates cfg disk text input base claimed previous s cs).2.table := by
  induction cs generalizing claimed previous s with
  | nil => exact hs
  | cons c cs ih =>
    have hF' : ∀ d ∈ cs, F d.rule.formats := fun d hd => hF d (List.mem_cons_of_mem c hd)
    rw [BuildLog.scanCandidates] at hdrop ⊢
    split
    · rename_i hclaimed
      rw [if_pos hclaimed] at hdrop
      exact ih hs claimed previous hF' fun d hd => hdrop d (List.mem_cons_of_mem c hd)
    · rename_i hclaimed
      rw [if_neg hclaimed] at hdrop
      cases hm : c.message? cfg disk input base previous s with
      | none =>
        rw [hm] at hdrop
        exact ih hs claimed previous hF' fun d hd => hdrop d (List.mem_cons_of_mem c hd)
      | some r =>
        obtain ⟨m, s'⟩ := r
        rw [hm] at hdrop
        dsimp only at hdrop ⊢
        -- the candidate is one whose rule has a message, and so are those behind it
        obtain ⟨-, -, -, -, hrule, -⟩ := Candidate.of_message? hm
        have hown : c.rule.flushes → ∀ t, I t → ∀ id, I (t.dropFile id).2 := fun hflush =>
          hdrop c List.mem_cons_self hflush ⟨m, List.mem_cons_self, hrule⟩
        refine ih (hI.message? hD cfg (hF c List.mem_cons_self) hown hs hm) _ _ hF' ?_
        rintro d hd hflush ⟨m', hm', hrule⟩
        exact hdrop d (List.mem_cons_of_mem c hd) hflush ⟨m', List.mem_cons_of_mem m hm', hrule⟩

theorem KeptByAdding.scan {cfg : ScanSettings} (hF : ∀ r ∈ cfg.rules.rules, F r.formats)
    (text : Text) (base : Nat) (previous : Option Inherited) {s : ScanState} (hs : I s.table)
    (hdrop : ∀ r ∈ cfg.rules.rules, r.flushes →
      (∃ m ∈ (BuildLog.scan cfg disk text base previous s).1, m.rule = r.name) →
      ∀ t, I t → ∀ id, I (t.dropFile id).2) :
    I (BuildLog.scan cfg disk text base previous s).2.table :=
  hI.scanCandidates hD cfg text text.toArray base hs 0 previous
    (fun _ hc => hF _ (Candidate.rule_of_mem_all hc))
    fun _ hc => hdrop _ (Candidate.rule_of_mem_all hc)

end Scan

/-! ## 3. Readings -/

namespace Parse

section Read

variable {D : Disk → Prop} {F : List String → Prop} {I : FileTable → Prop} {s : State}

theorem releaseAll_of_changes (hrelease : ∀ {t}, I t → ∀ id, I (t.release id)) {t : FileTable}
    (ht : I t) (ms : List Message) : I (releaseAll t ms) := by
  unfold releaseAll
  induction ms generalizing t with
  | nil => exact ht
  | cons m ms ih => exact ih (hrelease ht m.file)

theorem snap_settle_of_changes (hrelease : ∀ {t}, I t → ∀ id, I (t.release id)) (hs : I s.table) :
    I (snap (settle s)).table := by
  unfold snap
  split
  · exact releaseAll_of_changes hrelease hs _
  · exact hs

/-- What a reading finds begins at the cursor or behind it. -/
theorem start_of_mem_scan (h : s.Sound) {disk : Disk} {text : Text} {m : Message}
    (hm : m ∈ (BuildLog.scan s.parse.settings disk text s.parse.cursor
      ((s.parse.messages.filter (·.start < s.parse.cursor)).getLast?.map .ofMessage)
      (s.scanState text)).1) : s.parse.cursor ≤ m.start := by
  have hmem : m.finding ∈ s.view.found text := by
    rw [← (scan_readText h disk text).1]
    exact List.mem_map_of_mem hm
  exact (View.found_within s.view text m.finding hmem).start_le

/-- Files need to be droppable only if the reading finds a message of a rule that flushes. -/
theorem advance_of_changes (hI : KeptByAdding D F I) (hrelease : ∀ {t}, I t → ∀ id, I (t.release id))
    (disk : Disk) (hD : D disk) (hF : ∀ r ∈ s.parse.settings.rules.rules, F r.formats) (upto : Nat)
    (hdrop : ∀ r ∈ s.parse.settings.rules.rules, r.flushes →
      (∃ m ∈ (advance disk upto s).2.parse.messages,
        (snap (settle s)).parse.cursor ≤ m.start ∧ m.rule = r.name) →
      ∀ t, I t → ∀ id, I (t.dropFile id).2) (hsound : s.Sound) (hs : I s.table) :
    I (advance disk upto s).2.table := by
  have hsettings : (snap (settle s)).parse.settings = s.parse.settings := by
    unfold snap
    split <;> rfl
  have hsnap : I (snap (settle s)).table := snap_settle_of_changes hrelease hs
  rw [advance_eq] at hdrop ⊢
  split
  · exact hsnap
  · rename_i hnil
    rw [if_neg hnil] at hdrop
    rw [← hsettings] at hF hdrop
    have hsound' : (snap (settle s)).Sound := hsound.settle.snap
    refine hI.scan hD hF _ _ _ (s := (snap (settle s)).scanState _)
      (releaseAll_of_changes hrelease hsnap _) fun r hr hflush ⟨m, hm, hrule⟩ => ?_
    exact hdrop r hr hflush ⟨m, List.mem_append_right _ hm, start_of_mem_scan hsound' hm, hrule⟩

end Read

end Parse

/-! ## 4. Jumps -/

namespace Navigation

theorem settings_jump (disk : Disk) (start : Nat) (s : JumpState) :
    (jump disk start s).2.parse.settings = s.parse.settings := by
  rcases parse_jump disk start s with h | ⟨file, place, endPlace, h⟩
  · rw [h]
  · rw [h]
    rfl

section Jump

variable {D : Disk → Prop} {F : List String → Prop} (disk : Disk) (hD : D disk)
include hD

theorem reintern_of_changes {I : FileTable → Prop} (hI : KeptByAdding D F I) (rules : RuleSet)
    (hnil : F []) (hF : ∀ r ∈ rules.rules, F r.formats) {t : FileTable} (ht : I t) (m : Message) :
    I (reintern disk rules t m).2 := by
  have hformats : F (((rules.lookup m.rule).map (·.formats)).getD []) := by
    cases hr : rules.lookup m.rule with
    | none => exact hnil
    | some r => exact hF r (List.mem_of_find?_eq_some hr)
  have h₁ := hI.intern ht hD m.location.spec .root hformats
  rcases reintern_cases disk rules t m with
    ⟨e, -, heq⟩ | ⟨place, u, hplace, ⟨p, e, -, -, heq⟩ | ⟨endPlace, v, hend, heq⟩⟩
  · rw [heq]
    exact h₁
  · rw [heq]
    exact hI.placeAt h₁ hplace
  · rw [heq]
    have h₂ := hI.placeAt h₁ hplace
    rcases hend with ⟨-, -, rfl⟩ | ⟨p, q, -, -, hend⟩
    · exact hI.retain h₂ _
    · exact hI.retain (hI.placeAt h₂ hend) _

variable {I : FileTable → Sources → Prop} (hI : KeptByGoing D F I)
include hI

omit hD in
theorem arrive_of_changes (start : Nat) (file : FileId) (place : PlaceId) (position : Nat)
    (rangeEnd : Option Nat) {s : JumpState} (hs : I s.table s.sources) :
    I (arrive start file place position rangeEnd s).2.table
      (arrive start file place position rangeEnd s).2.sources := by
  rw [sources_arrive]
  rcases table_arrive start file place position rangeEnd s with heq | hm
  · rw [heq]
    exact hs
  · exact hI.markVisited hs hm

theorem jumpTo_of_changes (start : Nat) (file : FileId) (place : PlaceId)
    (endPlace : Option PlaceId) {s : JumpState} (hs : I s.table s.sources) :
    I (jumpTo disk start file place endPlace s).2.table
      (jumpTo disk start file place endPlace s).2.sources := by
  have hfirst := hI.locate hs hD place s.nav.settings.screenColumns
  rcases jumpTo_cases disk start file place endPlace s with
    ⟨e, -, heq⟩ | ⟨position, rangeEnd, t, sources, -, hsecond, heq⟩
  · rw [heq]
    exact hfirst
  · rw [heq]
    refine arrive_of_changes hI start file place position rangeEnd
      (s := { s with table := t, sources }) ?_
    rcases hsecond with ⟨-, h⟩ | ⟨e, -, -, h⟩
    · obtain ⟨rfl, rfl⟩ := Prod.mk.inj h
      exact hfirst
    · obtain ⟨rfl, rfl⟩ := Prod.mk.inj h
      exact hI.locate hfirst hD e s.nav.settings.screenColumns

theorem jump_of_changes (hnil : F []) {s : JumpState}
    (hF : ∀ r ∈ s.parse.settings.rules.rules, F r.formats) (hs : I s.table s.sources)
    (start : Nat) : I (jump disk start s).2.table (jump disk start s).2.sources := by
  unfold jump
  cases s.parse.messageAtStart? start with
  | none => exact hs
  | some m =>
    dsimp only
    split
    · exact jumpTo_of_changes disk hD hI start m.file m.place m.endPlace hs
    · have hre := reintern_of_changes disk hD (hI.reading s.sources).toKeptByAdding _ hnil hF hs m
      revert hre
      generalize reintern disk s.parse.settings.rules s.table m = r
      obtain ⟨e | ⟨file, place, endPlace⟩, table⟩ := r
      · exact id
      · exact fun hre => jumpTo_of_changes disk hD hI start file place endPlace
          (s := { s with table, parse := s.parse.relocate start file place endPlace }) hre

end Jump

end Navigation

/-! ## 5. Sessions -/

namespace Session

/-- A request looks at the given disks only. -/
def Request.Within (D : Disk → Prop) : Request → Prop
  | .read disk _ | .nextMessage disk _ | .nextFile disk _ | .firstMessage disk | .jump disk _
  | .nextError disk _ | .flushFile disk _ => D disk
  | _ => True

theorem settings_advance (disk : Disk) (upto : Nat) (s : Parse.State) :
    (Parse.advance disk upto s).2.parse.settings = s.parse.settings := by
  have hsnap : (Parse.snap (Parse.settle s)).parse.settings = s.parse.settings := by
    unfold Parse.snap
    split <;> rfl
  rw [Parse.advance_eq]
  split <;> exact hsnap

theorem settings_stepWith
    (move : Navigation → Parse → FileTable → Except NavigationError (Nat × Navigation)) (disk : Disk)
    (s : Session) : (s.stepWith move disk).2.parse.settings = s.parse.settings :=
  (congrArg (·.parse.settings) (parseState_stepWith move disk s)).trans
    (settings_advance disk _ s.parseState)

theorem sources_stepWith
    (move : Navigation → Parse → FileTable → Except NavigationError (Nat × Navigation)) (disk : Disk)
    (s : Session) : (s.stepWith move disk).2.sources = s.sources := by
  unfold stepWith
  dsimp only
  split
  · rfl
  · split <;> rfl

/-- Nothing that is asked of a session changes its rules. -/
theorem settings_serve (s : Session) (r : Request) :
    (s.serve r).parse.settings = s.parse.settings := by
  have hedit : ∀ offset, (s.onEdit offset).parse.settings = s.parse.settings := by
    intro offset
    unfold onEdit Parse.flushFrom
    dsimp only
    split
    · rfl
    · split <;> rfl
  cases r with
  | insert offset t => exact hedit offset
  | delete span => exact hedit span.start
  | edited offset => exact hedit offset
  | read disk upto => exact settings_advance disk upto s.parseState
  | nextMessage disk n => exact settings_stepWith _ disk s
  | nextFile disk n => exact settings_stepWith _ disk s
  | firstMessage disk => exact settings_stepWith _ disk s
  | jump disk start => exact Navigation.settings_jump disk start _
  | nextError disk n =>
    have hnext := settings_stepWith (fun nav p t => nav.step n false disk p t) disk s
    change (s.nextMessage disk n).2.parse.settings = _ at hnext
    show (s.nextError disk n).2.parse.settings = _
    unfold nextError
    rw [← hnext]
    generalize s.nextMessage disk n = r
    obtain ⟨e | m, s'⟩ := r
    · rfl
    · exact Navigation.settings_jump disk m.start _
  | _ => rfl

theorem settings_serveAll (s : Session) (rs : List Request) :
    (s.serveAll rs).parse.settings = s.parse.settings := by
  induction rs generalizing s with
  | nil => rfl
  | cons r rs ih => exact (ih (s.serve r)).trans (settings_serve s r)

section Serve

variable {D : Disk → Prop} {F : List String → Prop} {I : FileTable → Sources → Prop}
  (hI : KeptByGoing D F I) (hnil : F [])
include hI hnil

/-- What every change keeps, a request keeps. -/
theorem serve_of_changes {s : Session} (hF : ∀ r ∈ s.parse.settings.rules.rules, F r.formats)
    (hsound : s.parseState.Sound) (hs : I s.table s.sources) {r : Request} (hr : r.Within D)
    (hresource : ∀ sources, r = .resource sources → I s.table sources) :
    I (s.serve r).table (s.serve r).sources := by
  have hread : ∀ {disk} upto, D disk →
      I (Parse.advance disk upto s.parseState).2.table s.sources := fun upto hD =>
    Parse.advance_of_changes (hI.reading _).toKeptByAdding (hI.reading _).release _ hD hF
      upto (fun _ _ _ _ _ => (hI.reading _).dropFile) hsound hs
  have hdrop : ∀ {t} id, I t s.sources → I (t.dropFile id).2 s.sources :=
    fun id ht => (hI.reading _).dropFile ht id
  have hrelease : ∀ ms, I (Parse.releaseAll s.table ms) s.sources :=
    Parse.releaseAll_of_changes (I := (I · s.sources)) (hI.reading _).release hs
  have hedit : ∀ offset, I (s.onEdit offset).table s.sources := by
    intro offset
    unfold onEdit Parse.flushFrom
    dsimp only
    split
    · exact hs
    · exact hrelease _
  have hstep : ∀ move {disk}, D disk →
      I (s.stepWith move disk).2.table (s.stepWith move disk).2.sources := by
    intro move disk hD
    rw [sources_stepWith]
    have htable : (s.stepWith move disk).2.table = _ :=
      congrArg Parse.State.table (parseState_stepWith move disk s)
    rw [htable]
    exact hread _ hD
  cases r with
  | attach => exact hrelease _
  | clear => exact hrelease _
  | append t => exact hs
  | insert offset t => exact hedit offset
  | delete span => exact hedit span.start
  | edited offset => exact hedit offset
  | rewrite log => exact hs
  | read disk upto => exact hread upto hr
  | finish finished => exact hs
  | trim length =>
    exact FileTable.sweep_of_dropFile (I := (I · s.sources)) (fun _ => hdrop) (hrelease _)
  | nextMessage disk n => exact hstep _ hr
  | nextFile disk n => exact hstep _ hr
  | firstMessage disk => exact hstep _ hr
  | jump disk start =>
    exact Navigation.jump_of_changes disk (s := ⟨s.navigation, s.parse, s.table, s.sources⟩) hr hI hnil hF
      hs start
  | nextError disk n =>
    have hnext := hstep (fun nav p t => nav.step n false disk p t) hr
    have hsettings := settings_stepWith (fun nav p t => nav.step n false disk p t) disk s
    change I (s.nextMessage disk n).2.table (s.nextMessage disk n).2.sources at hnext
    change (s.nextMessage disk n).2.parse.settings = _ at hsettings
    show I (s.nextError disk n).2.table (s.nextError disk n).2.sources
    rw [← hsettings] at hF
    unfold nextError
    -- the jump begins where the step leads, if it does not fail
    revert hnext hF
    generalize s.nextMessage disk n = r
    obtain ⟨e | m, s'⟩ := r
    · exact fun _ h => h
    · exact fun hF h => Navigation.jump_of_changes disk
        (s := ⟨s'.navigation, s'.parse, s'.table, s'.sources⟩) hr hI hnil hF h m.start
  | flushFile disk spec =>
    exact FileTable.flush_of_dropFile (I := (I · s.sources)) (fun _ => hdrop) hs disk spec
  | dropFile id => exact hdrop id hs
  | sweep => exact FileTable.sweep_of_dropFile (I := (I · s.sources)) (fun _ => hdrop) hs
  | configure settings => exact hs
  | resource sources => exact hresource sources rfl

end Serve

end Session

end BuildLog
