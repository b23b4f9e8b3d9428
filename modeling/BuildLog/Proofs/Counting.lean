import BuildLog.Proofs.References
import BuildLog.Proofs.Runs

/-!
# Counting — the files of a parse are counted by its messages

The references that a table accounts for are those of the messages.  A reading takes one for each
message it finds, each way to drop messages releases those of the messages it drops, and a jump to
a message whose file was dropped takes a new one in place of the one it had.
-/

namespace BuildLog

open FileTable

/-! ## 1. Scans -/

section Scan

variable {rs : List Reference} {t u : FileTable}

/-- The places that a location is given are in the file that it was asked for. -/
theorem FileTable.Coherent.placesOf (ht : t.Coherent) {file : FileId} {l : TextLocation}
    {place : PlaceId} {endPlace : Option PlaceId}
    (h : BuildLog.placesOf t file l = .ok (place, endPlace, u)) :
    t.Extends u ∧ ∀ q ∈ place :: endPlace.toList, (u.place? q).map (·.file) = some file := by
  obtain ⟨v, hp, ⟨rfl, rfl⟩ | ⟨p, e, -, rfl, hp'⟩⟩ := placesOf_eq_ok h
  · obtain ⟨he, hq⟩ := ht.placeAt hp
    exact ⟨he, fun x hx => List.mem_singleton.mp hx ▸ hq⟩
  · -- with a second place made, the first is in the file still
    obtain ⟨he, hq⟩ := ht.placeAt hp
    obtain ⟨he', hq'⟩ := he.coherent.placeAt hp'
    refine ⟨he.trans he', fun x hx => ?_⟩
    rcases List.mem_cons.mp hx with rfl | hx
    · exact he'.map_file hq
    · cases Option.mem_toList.mp hx
      exact hq'

variable (cfg : ScanSettings) (disk : Disk)

theorem accounts_namedFile {s : ScanState} (h : s.table.Accounts rs) (rule : Rule)
    (filename : String) (offset : Nat) :
    (namedFile disk rule filename offset s).state.table.Accounts rs := by
  have hintern : ∀ {t : FileTable} (spec : FileSpec) (stack : DirectoryStack), t.Accounts rs →
      (t.intern disk spec stack rule.formats).2.Accounts rs :=
    fun _ _ ht => ht.extend (ht.coherent.intern _ _ _ _)
  unfold namedFile
  refine hintern _ _ ?_
  split
  · split
    · exact h.dropFile _
    · exact h
  · exact h

theorem accounts_chooseFile {s : ScanState} (h : s.table.Accounts rs) {rule : Rule} {f : Found}
    {offset : Nat} {previous : Option Inherited} {choice : FileChoice}
    (hc : chooseFile cfg disk rule f offset previous s = some choice) :
    choice.state.table.Accounts rs := by
  unfold chooseFile at hc
  split at hc
  · obtain ⟨name, -, rfl⟩ := Option.map_eq_some_iff.mp hc
    exact accounts_namedFile disk h rule _ offset
  · obtain ⟨p, -, rfl⟩ := Option.map_eq_some_iff.mp hc
    unfold inheritedFile
    split
    · exact h
    · exact h.extend (h.coherent.intern _ _ _ _)

/-- A message that is found takes a reference. -/
theorem accounts_message? {input : Array Char} {base : Nat} {previous : Option Inherited}
    {s s' : ScanState} (h : s.table.Accounts rs) {c : Candidate} {m : Message}
    (hm : c.message? cfg disk input base previous s = some (m, s')) :
    s'.table.Accounts (m.reference :: rs) := by
  unfold Candidate.message? at hm
  dsimp only at hm
  split at hm
  · cases hm
  · rename_i choice hchoice
    have hc := accounts_chooseFile cfg disk h hchoice
    split at hm
    · cases hm
    · rename_i place endPlace table hplaces
      cases hm
      obtain ⟨he, hfile⟩ := hc.coherent.placesOf hplaces
      exact (hc.extend he).retain (r := ⟨choice.file, place, endPlace⟩) hfile

theorem accounts_scanCandidates (text : Text) (input : Array Char) (base : Nat)
    {s : ScanState} (h : s.table.Accounts rs) (claimed : Nat) (previous : Option Inherited)
    (cs : List Candidate) :
    (scanCandidates cfg disk text input base claimed previous s cs).2.table.Accounts
      ((scanCandidates cfg disk text input base claimed previous s cs).1.map Message.reference
        ++ rs) := by
  induction cs generalizing claimed previous s rs with
  | nil => exact h
  | cons c cs ih =>
    rw [scanCandidates]
    split
    · exact ih h claimed previous
    · cases hm : c.message? cfg disk input base previous s with
      | none => exact ih h claimed previous
      | some r =>
        obtain ⟨m, s'⟩ := r
        -- the reference of the message is held while the rest is scanned
        have hrest := ih (accounts_message? cfg disk h hm) (text.lineEndAfter c.found.span.stop)
          (some (.ofMessage m))
        exact hrest.perm List.perm_middle

theorem accounts_scan (text : Text) (base : Nat) (previous : Option Inherited) {s : ScanState}
    (h : s.table.Accounts rs) :
    (scan cfg disk text base previous s).2.table.Accounts
      ((scan cfg disk text base previous s).1.map Message.reference ++ rs) :=
  accounts_scanCandidates cfg disk text text.toArray base h 0 previous _

end Scan

namespace Parse

/-! ## 2. Dropping messages -/

theorem accounts_releaseAll {t : FileTable} {rs : List Reference} (ms : List Message)
    (h : t.Accounts (ms.map Message.reference ++ rs)) : (releaseAll t ms).Accounts rs := by
  unfold releaseAll
  induction ms generalizing t with
  | nil => exact h
  | cons m ms ih => exact ih (Accounts.release h)

theorem few_releaseAll {t : FileTable} (h : t.Few) (ms : List Message) : (releaseAll t ms).Few := by
  unfold releaseAll
  induction ms generalizing t with
  | nil => exact h
  | cons m ms ih => exact ih ⟨h.1.modify _ _, h.2⟩

/-- The table accounts for the messages of the parse. -/
def State.Accounted (s : State) : Prop := s.table.Accounts (s.parse.messages.map Message.reference)

section Drop

variable {s : State} (h : s.Accounted)
include h

/-- Some messages are kept, and the references of the others are released. -/
theorem State.Accounted.keep (p : Message → Bool) :
    (releaseAll s.table (s.parse.messages.filter fun m => !p m)).Accounts
      ((s.parse.messages.filter p).map Message.reference) := by
  apply accounts_releaseAll
  rw [← List.map_append]
  exact h.perm ((List.filter_append_perm p _).symm.trans List.perm_append_comm |>.map _)

theorem State.Accounted.dropFrom (k : Nat) :
    (s.parse.dropFrom s.table k).2.Accounts
      ((s.parse.dropFrom s.table k).1.messages.map Message.reference) := by
  have hkeep := h.keep fun m => decide (m.start < k)
  simp only [← decide_not, Nat.not_lt] at hkeep
  exact hkeep

theorem State.Accounted.clear :
    (s.parse.clear s.table).2.Accounts ((s.parse.clear s.table).1.messages.map Message.reference) := by
  have hmessages : (s.parse.clear s.table).1.messages = [] := rfl
  apply accounts_releaseAll
  rw [hmessages, List.map_nil, List.append_nil]
  exact h

theorem State.Accounted.flush (k : Nat) : (s.flush k).Accounted := by
  unfold State.Accounted State.flush flushFrom
  dsimp only
  split
  · exact h
  · have hdrop := h.dropFrom (doubtfulFrom k s.parse.messages.reverse)
    split <;> exact hdrop

/-- The messages before an offset are dropped, and the others renumbered. -/
theorem State.Accounted.discard (k : Nat) :
    (s.parse.discardBefore s.table k).2.2.Accounts
      (((s.parse.discardBefore s.table k).2.1.shiftBack k).messages.map Message.reference) := by
  have hkeep := h.keep fun m => decide (k ≤ m.start)
  simp only [← decide_not, Nat.not_le] at hkeep
  -- those that are left begin at the offset or behind it, and keep their references
  have hmessages : ((s.parse.discardBefore s.table k).2.1.shiftBack k).messages.map Message.reference
      = (s.parse.messages.filter (k ≤ ·.start)).map Message.reference := by
    show (((s.parse.messages.filter (k ≤ ·.start)).filter (k ≤ ·.start)).map
      (·.shiftBack k)).map Message.reference = _
    rw [List.filter_filter, List.map_map]
    simp only [Bool.and_self]
    rfl
  rw [hmessages]
  exact hkeep

/-! ## 3. Reading -/

theorem State.Accounted.settle : (settle s).Accounted := h

theorem State.Accounted.snap : (snap s).Accounted := by
  unfold Parse.snap
  split
  · exact h.dropFrom _
  · exact h

theorem State.Accounted.readText (disk : Disk) (text : Text) (certain : Bool) :
    (readText disk text certain s).2.Accounted := by
  have hscan := accounts_scan s.parse.settings disk text s.parse.cursor
    ((s.parse.messages.filter (·.start < s.parse.cursor)).getLast?.map .ofMessage)
    (s := s.scanState text) (h.dropFrom s.parse.cursor)
  -- what is found comes behind what is kept
  have hperm := hscan.perm List.perm_append_comm
  rw [← List.map_append] at hperm
  exact hperm

theorem State.Accounted.advance (disk : Disk) (upto : Nat) :
    (advance disk upto s).2.Accounted := by
  rw [advance_eq]
  split
  · exact h.settle.snap
  · exact h.settle.snap.readText disk _ _

end Drop

/-! ## 4. Jumps -/

section Jump

variable (disk : Disk)

theorem extends_arrive {s : Navigation.JumpState} (h : s.table.Coherent) (start : Nat)
    (file : FileId) (place : PlaceId) (position : Nat) (rangeEnd : Option Nat) :
    s.table.Extends (Navigation.arrive start file place position rangeEnd s).2.table := by
  rcases Navigation.table_arrive start file place position rangeEnd s with heq | hm
  · rw [heq]
    exact .refl h
  · exact h.markVisited hm

theorem extends_jumpTo {s : Navigation.JumpState} (h : s.table.Coherent) (start : Nat)
    (file : FileId) (place : PlaceId) (endPlace : Option PlaceId) :
    s.table.Extends (Navigation.jumpTo disk start file place endPlace s).2.table := by
  have h₁ := h.locate disk s.sources place s.nav.settings.screenColumns
  rcases Navigation.jumpTo_cases disk start file place endPlace s with
    ⟨e, -, heq⟩ | ⟨position, rangeEnd, t, sources, -, hsecond, heq⟩
  · rw [heq]
    exact h₁
  · have ht : s.table.Extends t := by
      rcases hsecond with ⟨-, h₂⟩ | ⟨e, -, -, h₂⟩
      · obtain ⟨rfl, rfl⟩ := Prod.mk.inj h₂
        exact h₁
      · obtain ⟨rfl, rfl⟩ := Prod.mk.inj h₂
        exact h₁.trans (h₁.coherent.locate disk _ e s.nav.settings.screenColumns)
    rw [heq]
    exact ht.trans (extends_arrive (s := { s with table := t, sources }) ht.coherent start file
      place position rangeEnd)

/-- New entries are made for a message; if that works out, its file is counted once more. -/
theorem reintern_spec {t : FileTable} (ht : t.Coherent) (rules : RuleSet) (m : Message) :
    match Navigation.reintern disk rules t m with
    | (.error _, u) => t.Extends u
    | (.ok (file, place, endPlace), v) => ∃ u, t.Extends u ∧ v = u.retain file
        ∧ ∀ q ∈ place :: endPlace.toList, (u.place? q).map (·.file) = some file := by
  have h₁ := ht.intern disk m.location.spec .root (((rules.lookup m.rule).map (·.formats)).getD [])
  rcases Navigation.reintern_cases disk rules t m with
    ⟨e, -, heq⟩ | ⟨place, u, hp, ⟨p, e, -, -, heq⟩ | ⟨endPlace, v, hend, heq⟩⟩
  · rw [heq]
    exact h₁
  · rw [heq]
    exact h₁.trans (h₁.coherent.placeAt hp).1
  · rw [heq]
    obtain ⟨h₂, hplace⟩ := h₁.coherent.placeAt hp
    rcases hend with ⟨-, rfl, rfl⟩ | ⟨p, q, -, rfl, hq⟩
    · exact ⟨v, h₁.trans h₂, rfl, fun q hq => List.mem_singleton.mp hq ▸ hplace⟩
    · obtain ⟨h₃, hend⟩ := h₂.coherent.placeAt hq
      refine ⟨v, (h₁.trans h₂).trans h₃, rfl, fun q' hq' => ?_⟩
      rcases List.mem_cons.mp hq' with rfl | hq'
      · exact h₃.map_file hplace
      · cases Option.mem_toList.mp hq'
        exact hend

/-- Among messages that begin at different offsets, one is pointed at other entries. -/
theorem reference_relocate {p : Parse} {start : Nat} {m : Message}
    (hord : p.messages.Pairwise fun m n => m.start < n.start)
    (hm : p.messageAtStart? start = some m) :
    ∃ before after, p.messages.map Message.reference = before ++ m.reference :: after
      ∧ ∀ file place endPlace, (p.relocate start file place endPlace).messages.map Message.reference
        = before ++ ⟨file, place, endPlace⟩ :: after := by
  obtain ⟨hstart, ms, ns, hsplit, -⟩ := List.find?_eq_some_iff_append.mp hm
  have hstart : m.start = start := by simpa using hstart
  rw [hsplit, List.pairwise_append, List.pairwise_cons] at hord
  obtain ⟨-, ⟨hafter, -⟩, hbefore⟩ := hord
  refine ⟨ms.map Message.reference, ns.map Message.reference, ?_, fun file place endPlace => ?_⟩
  · rw [hsplit, List.map_append, List.map_cons]
  · -- no other message begins there, so the others stay as they are
    have hstay : ∀ ks : List Message, (∀ k ∈ ks, k.start ≠ start) →
        (ks.map fun k => if k.start = start then { k with file, place, endPlace } else k) = ks := by
      intro ks hks
      conv_rhs => rw [← List.map_id ks]
      exact List.map_congr_left fun k hk => if_neg (hks k hk)
    have hms : ∀ k ∈ ms, k.start ≠ start := by
      intro k hk
      have := hbefore k hk m List.mem_cons_self
      omega
    have hns : ∀ k ∈ ns, k.start ≠ start := by
      intro k hk
      have := hafter k hk
      omega
    show (p.messages.map _).map Message.reference = _
    rw [hsplit, List.map_append, List.map_cons, if_pos hstart, hstay ms hms, hstay ns hns,
      List.map_append, List.map_cons]
    rfl

/-- A jump to a message whose file was dropped exchanges its reference for one to the new entry. -/
theorem State.Accounted.jump {s : State} (h : s.Accounted)
    (hord : s.parse.messages.Pairwise fun m n => m.start < n.start) (start : Nat) (nav : Navigation)
    (sources : Sources) : (s.act (.jump disk start nav sources)).Accounted := by
  -- going to places found or made leaves the messages alone, and adds to the table at most
  have hgo : ∀ (p : Parse) (t : FileTable) (file : FileId) (place : PlaceId)
      (endPlace : Option PlaceId), t.Accounts (p.messages.map Message.reference) →
      (Navigation.jumpTo disk start file place endPlace ⟨nav, p, t, sources⟩).2.table.Accounts
        ((Navigation.jumpTo disk start file place endPlace ⟨nav, p, t, sources⟩).2.parse.messages.map
          Message.reference) := by
    intro p t file place endPlace ht
    rw [(jumpTo_keepsParse disk start file place endPlace (s := ⟨nav, p, t, sources⟩)
      ht.coherent.files).1]
    exact ht.extend (extends_jumpTo disk (s := ⟨nav, p, t, sources⟩) ht.coherent start file place
      endPlace)
  unfold State.Accounted State.act Navigation.jump
  dsimp only
  cases hm : s.parse.messageAtStart? start with
  | none => exact h
  | some m =>
    dsimp only
    by_cases hlive : (s.table.place? m.place).isSome
    · rw [if_pos hlive]
      exact hgo s.parse s.table m.file m.place m.endPlace h
    · rw [if_neg hlive]
      rw [Bool.not_eq_true, Option.isSome_eq_false_iff, Option.isNone_iff_eq_none] at hlive
      have hre := reintern_spec disk h.coherent s.parse.settings.rules m
      revert hre
      generalize Navigation.reintern disk s.parse.settings.rules s.table m = r
      obtain ⟨e | ⟨file, place, endPlace⟩, v⟩ := r
      · exact fun hre => h.extend hre
      · rintro ⟨u, hu, rfl, hplaces⟩
        obtain ⟨before, after, hold, hnew⟩ := reference_relocate hord hm
        have hfirst : s.table.Accounts (m.reference :: (before ++ after)) := by
          refine Accounts.perm ?_ List.perm_middle
          rw [← hold]
          exact h
        -- the place is gone, so the file is, and no entry counts the message
        have hrest : s.table.Accounts (before ++ after) := by
          refine hfirst.forget fun hfew => ?_
          have hplaced := hfirst.placed hfew m.reference List.mem_cons_self m.place
            List.mem_cons_self
          rwa [hlive, Option.map_none, eq_comm, Option.map_eq_none_iff] at hplaced
        have hretain := (hrest.extend hu).retain (r := ⟨file, place, endPlace⟩) hplaces
        refine hgo _ _ file place endPlace ?_
        rw [hnew]
        exact hretain.perm List.perm_middle.symm

end Jump

end Parse

end BuildLog
