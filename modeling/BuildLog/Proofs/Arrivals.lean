import BuildLog.Proofs.Locating
import BuildLog.Proofs.Letters

/-!
# Arrivals — where a jump leads

A jump that works out leads to a marker of the message's place, in the open buffer of the message's
file, and the place is visited from then on.  A jump that fails leaves the message that was gone to
last and all marks of visits as they were.
-/

namespace BuildLog

namespace FileTable

/-! ## 1. Markers of places -/

/-- The marker of a place is in a buffer at an offset. -/
def MarkedAt (t : FileTable) (s : Sources) (q : PlaceId) (b : BufferId) (n : Nat) : Prop :=
  ∃ p k, t.place? q = some p ∧ p.marker = some k ∧ s.markers.lookup k = some ⟨b, n⟩

section

variable {t : FileTable} {s : Sources}

/-- The marker of a place is in the text of the buffer of its file, which is open at the path of the
file. -/
theorem Linked.of_markedAt (hs : s.Sound) (h : t.Linked s) {q : PlaceId} {b : BufferId} {n : Nat}
    (hq : t.MarkedAt s q b n) {file : FileId} (hfile : (t.place? q).map (·.file) = some file) :
    ∃ f buffer, t.file? file = some f ∧ f.buffer = some b ∧ s.buffer? b = some buffer
      ∧ buffer.path.same f.path ∧ n ≤ buffer.text.length := by
  obtain ⟨p, k, hp, hk, hlookup⟩ := hq
  rw [hp, Option.map_some, Option.some.injEq] at hfile
  have hmem := mem_of_lookup hlookup
  obtain ⟨f, hf, hb⟩ := (h.marker q p k hp hk).2 _ hmem
  obtain ⟨buffer, hbuffer, hle⟩ := hs.within _ hmem
  exact ⟨f, buffer, hfile ▸ hf, hb, hbuffer, (h.buffer _ f b hf hb).2 buffer hbuffer, hle⟩

theorem markedAt_of_locate {disk : Disk} {q : PlaceId} {screen : Bool} {n : Nat}
    (h : (t.locate disk s q screen).1 = .ok n) :
    ∃ b, (t.locate disk s q screen).2.1.MarkedAt (t.locate disk s q screen).2.2 q b n := by
  obtain ⟨p, hp, hposition⟩ := locate_eq_ok h
  obtain ⟨k, hk, hn⟩ := Option.bind_eq_some_iff.mp hposition
  obtain ⟨b, hb, -⟩ := Sources.position?_eq_some_iff.mp hn
  exact ⟨b, p, k, hp, hk, hb⟩

theorem MarkedAt.markVisited {u : FileTable} {q r : PlaceId} {b : BufferId} {n : Nat}
    (h : t.MarkedAt s r b n) (hvisit : t.markVisited q = .ok u) : u.MarkedAt s r b n := by
  obtain ⟨p, k, hp, hk, hlookup⟩ := h
  have hplace := place?_markVisited hvisit r
  rw [hp] at hplace
  split at hplace
  · exact ⟨_, k, hplace, hk, hlookup⟩
  · exact ⟨p, k, hplace, hk, hlookup⟩

end

section

variable {t : FileTable} {s : Sources} (ht : t.Coherent) (hs : s.Sound) (disk : Disk) (q : PlaceId)
  (screen : Bool)
include ht hs

theorem Linked.joined (h : t.Linked s) : t.Joined s :=
  ⟨ht, hs.orderly, fun _ _ k _ _ => hs.moored k, h⟩

/-- A marker stays where it is when someone goes to another place. -/
theorem MarkedAt.locate (hl : t.Linked s) {r : PlaceId} {b : BufferId} {n : Nat}
    (h : t.MarkedAt s r b n) :
    (t.locate disk s q screen).2.1.MarkedAt (t.locate disk s q screen).2.2 r b n := by
  obtain ⟨p, k, hp, hk, hlookup⟩ := h
  rcases (hl.joined ht hs).locate_cases disk q screen with
    ⟨_, _, -, hlocated⟩ | ⟨_, -, htable, hsources⟩
  · have hopen := hs.moored k _ (mem_of_lookup hlookup)
    have hkept := hlocated.kept r _ (liveMarker?_eq_some.mpr ⟨p, hp, hk, hlookup, hopen⟩)
    obtain ⟨p', hp', hk', hlookup', -⟩ := liveMarker?_eq_some.mp hkept
    exact ⟨p', k, hp', hk', hlookup'⟩
  · rw [htable, hsources]
    exact ⟨p, k, hp, hk, hlookup⟩

theorem Coherent.sound_locate : (t.locate disk s q screen).2.2.Sound := by
  refine ht.locate_of_steps (I := fun _ s => s.Sound) q screen (fun id f _ _ => ?_)
    (fun _ _ _ _ _ _ _ _ _ hoffset hI => ?_) hs
  · have hopen := (t.openOrAsk_of_steps disk (J := Sources.Sound) (fun _ p hJ => hJ.openFile disk p)
      (fun _ name p hJ => hJ.ask name p) hs f.spec.filename (t.lookedFor disk f)).1
    exact ⟨fun _ => hopen, fun _ _ _ => hopen⟩
  · obtain ⟨buffer, hbuffer, hle⟩ := Sources.offset?_le hoffset
    exact hI.addMarker hbuffer hle

theorem Linked.locate (h : t.Linked s) : (t.locate disk s q screen).2.2.Sound
    ∧ (t.locate disk s q screen).2.1.Linked (t.locate disk s q screen).2.2 :=
  ⟨ht.sound_locate hs disk q screen, ((h.joined ht hs).locate disk q screen).linked⟩

end

/-- Whatever is done to a table, the markers of its places are in the buffers of their files. -/
theorem keptByGoing_linked (D : Disk → Prop) (F : List String → Prop) :
    KeptByGoing D F fun t s => t.Coherent ∧ s.Sound ∧ t.Linked s :=
  have hkept := keptByGoing_coherent D F
  { reading := fun s =>
      { intern := fun ⟨ht, hs, h⟩ disk hD spec stack formats hF =>
          ⟨(hkept.reading s).intern ht hD spec stack hF, hs,
            h.of_unopened (ht.unopened_intern disk spec stack formats)⟩
        placeAt := fun ⟨ht, hs, h⟩ hplace =>
          ⟨(hkept.reading s).placeAt ht hplace, hs, h.of_unopened (ht.unopened_placeAt hplace)⟩
        retain := fun ⟨ht, hs, h⟩ id => ⟨(hkept.reading s).retain ht id, hs,
          h.of_unopened (ht.unopened_modify id (fun _ => rfl) (fun _ => rfl) fun _ => rfl)⟩
        dropFile := fun ⟨ht, hs, h⟩ id =>
          ⟨(hkept.reading s).dropFile ht id, hs, h.of_unopened (ht.unopened_dropFile id)⟩
        release := fun ⟨ht, hs, h⟩ id => ⟨(hkept.reading s).release ht id, hs,
          h.of_unopened (ht.unopened_modify id (fun _ => rfl) (fun _ => rfl) fun _ => rfl)⟩ }
    locate := fun ⟨ht, hs, h⟩ disk hD q screen =>
      ⟨hkept.locate ht hD q screen, h.locate ht hs disk q screen⟩
    markVisited := fun ⟨ht, hs, h⟩ hvisit =>
      ⟨(ht.markVisited hvisit).coherent, hs,
        h.of_unopened (ht.unopened_markVisited hvisit)⟩ }

/-! ## 2. Marks of visits -/

/-- The places of `t` are marked in `u` as they were, and new ones are not marked. -/
def SameMarks (t u : FileTable) : Prop := ∀ q,
  (u.place? q).map (·.visited) = (t.place? q).map (·.visited)
    ∨ t.place? q = none ∧ (u.place? q).map (·.visited) = some false

theorem SameMarks.of_visited {t u v : FileTable} (h : t.SameMarks u)
    (hv : ∀ q, (v.place? q).map (·.visited) = (u.place? q).map (·.visited)) : t.SameMarks v := by
  intro q
  rw [hv]
  exact h q

theorem keptByAdding_sameMarks (D : Disk → Prop) (F : List String → Prop) (t : FileTable) :
    KeptByAdding D F fun u => u.Coherent ∧ t.SameMarks u where
  intern h disk _ spec stack formats _ :=
    ⟨(h.1.intern disk spec stack formats).coherent,
      h.2.of_visited fun q => by rw [place?, places_intern]; rfl⟩
  placeAt := by
    rintro u v file p q ⟨hu, h⟩ hplace
    refine ⟨(hu.placeAt hplace).1.coherent, fun r => ?_⟩
    rcases hu.place?_placeAt hplace r with heq | ⟨-, hnone, hnew⟩
    · rw [heq]
      exact h r
    · rw [hnew]
      -- a place that was there is there still
      rcases h r with hold | ⟨hold, -⟩
      · rw [hnone, Option.map_none, eq_comm, Option.map_eq_none_iff] at hold
        exact .inr ⟨hold, rfl⟩
      · exact .inr ⟨hold, rfl⟩
  retain h id := ⟨Accounts.coherent_modify h.1 id fun _ => rfl, h.2.of_visited fun _ => rfl⟩

end FileTable

/-! ## 3. Jumps -/

namespace Navigation

open FileTable

/-- A message was gone to: it is the current one and its place is visited, and the jump leads to the
marker of its place, and to that of the end of its range if there is one, in the buffer of its
file. -/
structure Arrived (s : JumpState) (m : Message) (j : Jump) : Prop where
  message : j.message = m.start
  current : s.nav.current = some m.start
  visited : (s.table.place? m.place).map (·.visited) = some true
  file : ∃ f, s.table.file? m.file = some f ∧ f.path = j.path ∧ f.buffer = some j.buffer
  buffer : ∃ b, s.sources.buffer? j.buffer = some b ∧ b.path.same j.path
    ∧ j.position ≤ b.text.length ∧ ∀ n ∈ j.rangeEnd, n ≤ b.text.length
  position : s.table.MarkedAt s.sources m.place j.buffer j.position
  rangeEnd : ∀ n ∈ j.rangeEnd, ∃ q ∈ m.endPlace, s.table.MarkedAt s.sources q j.buffer n

section

variable {s : JumpState} {m : Message} (hs : s.sources.Sound) (hl : s.table.Linked s.sources)
  (hplaces : ∀ q ∈ m.reference.places, (s.table.place? q).map (·.file) = some m.file)
include hs hl hplaces

theorem arrived_arrive {position : Nat} {rangeEnd : Option Nat}
    (hposition : ∃ b, s.table.MarkedAt s.sources m.place b position)
    (hend : ∀ n ∈ rangeEnd, ∃ q ∈ m.endPlace, ∃ b, s.table.MarkedAt s.sources q b n) :
    let r := arrive m.start m.file m.place position rangeEnd s
    ∃ j, r.1 = .ok j ∧ Arrived r.2 m j := by
  obtain ⟨b, hb⟩ := hposition
  obtain ⟨f, buffer, hf, hfb, hbuffer, hpath, hle⟩ :=
    hl.of_markedAt hs hb (hplaces m.place List.mem_cons_self)
  -- all markers of the file are in its buffer
  have hend' : ∀ n ∈ rangeEnd, n ≤ buffer.text.length
      ∧ ∃ q ∈ m.endPlace, s.table.MarkedAt s.sources q b n := by
    intro n hn
    obtain ⟨q, hq, c, hc⟩ := hend n hn
    obtain ⟨f', buffer', hf', hfc, hbuffer', -, hle'⟩ :=
      hl.of_markedAt hs hc (hplaces q (List.mem_cons_of_mem _ (Option.mem_toList.mpr hq)))
    rw [hf] at hf'
    cases hf'
    rw [hfb] at hfc
    cases hfc
    rw [hbuffer] at hbuffer'
    cases hbuffer'
    exact ⟨hle', q, hq, hc⟩
  obtain ⟨p, k, hp, -⟩ := id hb
  obtain ⟨t, hvisit⟩ : ∃ t, s.table.markVisited m.place = .ok t := by
    unfold FileTable.markVisited
    rw [hp]
    exact ⟨_, rfl⟩
  have hfile : t.file? m.file = some f ∧ (t.place? m.place).map (·.visited) = some true := by
    rw [FileTable.place?_markVisited hvisit, if_pos rfl, hp]
    rw [FileTable.markVisited_eq_ok hvisit]
    exact ⟨hf, rfl⟩
  unfold arrive
  rw [hvisit]
  dsimp only
  rw [hfile.1]
  dsimp only
  rw [hfb]
  exact ⟨_, rfl, rfl, rfl, hfile.2, ⟨f, hfile.1, rfl, hfb⟩,
    ⟨buffer, hbuffer, hpath, hle, fun n hn => (hend' n hn).1⟩, hb.markVisited hvisit, fun n hn =>
      have ⟨q, hq, hc⟩ := (hend' n hn).2
      ⟨q, hq, hc.markVisited hvisit⟩⟩

/-- A jump to the places of a message arrives there, or leaves all marks as they were. -/
theorem jumpTo_arrives (ht : s.table.Coherent) (disk : Disk) :
    let r := jumpTo disk m.start m.file m.place m.endPlace s
    (∃ j, r.1 = .ok j ∧ Arrived r.2 m j)
      ∨ ∃ e, r.1 = .error e ∧ r.2.nav = s.nav
        ∧ ∀ q, (r.2.table.place? q).map (·.visited) = (s.table.place? q).map (·.visited) := by
  intro r
  rcases jumpTo_cases disk m.start m.file m.place m.endPlace s with
    ⟨e, -, heq⟩ | ⟨position, rangeEnd, t, sources, hposition, hsecond, heq⟩
  · rw [show r = _ from heq]
    exact .inr ⟨_, rfl, rfl, visited_locate s.table disk s.sources m.place _⟩
  · rw [show r = _ from heq]
    refine .inl ?_
    have he := ht.locate disk s.sources m.place s.nav.settings.screenColumns
    obtain ⟨hs₁, hl₁⟩ := hl.locate ht hs disk m.place s.nav.settings.screenColumns
    have hplaces₁ := fun q hq => he.map_file (hplaces q hq)
    obtain ⟨b, hb⟩ := markedAt_of_locate hposition
    rcases hsecond with ⟨rfl, h⟩ | ⟨q, hq, rfl, h⟩
    · obtain ⟨rfl, rfl⟩ := Prod.mk.inj h
      exact arrived_arrive (s := ⟨s.nav, s.parse, _, _⟩) hs₁ hl₁ hplaces₁ ⟨b, hb⟩ nofun
    · -- the marker of the first place stays when the second is gone to
      obtain ⟨rfl, rfl⟩ := Prod.mk.inj h
      have he₂ := he.coherent.locate disk (s.table.locate disk s.sources m.place
        s.nav.settings.screenColumns).2.2 q s.nav.settings.screenColumns
      obtain ⟨hs₂, hl₂⟩ := hl₁.locate he.coherent hs₁ disk q s.nav.settings.screenColumns
      have hb₂ := hb.locate he.coherent hs₁ disk q s.nav.settings.screenColumns hl₁
      refine arrived_arrive (s := ⟨s.nav, s.parse, _, _⟩) hs₂ hl₂
        (fun q' hq' => he₂.map_file (hplaces₁ q' hq')) ⟨b, hb₂⟩ fun n hn => ⟨q, hq, ?_⟩
      refine markedAt_of_locate ?_
      revert hn
      generalize (FileTable.locate _ disk _ q s.nav.settings.screenColumns).1 = found
      cases found with
      | error e => exact nofun
      | ok n' => exact fun hn => congrArg Except.ok (Option.some.inj hn)

end

/-- A jump moves no message, and leaves what each says as it was. -/
theorem findings_jump (disk : Disk) (start : Nat) (s : JumpState) :
    (jump disk start s).2.parse.messages.map Message.finding
      = s.parse.messages.map Message.finding := by
  rcases parse_jump disk start s with h | ⟨file, place, endPlace, h⟩
  · rw [h]
  · rw [h]
    exact Parse.findings_relocate start file place endPlace s.parse

/-- A jump arrives at the message that begins at an offset, or leaves all marks as they were. -/
theorem jump_arrives {s : JumpState} (ht : s.table.Coherent) (hs : s.sources.Sound)
    (hl : s.table.Linked s.sources)
    (hplaced : ∀ m ∈ s.parse.messages, s.table.Placed m.reference) (disk : Disk) (start : Nat) :
    let r := jump disk start s
    (∃ j, r.1 = .ok j ∧ ∃ m ∈ r.2.parse.messages, m.start = start ∧ Arrived r.2 m j)
      ∨ ∃ e, r.1 = .error e ∧ r.2.nav = s.nav ∧ s.table.SameMarks r.2.table := by
  unfold jump
  cases hm : s.parse.messageAtStart? start with
  | none => exact .inr ⟨_, rfl, rfl, fun _ => .inl rfl⟩
  | some m =>
    have hmem : m ∈ s.parse.messages := List.mem_of_find?_eq_some hm
    obtain rfl : m.start = start := by simpa using List.find?_some hm
    dsimp only
    split
    · -- the place is there, so the file is, and all places of the message are in it
      rename_i hlive
      have hfile : (s.table.file? m.file).map (fun _ => m.file) = some m.file := by
        have hplace := hplaced m hmem m.place List.mem_cons_self
        obtain ⟨p, hp⟩ := Option.isSome_iff_exists.mp hlive
        rw [hp, Option.map_some, eq_comm, Option.map_eq_some_iff] at hplace
        obtain ⟨f, hf, -⟩ := hplace
        rw [show s.table.file? m.file = some f from hf]
        rfl
      have hplaces : ∀ q ∈ m.reference.places, (s.table.place? q).map (·.file) = some m.file :=
        fun q hq => (hplaced m hmem q hq).trans hfile
      rcases jumpTo_arrives hs hl hplaces ht disk with ⟨j, hj, harrived⟩ | ⟨e, he, hnav, hmarks⟩
      · refine .inl ⟨j, hj, m, ?_, rfl, harrived⟩
        rw [parse_jumpTo]
        exact hmem
      · exact .inr ⟨e, he, hnav, fun q => .inl (hmarks q)⟩
    · have hre := reintern_of_changes (D := fun _ => True) (F := fun _ => True) disk trivial
        ((keptByGoing_linked _ _).reading s.sources).toKeptByAdding s.parse.settings.rules trivial
        (fun _ _ => trivial) ⟨ht, hs, hl⟩ m
      have hmarks := reintern_of_changes (D := fun _ => True) (F := fun _ => True) disk trivial
        (keptByAdding_sameMarks _ _ s.table) s.parse.settings.rules trivial (fun _ _ => trivial)
        ⟨ht, fun _ => .inl rfl⟩ m
      have hspec := Parse.reintern_spec disk ht s.parse.settings.rules m
      revert hre hmarks hspec
      generalize reintern disk s.parse.settings.rules s.table m = r
      obtain ⟨e | ⟨file, place, endPlace⟩, v⟩ := r
      · exact fun _ hmarks _ => .inr ⟨_, rfl, rfl, hmarks.2⟩
      · rintro ⟨hv, -, hlv⟩ ⟨-, hmarks⟩ ⟨u, -, rfl, hplaces⟩
        -- it is the message with its new places that is jumped to
        rcases jumpTo_arrives (m := { m with file, place, endPlace })
          (s := ⟨s.nav, s.parse.relocate m.start file place endPlace, u.retain file, s.sources⟩)
          hs hlv hplaces hv disk with ⟨j, hj, harrived⟩ | ⟨e, he, hnav, hsame⟩
        · refine .inl ⟨j, hj, { m with file, place, endPlace }, ?_, rfl, harrived⟩
          dsimp only
          rw [parse_jumpTo]
          exact List.mem_map.mpr ⟨m, hmem, if_pos rfl⟩
        · exact .inr ⟨e, he, hnav, hmarks.of_visited hsame⟩

end Navigation

/-! ## 4. Sessions -/

namespace Session

open FileTable

def jumpState (s : Session) : Navigation.JumpState := ⟨s.navigation, s.parse, s.table, s.sources⟩

/-- What others do to the buffers during a run is a change of those that there are. -/
def Tended (s : Session) : List Request → Prop
  | [] => True
  | r :: rs =>
    (∀ sources, r = .resource sources → ∃ c, sources = s.sources.change c) ∧ (s.serve r).Tended rs

theorem linked_serveAll {s : Session} (h : s.parseState.Known)
    (hl : s.table.Coherent ∧ s.sources.Sound ∧ s.table.Linked s.sources) {rs : List Request}
    (hrs : s.Tended rs) : (s.serveAll rs).table.Coherent ∧ (s.serveAll rs).sources.Sound
      ∧ (s.serveAll rs).table.Linked (s.serveAll rs).sources := by
  induction rs generalizing s with
  | nil => exact hl
  | cons r rs ih =>
    refine ih (known_serve h r) ?_ hrs.2
    refine serve_of_changes (I := fun t s => t.Coherent ∧ s.Sound ∧ t.Linked s)
      (keptByGoing_linked (fun _ => True) fun _ => True) trivial (fun _ _ => trivial)
      h.balanced.sound hl (by cases r <;> trivial) fun sources hsources => ?_
    obtain ⟨c, rfl⟩ := hrs.1 sources hsources
    exact ⟨hl.1, hl.2.1.change c, hl.2.2.of_later (hl.2.1.orderly.later_change c)⟩

/-- Whatever was asked of a session, and whatever others did to its buffers, if no slot was emptied
2 ^ 32 times: a jump to an offset leads to the message there, to the marker of its place and, if there
is one, to that of the end of its range, in the open buffer of its file; or else it fails, and leaves
the current message and the marks of all places as they were.  What the messages say never changes. -/
theorem jump_serveAll (cfg : ScanSettings) (p : Option DirectoryPattern) (workingDir : Path)
    (searchPath : List (Option Path)) (nav : NavigationSettings) (tabWidth : Nat)
    (guide : Option Guide) (log : Transcript) (rs : List Request) (disk : Disk) (offset : Nat) :
    let first := start cfg { pattern := p } { workingDir, searchPath } nav { tabWidth, guide } log
    let s := first.serveAll rs
    let r := s.jump disk offset
    first.Tended rs → r.2.table.Few →
      ((∃ j, r.1 = .ok j
          ∧ ∃ m ∈ r.2.parse.messages, m.start = offset ∧ Navigation.Arrived r.2.jumpState m j)
        ∨ ∃ e, r.1 = .error e ∧ r.2.navigation = s.navigation ∧ s.table.SameMarks r.2.table)
      ∧ r.2.parse.messages.map Message.finding = s.parse.messages.map Message.finding := by
  intro first s r htended hfew
  have hstart := known_start cfg p workingDir searchPath nav { tabWidth, guide } log
  have h : s.parseState.Known := known_serveAll hstart rs
  obtain ⟨ht, hs, hl⟩ := linked_serveAll hstart ⟨coherent_empty searchPath workingDir,
    Sources.sound_empty tabWidth guide, linked_empty searchPath workingDir _⟩ htended
  have hfew' : s.table.Few := hfew.of_grows (becomes_serve h (.jump disk offset)).grows
  refine ⟨?_, Navigation.findings_jump disk offset s.jumpState⟩
  exact Navigation.jump_arrives (s := s.jumpState) ht hs hl
    (fun m hm => h.balanced.accounted.placed hfew' m.reference (List.mem_map_of_mem hm)) disk offset

/-- A log with one line. -/
def oneLine : Session :=
  start .capitals { pattern := none } { workingDir := ⟨['/']⟩ } {} {} (.ofText "A\n".toList)

/-- The file of the line is opened by others, and its entry is dropped. -/
def opening : List Request :=
  [.resource (oneLine.sources.change (.openText ⟨"/A".toList⟩ "int\n".toList)), .read .empty 2,
    .flushFile .empty ⟨"A", none⟩]

/-- A jump makes a new entry and arrives. -/
theorem jump_serveAll_opening :
    let r := (oneLine.serveAll opening).jump .empty 0
    oneLine.Tended opening ∧ r.2.table.Few ∧ ∃ j, r.1 = .ok j
      ∧ ∃ m ∈ r.2.parse.messages, m.start = 0 ∧ Navigation.Arrived r.2.jumpState m j := by
  intro r
  have htended : oneLine.Tended opening :=
    ⟨fun sources h => ⟨_, (Request.resource.inj h).symm⟩, nofun, nofun, trivial⟩
  have hfew : r.2.table.Few := by decide +kernel
  have hok : ∀ e, r.1 ≠ .error e := by
    have hsome : r.1.toOption.isSome = true := by decide +kernel
    intro e he
    rw [he] at hsome
    cases hsome
  have hjump := (jump_serveAll .capitals none ⟨['/']⟩ [none] {} Text.defaultTabWidth none
    (.ofText "A\n".toList) opening .empty 0 htended hfew).1
  exact ⟨htended, hfew, hjump.resolve_right fun ⟨e, he, _⟩ => hok e he⟩

end Session

end BuildLog
