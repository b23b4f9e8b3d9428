import BuildLog.Proofs.Lasting
import BuildLog.Proofs.Letters

/-!
# Marks — what a reading does to the places that were gone to

A reading goes to no place.  So a message that is read again refers to the place it referred to
before, with the same mark, just if its file is there still; and a file that is there goes only if
there is a message whose rule says that its file has changed.
-/

namespace BuildLog

namespace FileTable

/-! ## 1. No new marks -/

/-- Every place of `u` that was gone to is one of `t` that was. -/
def NoNewMarks (t u : FileTable) : Prop :=
  ∀ q x, u.place? q = some x → x.visited → ∃ p, t.place? q = some p ∧ p.visited

theorem noNewMarks_of_visited {t u v : FileTable} (h : t.NoNewMarks u)
    (hv : ∀ q, (v.place? q).map (·.visited) = (u.place? q).map (·.visited)) : t.NoNewMarks v := by
  intro q x hx hvisited
  have heq := hv q
  rw [hx, Option.map_some, eq_comm, Option.map_eq_some_iff] at heq
  obtain ⟨y, hy, hyx⟩ := heq
  exact h q y hy (hyx.trans hvisited)

theorem NoNewMarks.placeAt {t u v : FileTable} (h : t.NoNewMarks u) (hu : u.Coherent)
    {file : FileId} {p : Position} {q : PlaceId} (hplace : u.placeAt file p = .ok (q, v)) :
    t.NoNewMarks v := by
  intro r x hx hvisited
  rcases hu.place?_placeAt hplace r with heq | ⟨-, -, hnew⟩
  · exact h r x (heq ▸ hx) hvisited
  · rw [hnew] at hx
    cases hx
    cases hvisited

/-- A reading makes no marks. -/
theorem keptByReading_noNewMarks (t : FileTable) :
    KeptByReading (fun _ => True) (fun _ => True) fun u => u.Filed ∧ t.NoNewMarks u where
  intern h disk _ spec stack formats _ :=
    ⟨(becomes_intern h.1 disk spec stack formats).filed,
      noNewMarks_of_visited h.2 fun q => by rw [place?, places_intern]; rfl⟩
  placeAt h hplace := ⟨(becomes_placeAt h.1 hplace).filed, h.2.placeAt h.1.coherent hplace⟩
  retain h id := ⟨(becomes_retain h.1 id).filed, h.2⟩
  dropFile h id := by
    refine ⟨(becomes_dropFile h.1 id).filed, fun q x hx hvisited => ?_⟩
    rw [h.1.coherent.place?_dropFile, Option.filter_eq_some_iff] at hx
    exact h.2 q x hx.1 hvisited
  release h id := ⟨(becomes_release h.1 id).filed, h.2⟩

/-- Whatever is added to a table, a file that is there stays. -/
theorem keptByAdding_live (id : FileId) :
    KeptByAdding (fun _ => True) (fun _ => True) fun u => u.Filed ∧ u.Live id where
  intern h disk _ spec stack formats _ := by
    obtain ⟨f, hf⟩ := Option.isSome_iff_exists.mp h.2
    obtain ⟨g, hg, -⟩ := (h.1.coherent.intern disk spec stack formats).file id f hf
    exact ⟨(becomes_intern h.1 disk spec stack formats).filed, by rw [Live, hg]; rfl⟩
  placeAt h hplace := ⟨(becomes_placeAt h.1 hplace).filed, ((placeAt_files hplace).2 id).mpr h.2⟩
  retain h k := by
    refine ⟨(becomes_retain h.1 k).filed, ?_⟩
    rw [Live, retain, Accounts.isSome_file?_modify]
    exact h.2

end FileTable

/-! ## 2. Readings -/

namespace Session

open FileTable

section

variable {s : Session} (h : s.parseState.Known) (disk : Disk)
include h

/-- A message that is read again is in the same place, if its file is there still. -/
theorem place_parseAll (hfew : (s.parseAll disk).2.table.Few) {m m' : Message}
    (hm : m ∈ s.parse.messages) (hm' : m' ∈ (s.parseAll disk).2.parse.messages)
    (hspan : m'.span = m.span) (hlocation : m'.location = m.location)
    (hlive : (s.parseAll disk).2.table.Live m.file) : m'.file = m.file ∧ m'.place = m.place := by
  rcases h.advance_cases disk s.log.length hfew hm' with hold | ⟨-, u, hu, hfinds, hb⟩
  · -- it was not read again
    have hstart : m'.start = m.start := congrArg Span.start hspan
    rcases pairwise_or h.balanced.starts hold hm with heq | hlt | hlt
    · exact heq ▸ ⟨rfl, rfl⟩
    · exact absurd hstart (Nat.ne_of_lt hlt)
    · exact absurd hstart (Nat.ne_of_gt hlt)
  · -- its file is there when it is read again
    have hissued := (h.balanced.accounted.issued m.reference (List.mem_map_of_mem hm)).file
    have hlive' := hb.file hfew m.file (hissued.grows hu.grows.files) hlive
    exact (h.finds_later hu (hfew.of_grows hb.grows) hm hlive').eq hu.filed hfinds hlocation

theorem visited_of_live (hfew : (s.parseAll disk).2.table.Few) {q : PlaceId} {p : Place}
    (hp : s.table.place? q = some p) (hlive : (s.parseAll disk).2.table.Live p.file) :
    ((s.parseAll disk).2.table.place? q).map (·.visited) = some p.visited := by
  have hb := h.becomes_advance disk s.log.length
  obtain ⟨x, hx, -, -, hvisited⟩ := hb.place hfew q p hp hlive
  have hkept := keptByReading_noNewMarks s.table
  have hmarks : s.table.NoNewMarks (s.parseAll disk).2.table :=
    (Parse.advance_of_changes hkept.toKeptByAdding hkept.release disk trivial (fun _ _ => trivial) _
      (fun _ _ _ _ _ ht => hkept.dropFile ht) h.balanced.sound
      ⟨h.filed, fun q x hx hvisited => ⟨x, hx, hvisited⟩⟩).2
  change (s.parseAll disk).2.table.place? q = some x at hx
  rw [hx, Option.map_some, Option.some.injEq, Bool.eq_iff_iff]
  -- a mark that is there afterwards was there before, since a reading makes none
  refine ⟨fun hx' => ?_, hvisited⟩
  obtain ⟨p', hp', hvisited'⟩ := hmarks q x hx hx'
  rw [hp] at hp'
  exact Option.some.inj hp' ▸ hvisited'

/-- A file goes only if a message is found whose rule says that its file has changed. -/
theorem live_parseAll {id : FileId} (hlive : s.table.Live id)
    (hnone : ∀ m ∈ (s.parseAll disk).2.parse.messages,
      (Parse.snap (Parse.settle s.parseState)).parse.cursor ≤ m.start →
      ∀ r ∈ s.parse.settings.rules.rules, r.name = m.rule → ¬ r.flushes) :
    (s.parseAll disk).2.table.Live id := by
  have hrelease : ∀ {t : FileTable}, t.Filed ∧ t.Live id → ∀ k, (t.release k).Filed
      ∧ (t.release k).Live id := by
    intro t ht k
    refine ⟨(becomes_release ht.1 k).filed, ?_⟩
    rw [Live, release, Accounts.isSome_file?_modify]
    exact ht.2
  refine (Parse.advance_of_changes (keptByAdding_live id) hrelease disk trivial (fun _ _ => trivial) _
    ?_ h.balanced.sound ⟨h.filed, hlive⟩).2
  rintro r hr hflush ⟨m, hm, hstart, hrule⟩
  exact absurd hflush (hnone m hm hstart r hr hrule.symm)

end

/-- Whatever was asked of a session, if no slot was emptied 2 ^ 32 times: a message that is there
before all is read and afterwards, with the same text and location, refers to the same place with the
same mark just if its file is there still.  It is there still unless a message is found,
from the cursor on, whose rule says that its file has changed. -/
theorem visited_parseAll_iff (cfg : ScanSettings) (p : Option DirectoryPattern) (workingDir : Path)
    (searchPath : List (Option Path)) (nav : NavigationSettings) (sources : Sources)
    (log : Transcript) (rs : List Request) (disk : Disk) :
    let s := (start cfg { pattern := p } { workingDir, searchPath } nav sources log).serveAll rs
    let s' := (s.parseAll disk).2
    s'.table.Few →
      (∀ m ∈ s.parse.messages, ∀ m' ∈ s'.parse.messages, m'.span = m.span →
        m'.location = m.location → ∀ x, s.table.place? m.place = some x →
        (m'.file = m.file ∧ m'.place = m.place
            ∧ (s'.table.place? m'.place).map (·.visited) = some x.visited
          ↔ s'.table.Live m.file))
      ∧ ((∀ m ∈ s'.parse.messages,
          (Parse.snap (Parse.settle s.parseState)).parse.cursor ≤ m.start →
          ∀ r ∈ cfg.rules.rules, r.name = m.rule → ¬ r.flushes) →
        ∀ m ∈ s.parse.messages, s.table.Live m.file → s'.table.Live m.file) := by
  intro s s' hfew
  have h : s.parseState.Known := known_serveAll (known_start cfg p workingDir searchPath nav sources
    log) rs
  have hrules : s.parse.settings = cfg := settings_serveAll _ rs
  refine ⟨fun m hm m' hm' hspan hlocation x hx =>
    ⟨fun ⟨hfile, _, hvisited⟩ => ?_, fun hlive => ?_⟩,
    fun hnone m _ hlive => live_parseAll h disk hlive (by rw [hrules]; exact hnone)⟩
  · -- the place of the message that is there afterwards is in its file
    obtain ⟨y, hy, -⟩ := Option.map_eq_some_iff.mp hvisited
    have hplaced := (known_serve h (.read disk s.log.length)).balanced.accounted.placed hfew
      m'.reference (List.mem_map_of_mem hm') m'.place List.mem_cons_self
    change (s'.table.place? m'.place).map _ = (s'.table.file? m'.file).map _ at hplaced
    rw [hy, Option.map_some, eq_comm, Option.map_eq_some_iff] at hplaced
    obtain ⟨f, hf, -⟩ := hplaced
    rw [Live, ← hfile, hf]
    rfl
  · obtain ⟨hfile, hplace⟩ := place_parseAll h disk hfew hm hm' hspan hlocation hlive
    refine ⟨hfile, hplace, ?_⟩
    have hfew' : s.table.Few := hfew.of_grows (h.becomes_advance disk s.log.length).grows
    have hplaced := h.balanced.accounted.placed hfew' m.reference (List.mem_map_of_mem hm) m.place
      List.mem_cons_self
    change (s.table.place? m.place).map _ = (s.table.file? m.file).map _ at hplaced
    rw [hx, Option.map_some, eq_comm, Option.map_eq_some_iff] at hplaced
    obtain ⟨f, -, hxfile⟩ := hplaced
    rw [hplace]
    exact visited_of_live h disk hfew hx (hxfile ▸ hlive)

/-- Capital letters name files, and a small one says that its file has changed. -/
def changingRules : RuleSet :=
  ⟨[{ Rule.ofSet "capital" (.ofRange 65 90) with lines := 3 },
    { Rule.ofSet "changed" (.ofRange 97 122) with flushes := true }]⟩

/-- Two lines are read, the last three of which would be read again, and both messages are gone to. -/
def changing : Session :=
  let sources := (Sources.empty.openText ⟨"/A".toList⟩ []).2
  let sources := (sources.openText ⟨"/b".toList⟩ []).2
  (start { rules := changingRules } { pattern := none } { workingDir := ⟨['/']⟩ } {} sources
    (.ofText "A\nb\n".toList)).serveAll [.read .empty 4, .jump .empty 0, .jump .empty 2]

/-- When they are read again, the file of the first is there still, and that of the second is not. -/
theorem visited_parseAll_changing :
    let s' := (changing.parseAll .empty).2
    s'.table.Few
      ∧ changing.parse.messages.map (fun m => (s'.table.file? m.file).isSome) = [true, false]
      ∧ ∀ m ∈ changing.parse.messages, ∀ m' ∈ s'.parse.messages, m'.span = m.span →
        m'.location = m.location → ∀ x, changing.table.place? m.place = some x →
        (m'.file = m.file ∧ m'.place = m.place
            ∧ (s'.table.place? m'.place).map (·.visited) = some x.visited
          ↔ s'.table.Live m.file) := by
  intro s'
  have hfew : s'.table.Few := by decide +kernel
  exact ⟨hfew, by decide +kernel, (visited_parseAll_iff _ _ _ _ _ _ _ _ _ hfew).1⟩

/-- The mark that was made in the second file between the two readings is gone, although nothing was
written in between: its line says once more that the file has changed. -/
theorem visited_parseAll_differs :
    let s' := (changing.parseAll .empty).2
    s'.parse.messages.map (fun m => (m.span, m.rule, m.location))
        = changing.parse.messages.map (fun m => (m.span, m.rule, m.location))
      ∧ changing.parse.messages.map (fun m => (changing.table.place? m.place).map (·.visited))
        = [some true, some true]
      ∧ s'.parse.messages.map (fun m => (s'.table.place? m.place).map (·.visited))
        = [some true, some false] := by
  decide +kernel

end Session

end BuildLog
