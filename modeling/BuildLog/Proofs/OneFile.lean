import Mathlib.Data.List.Induction
import BuildLog.Proofs.Indexes

/-!
# One file — each path has one entry, as long as no file is found at the path of another

Every name that stands for a path is given the one file at this path, as long as a table is indexed.
Only going to a place can bring two files together: the file of the place is opened where it is
found now, or where the guide says that it is, and another file may be there already.  So there is
one file for each path throughout a run just if this never happens.
-/

namespace BuildLog.FileTable

/-! ## 1. One file for each path -/

/-- No two files are at one path, and a name that was not seen before is given the file at the path
that it stands for. -/
structure OnePerPath (t : FileTable) : Prop where
  distinct : ∀ id id' f f', t.file? id = some f → t.file? id' = some f' → f.path.same f'.path →
    id = id'
  shared : ∀ id f, t.file? id = some f → ∀ disk spec stack formats,
    t.bySpec? (t.key spec stack) = none → (t.resolved disk spec stack formats).same f.path →
    (t.intern disk spec stack formats).1 = id

theorem Indexed.onePerPath {t : FileTable} (ht : t.Indexed) : t.OnePerPath := by
  refine ⟨fun id id' f f' hf hf' hsame => ?_, fun id f hf disk spec stack formats hs hsame => ?_⟩
  · have h := components_of_file hf
    rw [Path.same_iff.mp hsame] at h
    exact ht.distinct id id' _ h (components_of_file hf')
  · have hpath : t.byPath? (t.resolved disk spec stack formats) = some id := by
      rw [ht.byPath?_eq_some, Path.same_iff.mp hsame]
      exact components_of_file hf
    -- the name is new and its path is not, so interning answers the file at the path
    rcases intern_eq t disk spec stack formats with
      ⟨k, hk, -⟩ | ⟨k, -, hk, heq⟩ | ⟨g, -, hk, -⟩
    · rw [hs] at hk
      cases hk
    · rw [hpath] at hk
      cases hk
      rw [heq]
    · rw [hpath] at hk
      cases hk

/-! ## 2. Careful operations -/

/-- Whether an operation finds no file at the path of another one: the path at which the file of a
place is, after someone went there, is that of no other file. -/
def Careful (t : FileTable) : Operation → Prop
  | .locate disk sources q screen =>
    ∀ p f, t.place? q = some p → (t.locate disk sources q screen).2.1.file? p.file = some f →
      ∀ id g, t.file? id = some g → g.path.same f.path → id = p.file
  | _ => True

theorem Indexed.locate {t : FileTable} (ht : t.Indexed) {disk : Disk} {sources : Sources}
    {q : PlaceId} {screen : Bool} (hc : t.Careful (.locate disk sources q screen)) :
    (t.locate disk sources q screen).2.1.Indexed := by
  have hsound := ht.sound.locate disk sources q screen
  rcases t.path?_locate disk sources q screen with hsame | ⟨p, f, b, path, hp, hf, -, hsame⟩
  · exact ht.of_sameNames hsame hsound
  · refine (ht.setBuffer hf b fun k hk => ?_).of_sameNames hsame hsound
    -- the file of the place is at the path at which it was opened
    have hopened : (t.locate disk sources q screen).2.1.path? p.file = some path := by
      rw [hsame.path, path?_setBuffer t hf, if_pos rfl]
    obtain ⟨g, hg, hgpath⟩ := Option.map_eq_some_iff.mp hopened
    obtain ⟨f', hf', hcs⟩ := file_of_components hk
    exact hc p g hp hg k f' hf' (Path.same_iff.mpr (by rw [hcs, hgpath]))

theorem Indexed.operate {t : FileTable} (ht : t.Indexed) {op : Operation} (hc : t.Careful op) :
    (t.operate op).Indexed := by
  refine operate_of_changes (I := Indexed) (fun t u hsame hu ht => ht.of_sameNames hsame hu)
    (fun t id ht => ht.dropFile id) ht.sound ht op ?_ ?_
  · rintro disk spec stack formats -
    exact ht.intern disk spec stack formats
  · rintro disk sources id screen rfl
    exact ht.locate hc

/-- If there is one file for each path afterwards, then the operation was careful. -/
theorem careful_of_onePerPath {t : FileTable} {op : Operation} (h : (t.operate op).OnePerPath) :
    t.Careful op := by
  cases op with
  | locate disk sources q screen =>
    intro p f hp hf id g hg hsame
    by_cases hid : id = p.file
    · exact hid
    -- any other file is where it was
    have hother : (t.locate disk sources q screen).2.1.path? id = t.path? id := by
      rcases t.path?_locate disk sources q screen with hnames | ⟨p', f', b, path, hp', hf', -, hnames⟩
      · exact hnames.path id
      · rw [hp] at hp'
        cases hp'
        rw [hnames.path, path?_setBuffer t hf', if_neg hid]
    have hcs := components_of_file hg
    rw [← hother] at hcs
    obtain ⟨g', hg', hgcs⟩ := file_of_components hcs
    refine h.distinct id p.file g' f hg' hf (Path.same_iff.mpr ?_)
    rw [hgcs, Path.same_iff.mp hsame]
  | _ => trivial

theorem guide_openFile (sources : Sources) (disk : Disk) (p : Path) :
    (sources.openFile disk p).2.guide = sources.guide := by
  unfold Sources.openFile Sources.openText
  dsimp only
  repeat' split
  all_goals rfl

/-- With nobody to ask, a file is opened where it was looked for. -/
theorem openOrAsk_of_unasked {t : FileTable} {disk : Disk} {sources : Sources} {filename : String}
    {p : Path} {b : BufferId} {path : Path} (hguide : sources.guide = none)
    (h : (t.openOrAsk disk sources filename p).1 = some (b, path)) : path = p := by
  have hguide' := guide_openFile sources disk p
  unfold openOrAsk at h
  split at h
  · cases h
    rfl
  · rename_i sources' hopen
    rw [hopen, hguide] at hguide'
    rw [Sources.ask, hguide'] at h
    cases h

/-- It is careful to go to a place while there is nobody to ask, if the file of the place was found
already, or is still not found. -/
theorem careful_locate_of_unmoved {t : FileTable} (ht : t.Indexed) {disk : Disk} {sources : Sources}
    {q : PlaceId} {screen : Bool} (hguide : sources.guide = none)
    (hstill : ∀ p f, t.place? q = some p → t.file? p.file = some f →
      f.found ∨ (t.resolve disk f.spec.filename f.spec.directory f.formats).2 = false) :
    t.Careful (.locate disk sources q screen) := by
  intro p f hp hf id g hg hsame
  -- the file of the place is where it was
  have hpath : t.path? p.file = some f.path := by
    rcases t.path?_locate disk sources q screen with hnames | ⟨p', f', b, path, hp', hf', hopen, hnames⟩
    · rw [← hnames.path, path?, hf]
      rfl
    · rw [hp] at hp'
      cases hp'
      have hlooked : t.lookedFor disk f' = f'.path := by
        unfold lookedFor
        split
        · rfl
        · rename_i hfound
          have hnone := (hstill p f' hp hf').resolve_left hfound
          split
          · rename_i hres
            rw [hres] at hnone
            cases hnone
          · rfl
      have hnow := hnames.path p.file
      rw [path?_setBuffer t hf', if_pos rfl, openOrAsk_of_unasked hguide hopen, hlooked, path?, hf,
        Option.map_some] at hnow
      rw [path?, hf', Option.map_some, hnow]
  have hcs := components_of_file hg
  rw [Path.same_iff.mp hsame] at hcs
  refine ht.distinct id p.file f.path.components hcs ?_
  rw [hpath, Option.map_some]

/-! ## 3. Runs -/

theorem run_concat (t : FileTable) (ops : List Operation) (op : Operation) :
    t.run (ops ++ [op]) = (t.run ops).operate op := List.foldl_append

theorem Indexed.run {t : FileTable} (ht : t.Indexed) {ops : List Operation}
    (hc : ∀ before op, before ++ [op] <+: ops → (t.run before).Careful op) :
    (t.run ops).Indexed := by
  induction ops using List.reverseRecOn with
  | nil => exact ht
  | append_singleton ops op ih =>
    rw [run_concat]
    exact (ih fun before op' h => hc before op' (h.trans (List.prefix_append ops [op]))).operate
      (hc ops op (List.prefix_refl _))

/-- There is one file for each path throughout a run just if every operation in it is careful. -/
theorem onePerPath_iff (searchPath : List (Option Path)) (workingDir : Path)
    (ops : List Operation) :
    let t : FileTable := { searchPath, workingDir }
    (∀ before, before <+: ops → (t.run before).OnePerPath)
      ↔ ∀ before op, before ++ [op] <+: ops → (t.run before).Careful op := by
  intro t
  constructor
  · intro h before op hprefix
    refine careful_of_onePerPath ?_
    rw [← run_concat]
    exact h (before ++ [op]) hprefix
  · intro h before hprefix
    exact ((indexed_empty searchPath workingDir).run fun before' op hprefix' =>
      h before' op (hprefix'.trans hprefix)).onePerPath

/-- Two files are referred to, and the guide says of the first one that it is the second. -/
def answered : List Operation :=
  let sources := (Sources.empty.openText ⟨"/b.c".toList⟩ "int b;\n".toList).2
  [.intern .empty ⟨"a.c", none⟩ .root [], .intern .empty ⟨"b.c", none⟩ .root [],
    .placeAt ⟨0, 0⟩ ⟨some 1, none⟩,
    .locate .empty { sources with guide := some { answers := [("a.c", .ofString "b.c")] } } ⟨0, 0⟩
      false]

/-- The guide brings both files to one path, and the second is then not found by it any more once
the first is dropped. -/
theorem onePerPath_differs :
    let t := run { workingDir := ⟨['/']⟩ } answered
    ¬ t.OnePerPath ∧ ¬ (t.operate (.dropFile ⟨0, 0⟩)).OnePerPath := by
  intro t
  have hfirst : t.path? ⟨0, 0⟩ = some (.ofString "/b.c") := by decide +kernel
  have hsecond : t.path? ⟨1, 0⟩ = some (.ofString "/b.c") := by decide +kernel
  have hlast : (t.operate (.dropFile ⟨0, 0⟩)).path? ⟨1, 0⟩ = some (.ofString "/b.c") := by
    decide +kernel
  obtain ⟨f, hf, hfpath⟩ := Option.map_eq_some_iff.mp hfirst
  obtain ⟨g, hg, hgpath⟩ := Option.map_eq_some_iff.mp hsecond
  obtain ⟨k, hk, hkpath⟩ := Option.map_eq_some_iff.mp hlast
  refine ⟨fun h => ?_, fun h => ?_⟩
  · have hsame : f.path.same g.path := by
      rw [hfpath, hgpath]
      decide +kernel
    exact absurd (h.distinct ⟨0, 0⟩ ⟨1, 0⟩ f g hf hg hsame) (by decide)
  · have hsame : ((t.operate (.dropFile ⟨0, 0⟩)).resolved .empty ⟨"./b.c", none⟩ .root []).same
        k.path := by
      rw [hkpath]
      decide +kernel
    exact absurd (h.shared ⟨1, 0⟩ k hk .empty ⟨"./b.c", none⟩ .root [] (by decide +kernel) hsame)
      (by decide +kernel)

end BuildLog.FileTable
