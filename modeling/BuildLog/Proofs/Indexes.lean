import BuildLog.Proofs.Components
import BuildLog.Proofs.Entries

/-!
# Indexes — a table finds each of its files by its path

A table is indexed if no two of its files are at one path, and the index by path has just the paths
at which its files are.  Interning and dropping keep it so.  Going to a place keeps it so just if
the file of the place is not found at the path of another file: an entry that was made for a file
that did not exist, or whose path the guide corrected, may meet another one there.
-/

namespace BuildLog.FileTable

/-! ## 1. Names and paths -/

/-- Where a file of the table is, or would be. -/
def path? (t : FileTable) (id : FileId) : Option Path := (t.file? id).map (·.path)

/-- The name that a log refers to from a directory, as the table remembers it. -/
def key (t : FileTable) (spec : FileSpec) (stack : DirectoryStack) : SpecKey :=
  ⟨spec.filename, (t.baseDirectory spec stack).map Path.components⟩

/-- The path that stands for a name that a log refers to from a directory. -/
def resolved (t : FileTable) (disk : Disk) (spec : FileSpec) (stack : DirectoryStack)
    (formats : List String) : Path :=
  (t.resolve disk spec.filename (t.baseDirectory spec stack) formats).1

theorem live_iff {t : FileTable} {id : FileId} : t.Live id ↔ (t.path? id).isSome := by
  rw [Live, path?, Option.isSome_map]

theorem components_of_file {t : FileTable} {id : FileId} {f : FileEntry} (hf : t.file? id = some f) :
    (t.path? id).map Path.components = some f.path.components := by
  rw [path?, hf]
  rfl

theorem file_of_components {t : FileTable} {id : FileId} {cs : List Component}
    (h : (t.path? id).map Path.components = some cs) :
    ∃ f, t.file? id = some f ∧ f.path.components = cs := by
  rw [path?, Option.map_map, Option.map_eq_some_iff] at h
  exact h

/-- Two tables that know the same names, and the same files at the same paths. -/
structure SameNames (t u : FileTable) : Prop where
  path : ∀ id, u.path? id = t.path? id
  byPath : u.byPath = t.byPath
  bySpec : u.bySpec = t.bySpec
  searchPath : u.searchPath = t.searchPath
  workingDir : u.workingDir = t.workingDir

theorem SameNames.refl (t : FileTable) : t.SameNames t := ⟨fun _ => rfl, rfl, rfl, rfl, rfl⟩

theorem SameNames.trans {t u v : FileTable} (h : t.SameNames u) (h' : u.SameNames v) :
    t.SameNames v :=
  ⟨fun id => (h'.path id).trans (h.path id), h'.byPath.trans h.byPath, h'.bySpec.trans h.bySpec,
    h'.searchPath.trans h.searchPath, h'.workingDir.trans h.workingDir⟩

/-- A change of an entry that leaves the file where it is. -/
theorem sameNames_modify (t : FileTable) (places : Slots Place) (id : FileId)
    {g : FileEntry → FileEntry} (hg : ∀ f, (g f).path = f.path) :
    t.SameNames { t with places, files := t.files.modify id.handle g } := by
  refine ⟨fun k => ?_, rfl, rfl, rfl, rfl⟩
  show ((t.files.modify _ _).get? _).map _ = ((t.files.get? _).map _)
  rw [Slots.get?_modify]
  split
  · rw [Option.map_map]
    exact congrArg (Option.map · _) (funext hg)
  · rfl

theorem sameNames_placeAt {t u : FileTable} {file : FileId} {p : Position} {q : PlaceId}
    (h : t.placeAt file p = .ok (q, u)) : t.SameNames u := by
  obtain ⟨f, -, ⟨-, rfl⟩ | ⟨-, -, rfl⟩⟩ := placeAt_eq_ok h
  · exact .refl u
  · exact t.sameNames_modify _ file fun _ => rfl

theorem sameNames_placeMarkers (t : FileTable) (sources : Sources) (id : FileId) (b : BufferId)
    (screen : Bool) : t.SameNames (t.placeMarkers sources id b screen).1 :=
  placeMarkers_of_changes (I := t.SameNames)
    (fun _ _ _ hu => hu.trans ⟨fun _ => rfl, rfl, rfl, rfl, rfl⟩) (.refl t) sources id b screen

/-- Where a file is looked for when it is opened. -/
def lookedFor (t : FileTable) (disk : Disk) (f : FileEntry) : Path :=
  if f.found then f.path
  else
    match t.resolve disk f.spec.filename f.spec.directory f.formats with
    | (p, true) => p
    | (_, false) => f.path

/-- Opening a file moves it at most to where it was looked for, or to where the guide says. -/
theorem openBuffer_eq (t : FileTable) (disk : Disk) (sources : Sources) (id : FileId) :
    (t.openBuffer disk sources id).2.1 = t
      ∨ ∃ f b path, t.file? id = some f
        ∧ (t.openOrAsk disk sources f.spec.filename (t.lookedFor disk f)).1 = some (b, path)
        ∧ (t.openBuffer disk sources id).2.1 = t.setBuffer id f b path := by
  unfold openBuffer
  split
  · exact .inl rfl
  · rename_i f hf
    split
    · exact .inl rfl
    · dsimp only
      split
      · rename_i b path _ hopen
        exact .inr ⟨f, b, path, hf, congrArg Prod.fst hopen, rfl⟩
      · exact .inl rfl

/-- Going to a place changes names only by opening the file of the place. -/
theorem sameNames_locate (t : FileTable) (disk : Disk) (sources : Sources) (q : PlaceId)
    (screen : Bool) : t.SameNames (t.locate disk sources q screen).2.1
      ∨ ∃ p, t.place? q = some p ∧ (t.openBuffer disk sources p.file).2.1.SameNames
          (t.locate disk sources q screen).2.1 := by
  unfold locate
  split
  · exact .inl (.refl t)
  · rename_i p hp
    split
    · exact .inl (.refl t)
    · -- markers do not change any name
      refine .inr ⟨p, hp, ?_⟩
      split
      · rename_i hrun
        rw [hrun]
        exact .refl _
      · rename_i b u sources' hrun
        rw [hrun]
        have h := sameNames_placeMarkers u sources' p.file b screen
        dsimp only
        repeat' split
        all_goals exact h

theorem path?_setBuffer (t : FileTable) {id : FileId} {f : FileEntry} (hf : t.file? id = some f)
    (b : BufferId) (p : Path) (k : FileId) :
    (t.setBuffer id f b p).path? k = if k = id then some p else t.path? k := by
  show ((t.files.modify _ _).get? _).map _ = _
  rw [Slots.get?_modify]
  simp only [handle_eq_iff]
  split
  · rename_i hk
    change Option.map _ ((t.file? k).map _) = _
    rw [hk, hf]
    rfl
  · rfl

/-- Going to a place either leaves every file where it is, or moves the file of the place to where
it is opened. -/
theorem path?_locate (t : FileTable) (disk : Disk) (sources : Sources) (q : PlaceId)
    (screen : Bool) : t.SameNames (t.locate disk sources q screen).2.1
      ∨ ∃ p f b path, t.place? q = some p ∧ t.file? p.file = some f
        ∧ (t.openOrAsk disk sources f.spec.filename (t.lookedFor disk f)).1 = some (b, path)
        ∧ (t.setBuffer p.file f b path).SameNames (t.locate disk sources q screen).2.1 := by
  rcases t.sameNames_locate disk sources q screen with h | ⟨p, hp, h⟩
  · exact .inl h
  · rcases t.openBuffer_eq disk sources p.file with heq | ⟨f, b, path, hf, hopen, heq⟩
    · rw [heq] at h
      exact .inl h
    · rw [heq] at h
      exact .inr ⟨p, f, b, path, hp, hf, hopen, h⟩

/-- What interning does: it answers the file of the name or of its path, or makes one. -/
theorem intern_eq (t : FileTable) (disk : Disk) (spec : FileSpec) (stack : DirectoryStack)
    (formats : List String) :
    (∃ id, t.bySpec? (t.key spec stack) = some id ∧ t.intern disk spec stack formats = (id, t))
    ∨ (∃ id, t.bySpec? (t.key spec stack) = none
        ∧ t.byPath? (t.resolved disk spec stack formats) = some id
        ∧ t.intern disk spec stack formats
          = (id, { t with bySpec := assign (t.key spec stack) id t.bySpec }))
    ∨ ∃ f : FileEntry, t.bySpec? (t.key spec stack) = none
        ∧ t.byPath? (t.resolved disk spec stack formats) = none
        ∧ f.path = t.resolved disk spec stack formats
        ∧ t.intern disk spec stack formats = (⟨(t.files.insert f).1⟩, { t with
          files := (t.files.insert f).2
          byPath := assign (t.resolved disk spec stack formats).components
            ⟨(t.files.insert f).1⟩ t.byPath
          bySpec := assign (t.key spec stack) ⟨(t.files.insert f).1⟩ t.bySpec }) := by
  unfold intern
  dsimp only
  cases hs : t.bySpec? ⟨spec.filename, (t.baseDirectory spec stack).map Path.components⟩ with
  | some id => exact .inl ⟨id, hs, rfl⟩
  | none =>
    dsimp only
    cases hp : t.byPath? (t.resolve disk spec.filename (t.baseDirectory spec stack) formats).1 with
    | some id => exact .inr (.inl ⟨id, hs, hp, rfl⟩)
    | none => exact .inr (.inr ⟨_, hs, hp, rfl, rfl⟩)

/-- What interning adds, if anything: the entry of a name that was looked for. -/
theorem file?_intern {t : FileTable} (ht : t.Sound) (disk : Disk) (spec : FileSpec)
    (stack : DirectoryStack) (formats : List String) {id : FileId} {f : FileEntry}
    (hf : (t.intern disk spec stack formats).2.file? id = some f) :
    t.file? id = some f ∨ t.file? id = none ∧ f =
      { spec := { spec with directory := t.baseDirectory spec stack }
        formats := if formats.isEmpty then ["%s"] else formats
        path := t.resolved disk spec stack formats
        found := (t.resolve disk spec.filename (t.baseDirectory spec stack) formats).2 } := by
  unfold intern at hf
  dsimp only at hf
  split at hf
  · exact .inl hf
  · split at hf
    · exact .inl hf
    · change (Slots.insert _ _).2.get? _ = _ at hf
      rw [Slots.get?_insert ht] at hf
      rcases ite_eq_iff.mp hf with ⟨hid, hf⟩ | ⟨-, hf⟩
      · refine .inr ⟨?_, (Option.some.inj hf).symm⟩
        rw [file?, hid]
        exact Slots.get?_fst_insert ht _
      · exact .inl hf

/-! ## 2. Operations -/

/-- What is done to a table while a log is read and gone through. -/
inductive Operation
  | intern (disk : Disk) (spec : FileSpec) (stack : DirectoryStack) (formats : List String)
  | placeAt (file : FileId) (p : Position)
  /-- Go to a place, with what can be opened, and whom to ask, at that moment. -/
  | locate (disk : Disk) (sources : Sources) (id : PlaceId) (screen : Bool)
  | retain (id : FileId)
  | release (id : FileId)
  | flush (disk : Disk) (spec : FileSpec)
  | dropFile (id : FileId)
  | sweep

def operate (t : FileTable) : Operation → FileTable
  | .intern disk spec stack formats => (t.intern disk spec stack formats).2
  | .placeAt file p =>
    match t.placeAt file p with
    | .ok (_, u) => u
    | .error _ => t
  | .locate disk sources id screen => (t.locate disk sources id screen).2.1
  | .retain id => t.retain id
  | .release id => t.release id
  | .flush disk spec => (t.flush disk spec).2
  | .dropFile id => (t.dropFile id).2
  | .sweep => t.sweep.2

def run (t : FileTable) (ops : List Operation) : FileTable := ops.foldl operate t

theorem sound_operate {t : FileTable} (ht : t.Sound) (op : Operation) : (t.operate op).Sound := by
  cases op with
  | intern disk spec stack formats => exact ht.intern disk spec stack formats
  | placeAt file p =>
    unfold operate
    dsimp only
    split
    · rename_i hplace
      exact (placeAt_files hplace).1 ht
    · exact ht
  | locate disk sources id screen => exact ht.locate disk sources id screen
  | retain id => exact ht.retain id
  | release id => exact ht.release id
  | flush disk spec => exact ht.flush disk spec
  | dropFile id => exact ht.dropFile id
  | sweep => exact ht.sweep

/-- What dropping a file keeps, flushing a name keeps. -/
theorem flush_of_dropFile {I : FileTable → Prop} (hdrop : ∀ t id, I t → I (t.dropFile id).2)
    {t : FileTable} (h : I t) (disk : Disk) (spec : FileSpec) : I (t.flush disk spec).2 := by
  unfold flush
  split
  · exact hdrop t _ h
  · exact h

/-- What dropping a file keeps, a sweep keeps. -/
theorem sweep_of_dropFile {I : FileTable → Prop} (hdrop : ∀ t id, I t → I (t.dropFile id).2)
    {t : FileTable} (h : I t) : I t.sweep.2 := by
  unfold sweep
  dsimp only
  generalize (t.entries.filter (·.2.refs = 0)).map (·.1) = unused
  induction unused generalizing t with
  | nil => exact h
  | cons id ids ih => exact ih (hdrop t id h)

/-- What holds of a table holds after an operation, if each change of its names keeps it. -/
theorem operate_of_changes {I : FileTable → Prop}
    (hsame : ∀ t u, t.SameNames u → u.Sound → I t → I u)
    (hdrop : ∀ t id, I t → I (t.dropFile id).2)
    {t : FileTable} (ht : t.Sound) (h : I t) (op : Operation)
    (hintern : ∀ disk spec stack formats, op = .intern disk spec stack formats →
      I (t.intern disk spec stack formats).2)
    (hlocate : ∀ disk sources id screen, op = .locate disk sources id screen →
      I (t.locate disk sources id screen).2.1) : I (t.operate op) := by
  have hsound := sound_operate ht op
  cases op with
  | intern disk spec stack formats => exact hintern disk spec stack formats rfl
  | placeAt file p =>
    unfold operate at hsound ⊢
    dsimp only at hsound ⊢
    split
    · rename_i hplace
      rw [hplace] at hsound
      exact hsame t _ (sameNames_placeAt hplace) hsound h
    · exact h
  | locate disk sources id screen => exact hlocate disk sources id screen rfl
  | retain id => exact hsame t _ (t.sameNames_modify _ id fun _ => rfl) hsound h
  | release id => exact hsame t _ (t.sameNames_modify _ id fun _ => rfl) hsound h
  | flush disk spec => exact flush_of_dropFile hdrop h disk spec
  | dropFile id => exact hdrop t id h
  | sweep => exact sweep_of_dropFile hdrop h

/-! ## 3. Indexed tables -/

theorem mem_assign {κ α : Type} [DecidableEq κ] {k k' : κ} {a b : α} {xs : List (κ × α)} :
    (k', b) ∈ assign k a xs ↔ (k' = k ∧ b = a) ∨ (k' ≠ k ∧ (k', b) ∈ xs) := by
  rw [assign, List.mem_cons, List.mem_filter, Prod.mk.injEq, decide_eq_true_iff,
    and_comm (a := (k', b) ∈ xs)]

/-- What is found without the pairs of a key. -/
theorem lookup_filter_ne {κ α : Type} [DecidableEq κ] [BEq κ] [LawfulBEq κ] (k k' : κ) (xs : List (κ × α)) :
    (xs.filter (·.1 ≠ k)).lookup k' = if k' = k then none else xs.lookup k' := by
  induction xs with
  | nil => exact (ite_self _).symm
  | cons x xs ih =>
    rw [List.filter_cons, List.lookup_cons]
    by_cases hx : x.1 = k
    · rw [if_neg (by simpa using hx), ih]
      split
      · rfl
      · rename_i hk
        rw [beq_eq_false_iff_ne.mpr fun h => hk (h.trans hx)]
    · rw [if_pos (by simpa using hx), List.lookup_cons, ih]
      cases hk : k' == x.1 with
      | true =>
        have hne : k' ≠ k := fun h => hx ((beq_iff_eq.mp hk).symm.trans h)
        exact (if_neg hne).symm
      | false => rfl

/-- What is found when all entries are changed at their keys. -/
theorem lookup_map_of_fst {κ α : Type} [BEq κ] [LawfulBEq κ] {g : κ × α → κ × α}
    (hg : ∀ e, (g e).1 = e.1) (k : κ) (xs : List (κ × α)) :
    (xs.map g).lookup k = (xs.lookup k).map fun a => (g (k, a)).2 := by
  induction xs with
  | nil => rfl
  | cons e xs ih =>
    rw [List.map_cons, List.lookup_cons, List.lookup_cons, hg]
    cases hk : k == e.1 with
    | true =>
      rw [beq_iff_eq.mp hk]
      rfl
    | false => exact ih

theorem mem_of_lookup {κ α : Type} [BEq κ] [LawfulBEq κ] {xs : List (κ × α)} {k : κ} {a : α}
    (h : xs.lookup k = some a) : (k, a) ∈ xs := by
  obtain ⟨l, l', hl, -⟩ := List.lookup_eq_some_iff.mp h
  rw [hl]
  exact List.mem_append_right l List.mem_cons_self

theorem lookup_assign {κ α : Type} [DecidableEq κ] (k k' : κ) (a : α) (xs : List (κ × α)) :
    (assign k a xs).lookup k' = if k' = k then some a else xs.lookup k' := by
  rw [assign, List.lookup_cons, lookup_filter_ne]
  by_cases hk : k' = k
  · rw [beq_iff_eq.mpr hk]
    exact (if_pos hk).symm
  · rw [beq_eq_false_iff_ne.mpr hk, if_neg hk, if_neg hk]

/-- Each file is found by its path, and no two files are at one path. -/
structure Indexed (t : FileTable) : Prop where
  sound : t.Sound
  listed : ∀ cs id, (cs, id) ∈ t.byPath ↔ (t.path? id).map Path.components = some cs
  distinct : ∀ id id' cs, (t.path? id).map Path.components = some cs →
    (t.path? id').map Path.components = some cs → id = id'

theorem indexed_empty (searchPath : List (Option Path)) (workingDir : Path) :
    Indexed { searchPath, workingDir } :=
  ⟨Slots.neat_empty, fun _ _ => ⟨nofun, nofun⟩, nofun⟩

section

variable {t : FileTable} (ht : t.Indexed)
include ht

/-- The index answers the file at a path. -/
theorem Indexed.byPath?_eq_some {p : Path} {id : FileId} :
    t.byPath? p = some id ↔ (t.path? id).map Path.components = some p.components := by
  rw [byPath?, Option.filter_eq_some_iff]
  constructor
  · rintro ⟨hlookup, -⟩
    exact (ht.listed _ _).mp (mem_of_lookup hlookup)
  · -- the index may have the path more than once, but for one file only, which is live
    intro h
    have hmem := (ht.listed _ _).mpr h
    have hsome : (t.byPath.lookup p.components).isSome :=
      List.lookup_isSome_iff.mpr ⟨_, hmem, beq_self_eq_true _⟩
    obtain ⟨id', hid'⟩ := Option.isSome_iff_exists.mp hsome
    have heq := ht.distinct id' id _ ((ht.listed _ _).mp (mem_of_lookup hid')) h
    refine ⟨heq ▸ hid', live_iff.mpr ?_⟩
    obtain ⟨path, hpath, -⟩ := Option.map_eq_some_iff.mp h
    rw [hpath]
    rfl

theorem Indexed.of_sameNames {u : FileTable} (h : t.SameNames u) (hu : u.Sound) : u.Indexed := by
  refine ⟨hu, fun cs id => ?_, fun id id' cs h₁ h₂ => ?_⟩
  · rw [h.byPath, h.path]
    exact ht.listed cs id
  · rw [h.path] at h₁ h₂
    exact ht.distinct id id' cs h₁ h₂

omit ht in
theorem path?_of_insert (ht : t.Sound) {u : FileTable} {f : FileEntry}
    (hu : u.files = (t.files.insert f).2) (id : FileId) :
    u.path? id = if id = ⟨(t.files.insert f).1⟩ then some f.path else t.path? id := by
  rw [path?, file?, hu, Slots.get?_insert ht]
  simp only [← handle_eq_iff (a := id)]
  split <;> rfl

/-- A file is added at a path at which there is none. -/
theorem Indexed.addFile {u : FileTable} {f : FileEntry} (hnone : t.byPath? f.path = none)
    (hfiles : u.files = (t.files.insert f).2)
    (hbyPath : u.byPath = assign f.path.components ⟨(t.files.insert f).1⟩ t.byPath) :
    u.Indexed := by
  have hpath := path?_of_insert ht.sound hfiles
  have hnew : t.path? ⟨(t.files.insert f).1⟩ = none := by
    rw [path?, file?, Slots.get?_fst_insert ht.sound]
    rfl
  -- the index has every path, so a path that it does not have is free
  have hfree : ∀ id, (t.path? id).map Path.components ≠ some f.path.components := by
    intro id hid
    rw [ht.byPath?_eq_some.mpr hid] at hnone
    cases hnone
  have hsound : u.Sound := by
    rw [Sound, hfiles]
    exact Slots.Neat.insert ht.sound f
  refine ⟨hsound, fun cs id => ?_, fun id id' cs h₁ h₂ => ?_⟩
  · rw [hbyPath, mem_assign, ht.listed, hpath]
    split
    · rename_i hid
      rw [hid, hnew, Option.map_some, Option.some.injEq, eq_comm (b := cs)]
      simp
    · rename_i hid
      constructor
      · rintro (⟨-, h⟩ | ⟨-, h⟩)
        · exact absurd h hid
        · exact h
      · intro h
        exact .inr ⟨fun hcs => hfree id (hcs ▸ h), h⟩
  · rw [hpath] at h₁ h₂
    split at h₁ <;> split at h₂
    · rename_i h₃ h₄
      rw [h₃, h₄]
    · cases h₁
      exact absurd h₂ (hfree id')
    · cases h₂
      exact absurd h₁ (hfree id)
    · exact ht.distinct id id' cs h₁ h₂

theorem Indexed.intern (disk : Disk) (spec : FileSpec) (stack : DirectoryStack)
    (formats : List String) : (t.intern disk spec stack formats).2.Indexed := by
  rcases intern_eq t disk spec stack formats with
    ⟨id, -, heq⟩ | ⟨id, -, -, heq⟩ | ⟨f, -, hnone, hpath, heq⟩
  · rw [heq]
    exact ht
  · rw [heq]
    exact ⟨ht.sound, ht.listed, ht.distinct⟩
  · rw [heq]
    rw [← hpath] at hnone ⊢
    exact ht.addFile hnone rfl rfl

omit ht in
theorem path?_dropFile (t : FileTable) (k id : FileId) :
    (t.dropFile k).2.path? id = if id = k then none else t.path? id := by
  rw [path?, file?_dropFile]
  split <;> rfl

omit ht in
/-- A file that is not there has no path in the index, so the paths of a file go with it. -/
theorem mem_byPath_dropFile {t : FileTable}
    (h : ∀ cs id, (cs, id) ∈ t.byPath → (t.path? id).map Path.components = some cs) (k : FileId)
    (cs : List Component) (id : FileId) :
    (cs, id) ∈ (t.dropFile k).2.byPath ↔ id ≠ k ∧ (cs, id) ∈ t.byPath := by
  unfold FileTable.dropFile
  split
  · rename_i hfst
    refine ⟨fun hmem => ⟨?_, hmem⟩, And.right⟩
    rintro rfl
    have hlive := h _ _ hmem
    rw [path?, file?, ← Slots.fst_remove, hfst] at hlive
    cases hlive
  · rw [List.mem_filter, decide_eq_true_iff]
    exact And.comm

theorem Indexed.dropFile (k : FileId) : (t.dropFile k).2.Indexed := by
  have hbyPath := mem_byPath_dropFile (fun cs id => (ht.listed cs id).mp) k
  refine ⟨ht.sound.dropFile k, fun cs id => ?_, fun id id' cs h₁ h₂ => ?_⟩
  · rw [hbyPath, path?_dropFile, ht.listed]
    split
    · rename_i hid
      simp [hid]
    · rename_i hid
      exact and_iff_right hid
  · rw [path?_dropFile] at h₁ h₂
    split at h₁
    · cases h₁
    · split at h₂
      · cases h₂
      · exact ht.distinct id id' cs h₁ h₂

/-- The old path of a file leaves the index when the file is opened, unless it is the new one. -/
theorem Indexed.mem_byPath_setBuffer {id : FileId} {f : FileEntry} (hf : t.file? id = some f)
    (b : BufferId) {p : Path}
    (hfree : ∀ k, (t.path? k).map Path.components = some p.components → k = id)
    {cs : List Component} {k : FileId} : (cs, k) ∈ (t.setBuffer id f b p).byPath ↔
      (cs = p.components ∧ k = id)
        ∨ (cs ≠ p.components ∧ cs ≠ f.path.components ∧ (cs, k) ∈ t.byPath) := by
  rw [FileTable.setBuffer]
  dsimp only
  by_cases hsame : f.path.same p
  · have hcs := Path.same_iff.mp hsame
    rw [if_pos hsame, ht.listed, hcs]
    constructor
    · intro h
      by_cases hc : cs = p.components
      · exact .inl ⟨hc, hfree k (hc ▸ h)⟩
      · exact .inr ⟨hc, hc, h⟩
    · rintro (⟨rfl, rfl⟩ | ⟨-, -, h⟩)
      · rw [components_of_file hf, hcs]
      · exact h
  · -- the old path goes before the new one is written
    rw [if_neg hsame, mem_assign, List.mem_filter, decide_eq_true_iff,
      and_comm (a := (cs, k) ∈ t.byPath)]

/-- A file is opened at a path at which no other one is. -/
theorem Indexed.setBuffer {id : FileId} {f : FileEntry} (hf : t.file? id = some f) (b : BufferId)
    {p : Path} (hfree : ∀ k, (t.path? k).map Path.components = some p.components → k = id) :
    (t.setBuffer id f b p).Indexed := by
  have hpath := path?_setBuffer t hf b p
  have hold := components_of_file hf
  refine ⟨Slots.Neat.modify ht.sound _ _, fun cs k => ?_, fun k k' cs h₁ h₂ => ?_⟩
  · rw [hpath, ht.mem_byPath_setBuffer hf b hfree, ht.listed]
    split
    · rename_i hk
      rw [hk, hold, Option.map_some, Option.some.injEq, Option.some.injEq, eq_comm (b := cs),
        eq_comm (b := cs)]
      constructor
      · rintro (⟨h, -⟩ | ⟨-, hne, heq⟩)
        · exact h
        · exact absurd heq hne
      · exact fun h => .inl ⟨h, rfl⟩
    · rename_i hk
      constructor
      · rintro (⟨-, h⟩ | ⟨-, -, h⟩)
        · exact absurd h hk
        · exact h
      · intro h
        refine .inr ⟨fun hcs => hk (hfree k (hcs ▸ h)), fun hcs => hk ?_, h⟩
        exact ht.distinct k id cs h (hcs ▸ hold)
  · rw [hpath] at h₁ h₂
    split at h₁ <;> split at h₂
    · rename_i h₃ h₄
      rw [h₃, h₄]
    · rename_i h₃ h₄
      cases h₁
      exact absurd (hfree k' h₂) h₄
    · rename_i h₃ h₄
      cases h₂
      exact absurd (hfree k h₁) h₃
    · exact ht.distinct k k' cs h₁ h₂

end

end BuildLog.FileTable
