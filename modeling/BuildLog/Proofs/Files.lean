import BuildLog.Proofs.Handles
import BuildLog.Scan

/-!
# Files — a file table answers for every file it hands out

In a sound table an entry that was made for a name is live, and a place can be made in every live
entry: no message is lost because of the table.
-/

namespace BuildLog

/-! ## 1. File tables -/

namespace FileTable

/-- Every handle of a file that the table gives out will stand for the file. -/
def Sound (t : FileTable) : Prop := t.files.Neat

/-- The file's entry was not dropped. -/
def Live (t : FileTable) (id : FileId) : Prop := (t.file? id).isSome

theorem bySpec?_live {t : FileTable} {key : SpecKey} {id : FileId} (h : t.bySpec? key = some id) :
    t.Live id := (Option.filter_eq_some_iff.mp h).2

theorem byPath?_live {t : FileTable} {p : Path} {id : FileId} (h : t.byPath? p = some id) :
    t.Live id := (Option.filter_eq_some_iff.mp h).2

/-- A name is given a live entry of the table, or a new one, which nothing refers to. -/
theorem intern_cases (t : FileTable) (disk : Disk) (spec : FileSpec) (stack : DirectoryStack)
    (formats : List String) :
    (t.Live (t.intern disk spec stack formats).1
        ∧ (t.intern disk spec stack formats).2.files = t.files)
      ∨ ∃ f : FileEntry, f.places = [] ∧ f.refs = 0
        ∧ (t.intern disk spec stack formats).1.handle = (t.files.insert f).1
        ∧ (t.intern disk spec stack formats).2.files = (t.files.insert f).2 := by
  unfold intern
  dsimp only
  cases hs : t.bySpec? ⟨spec.filename, (t.baseDirectory spec stack).map Path.components⟩ with
  | some id => exact .inl ⟨bySpec?_live hs, rfl⟩
  | none =>
    dsimp only
    cases hp : t.byPath? (t.resolve disk spec.filename (t.baseDirectory spec stack) formats).1 with
    | some id => exact .inl ⟨byPath?_live hp, rfl⟩
    | none => exact .inr ⟨_, rfl, rfl, rfl, rfl⟩

theorem places_intern (t : FileTable) (disk : Disk) (spec : FileSpec) (stack : DirectoryStack)
    (formats : List String) : (t.intern disk spec stack formats).2.places = t.places := by
  unfold intern
  dsimp only
  split
  · rfl
  · split <;> rfl

theorem live_intern {t : FileTable} (ht : t.Sound) (disk : Disk) (spec : FileSpec)
    (stack : DirectoryStack) (formats : List String) :
    (t.intern disk spec stack formats).2.Live (t.intern disk spec stack formats).1 := by
  unfold Live file?
  rcases intern_cases t disk spec stack formats with ⟨hlive, hfiles⟩ | ⟨f, -, -, hid, hfiles⟩
  · rw [hfiles]
    exact hlive
  · rw [hfiles, hid, Slots.get?_insert_self ht]
    rfl

theorem Sound.intern {t : FileTable} (ht : t.Sound) (disk : Disk) (spec : FileSpec)
    (stack : DirectoryStack) (formats : List String) :
    (t.intern disk spec stack formats).2.Sound := by
  unfold Sound
  rcases intern_cases t disk spec stack formats with ⟨-, hfiles⟩ | ⟨f, -, -, -, hfiles⟩
  · rw [hfiles]
    exact ht
  · rw [hfiles]
    exact Slots.Neat.insert ht f

/-- A live entry has a place for every position. -/
theorem placeAt_of_live {t : FileTable} {file : FileId} (h : t.Live file) (p : Position) :
    ∃ place t', t.placeAt file p = .ok (place, t') := by
  obtain ⟨f, hf⟩ := Option.isSome_iff_exists.mp h
  unfold placeAt
  rw [hf]
  dsimp only
  split
  · exact ⟨_, _, rfl⟩
  · exact ⟨_, _, rfl⟩

/-- The place that is answered for a position is the one that the file lists, or a new one, which it
lists from now on. -/
theorem placeAt_eq_ok {t u : FileTable} {file : FileId} {p : Position} {q : PlaceId}
    (h : t.placeAt file p = .ok (q, u)) : ∃ f, t.file? file = some f
      ∧ (f.findPlace p = some q ∧ u = t
        ∨ f.findPlace p = none ∧ q = ⟨(t.places.insert { file, position := p }).1⟩
          ∧ u = { t with
              places := (t.places.insert { file, position := p }).2
              files := t.files.modify file.handle fun f =>
                { f with places := FileEntry.insertPlace p q f.places } }) := by
  unfold placeAt at h
  split at h
  · cases h
  · rename_i f hf
    refine ⟨f, hf, ?_⟩
    split at h
    · rename_i hfind
      cases h
      exact .inl ⟨hfind, rfl⟩
    · rename_i hfind
      cases h
      exact .inr ⟨hfind, rfl, rfl⟩

theorem placeAt_files {t t' : FileTable} {file : FileId} {p : Position} {place : PlaceId}
    (h : t.placeAt file p = .ok (place, t')) :
    (t.Sound → t'.Sound) ∧ ∀ id, t'.Live id ↔ t.Live id := by
  obtain ⟨f, -, ⟨-, rfl⟩ | ⟨-, -, rfl⟩⟩ := placeAt_eq_ok h
  · exact ⟨id, fun _ => Iff.rfl⟩
  · refine ⟨fun ht => Slots.Neat.modify ht _ _, fun id => ?_⟩
    show (Slots.get? _ _).isSome ↔ (Slots.get? _ _).isSome
    rw [Slots.get?_modify]
    split
    · rw [Option.isSome_map]
    · rfl

theorem Sound.retain {t : FileTable} (ht : t.Sound) (id : FileId) : (t.retain id).Sound :=
  Slots.Neat.modify ht _ _

theorem Sound.release {t : FileTable} (ht : t.Sound) (id : FileId) : (t.release id).Sound :=
  Slots.Neat.modify ht _ _

theorem Sound.dropFile {t : FileTable} (ht : t.Sound) (id : FileId) : (t.dropFile id).2.Sound := by
  have h : (t.files.remove id.handle).2.Neat := Slots.Neat.remove ht id.handle
  unfold FileTable.dropFile
  split
  · exact ht
  · rename_i f files hrm
    rw [hrm] at h
    exact h

theorem Sound.flush {t : FileTable} (ht : t.Sound) (disk : Disk) (spec : FileSpec) :
    (t.flush disk spec).2.Sound := by
  unfold FileTable.flush
  split
  · exact ht.dropFile _
  · exact ht

theorem Sound.sweep {t : FileTable} (ht : t.Sound) : t.sweep.2.Sound := by
  unfold FileTable.sweep
  dsimp only
  generalize (t.entries.filter (·.2.refs = 0)).map (·.1) = unused
  induction unused generalizing t with
  | nil => exact ht
  | cons id ids ih => exact ih (ht.dropFile id)

/-- Only a place that is there is marked, and nothing but the mark changes. -/
theorem markVisited_eq_ok {t u : FileTable} {q : PlaceId} (h : t.markVisited q = .ok u) :
    u = { t with
      places := t.places.modify q.handle fun p => { p with visited := true } } := by
  unfold markVisited at h
  split at h
  · cases h
  · exact (Except.ok.inj h).symm

theorem Sound.markVisited {t t' : FileTable} (ht : t.Sound) {id : PlaceId}
    (h : t.markVisited id = .ok t') : t'.Sound := by
  rw [markVisited_eq_ok h]
  exact ht

/-- What the opening of a file in a buffer keeps, `openBuffer` keeps. -/
theorem openBuffer_of_changes {I : FileTable → Prop}
    (hopen : ∀ t id f b p, t.file? id = some f → I t → I (t.setBuffer id f b p))
    {t : FileTable} (h : I t) (disk : Disk) (sources : Sources) (id : FileId) :
    I (t.openBuffer disk sources id).2.1 := by
  unfold openBuffer
  split
  · exact h
  · rename_i f hf
    split
    · exact h
    · dsimp only
      split
      · exact hopen t id f _ _ hf h
      · exact h

/-- What a new marker of a place keeps, `placeMarkers` keeps. -/
theorem placeMarkers_of_changes {I : FileTable → Prop}
    (hmark : ∀ (t : FileTable) (q : PlaceId) (m : MarkerId), I t →
      I { t with places := t.places.modify q.handle fun p => { p with marker := some m } })
    {t : FileTable} (h : I t) (sources : Sources) (id : FileId) (b : BufferId) (screen : Bool) :
    I (t.placeMarkers sources id b screen).1 := by
  unfold placeMarkers
  split
  · exact h
  · rename_i f _
    -- by the places of the file, from any table and sources that are left by those before
    suffices hall : ∀ (qs : List PlaceId) (acc : FileTable × Sources), I acc.1 →
        I (qs.foldl (placeMarker b screen) acc).1 from hall _ (t, sources) h
    intro qs
    induction qs with
    | nil => exact fun _ hacc => hacc
    | cons q qs ih =>
      intro acc hacc
      refine ih _ ?_
      unfold placeMarker
      dsimp only
      repeat' split
      all_goals first | exact hacc | exact hmark acc.1 q _ hacc

/-- What opening a file and marking a place keep, going to a place keeps. -/
theorem locate_of_changes {I : FileTable → Prop}
    (hopen : ∀ t id f b p, t.file? id = some f → I t → I (t.setBuffer id f b p))
    (hmark : ∀ (t : FileTable) (q : PlaceId) (m : MarkerId), I t →
      I { t with places := t.places.modify q.handle fun p => { p with marker := some m } })
    {t : FileTable} (h : I t) (disk : Disk) (sources : Sources) (q : PlaceId) (screen : Bool) :
    I (t.locate disk sources q screen).2.1 := by
  unfold locate
  split
  · exact h
  · rename_i p _
    split
    · exact h
    · -- whatever is answered, the table is left by opening the buffer and placing markers
      have hbuffer := openBuffer_of_changes hopen h disk sources p.file
      split
      · rename_i hrun
        rw [hrun] at hbuffer
        exact hbuffer
      · rename_i b u sources' hrun
        rw [hrun] at hbuffer
        have hmarks := placeMarkers_of_changes hmark hbuffer sources' p.file b screen
        dsimp only
        repeat' split
        all_goals exact hmarks

theorem Sound.locate {t : FileTable} (ht : t.Sound) (disk : Disk) (sources : Sources)
    (id : PlaceId) (screen : Bool) : (t.locate disk sources id screen).2.1.Sound :=
  locate_of_changes (I := Sound) (fun _ _ _ _ _ _ ht => Slots.Neat.modify ht _ _)
    (fun _ _ _ ht => ht) ht disk sources id screen

end FileTable

/-! ## 2. Places of a location -/

/-- The places of a message are the one made for where it begins and, if it can be made, the one for
where it ends. -/
theorem placesOf_eq_ok {t u : FileTable} {file : FileId} {l : TextLocation} {place : PlaceId}
    {endPlace : Option PlaceId} (h : placesOf t file l = .ok (place, endPlace, u)) :
    ∃ v, t.placeAt file l.position = .ok (place, v)
      ∧ (endPlace = none ∧ u = v
        ∨ ∃ p q, l.endPosition? = some p ∧ endPlace = some q ∧ v.placeAt file p = .ok (q, u)) := by
  unfold placesOf at h
  cases hp : t.placeAt file l.position with
  | error e =>
    rw [hp] at h
    cases h
  | ok r =>
    obtain ⟨q, v⟩ := r
    rw [hp] at h
    dsimp only at h
    split at h
    · cases h
      exact ⟨u, rfl, .inl ⟨rfl, rfl⟩⟩
    · rename_i p hend
      split at h
      · rename_i e w hp'
        cases h
        exact ⟨v, rfl, .inr ⟨p, e, hend, rfl, hp'⟩⟩
      · cases h
        exact ⟨u, rfl, .inl ⟨rfl, rfl⟩⟩

/-- In a live entry, the places of a location can be made. -/
theorem placesOf_of_live {t : FileTable} {file : FileId} (h : t.Live file) (l : TextLocation) :
    ∃ place endPlace t', placesOf t file l = .ok (place, endPlace, t') ∧ (t.Sound → t'.Sound) := by
  obtain ⟨place, t₁, h₁⟩ := FileTable.placeAt_of_live h l.position
  have hf₁ := FileTable.placeAt_files h₁
  unfold placesOf
  rw [h₁]
  dsimp only
  cases l.endPosition? with
  | none => exact ⟨place, none, t₁, rfl, hf₁.1⟩
  | some p =>
    obtain ⟨endPlace, t₂, h₂⟩ := FileTable.placeAt_of_live ((hf₁.2 file).mpr h) p
    dsimp only
    rw [h₂]
    exact ⟨place, some endPlace, t₂, rfl, fun ht => (FileTable.placeAt_files h₂).1 (hf₁.1 ht)⟩

end BuildLog
