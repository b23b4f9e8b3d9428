import BuildLog.Proofs.Files

/-!
# Entries — the files of a table and the places in them

A table is coherent if each place of a live file is live, and each live place is one of the places
of its file.  Every change of a table keeps it so: new files and places are added one by one, and a
file is dropped with all its places and with no others.
-/

namespace BuildLog.FileTable

/-! ## 1. Coherent tables -/

theorem handle_eq_iff {a b : FileId} : a.handle = b.handle ↔ a = b := by
  cases a
  cases b
  exact (FileId.mk.injEq _ _ ▸ Iff.rfl)

theorem place_handle_eq_iff {a b : PlaceId} : a.handle = b.handle ↔ a = b := by
  cases a
  cases b
  exact (PlaceId.mk.injEq _ _ ▸ Iff.rfl)

/-- Files and their places belong together. -/
structure Coherent (t : FileTable) : Prop where
  files : t.files.Neat
  places : t.places.Neat
  listed : ∀ id f, t.file? id = some f → ∀ e ∈ f.places, (t.place? e.2).map (·.file) = some id
  owned : ∀ q p, t.place? q = some p → ∃ f, t.file? p.file = some f ∧ ∃ e ∈ f.places, e.2 = q

theorem coherent_empty (searchPath : List (Option Path)) (workingDir : Path) :
    Coherent { searchPath, workingDir } :=
  ⟨Slots.neat_empty, Slots.neat_empty, nofun, nofun⟩

/-- The slots of a table that `t` may become were used as often or more. -/
structure Grows (t u : FileTable) : Prop where
  files : t.files.Grows u.files
  places : t.places.Grows u.places

/-- No slot of the table was emptied so often that its generations begin anew. -/
def Few (t : FileTable) : Prop := t.files.Few ∧ t.places.Few

instance (t : FileTable) : Decidable t.Few := inferInstanceAs (Decidable (_ ∧ _))

theorem Grows.refl (t : FileTable) : t.Grows t := ⟨.refl _, .refl _⟩

theorem Grows.trans {t u v : FileTable} (h : t.Grows u) (h' : u.Grows v) : t.Grows v :=
  ⟨h.files.trans h'.files, h.places.trans h'.places⟩

theorem Few.of_grows {t u : FileTable} (hu : u.Few) (h : t.Grows u) : t.Few :=
  ⟨hu.1.of_grows h.files, hu.2.of_grows h.places⟩

/-! ## 2. Adding files and places -/

/-- A table with the files and places of `t`, and perhaps with new ones, which no message refers
to.  What is known of a file besides, and the marker of a place, may differ. -/
structure Extends (t u : FileTable) : Prop where
  coherent : u.Coherent
  grows : t.Grows u
  file : ∀ id f, t.file? id = some f → ∃ g, u.file? id = some g ∧ g.refs = f.refs
  place : ∀ q p, t.place? q = some p → ∃ x, u.place? q = some x ∧ x.file = p.file
  newFile : ∀ id g, u.file? id = some g → t.file? id = none →
    g.refs = 0 ∧ (u.Few → ¬ t.files.Issued id.handle)
  newPlace : ∀ q x, u.place? q = some x → t.place? q = none →
    u.Few → ¬ t.places.Issued q.handle

namespace Extends

variable {t u v : FileTable}

/-- Nothing but what a file is known by, and the marker of a place, has changed. -/
theorem of_same (ht : t.Coherent) (hfiles : u.files.Neat) (hplaces : u.places.Neat)
    (hg : t.Grows u)
    (hf : ∀ id, (u.file? id).map (fun f => (f.places, f.refs))
      = (t.file? id).map fun f => (f.places, f.refs))
    (hp : ∀ q, (u.place? q).map (·.file) = (t.place? q).map (·.file)) : t.Extends u := by
  -- in both tables the live entries have the same places and counts
  have hfile : ∀ {t u : FileTable} {id : FileId} {f : FileEntry},
      (u.file? id).map (fun f => (f.places, f.refs))
        = (t.file? id).map (fun f => (f.places, f.refs)) → t.file? id = some f →
      ∃ g, u.file? id = some g ∧ g.places = f.places ∧ g.refs = f.refs := by
    intro t u id f heq h
    rw [h, Option.map_some, Option.map_eq_some_iff] at heq
    obtain ⟨g, hg, hpair⟩ := heq
    exact ⟨g, hg, (Prod.mk.inj hpair).1, (Prod.mk.inj hpair).2⟩
  have hplace : ∀ {t u : FileTable} {q : PlaceId} {p : Place},
      (u.place? q).map (·.file) = (t.place? q).map (·.file) → t.place? q = some p →
      ∃ x, u.place? q = some x ∧ x.file = p.file := by
    intro t u q p heq h
    rw [h, Option.map_some, Option.map_eq_some_iff] at heq
    exact heq
  refine ⟨⟨hfiles, hplaces, fun id f h e he => ?_, fun q p h => ?_⟩, hg, fun id f h => ?_,
    fun q p h => hplace (hp q) h, fun id g h hn => ?_, fun q x h hn => ?_⟩
  · obtain ⟨f', hf', hps, -⟩ := hfile (hf id).symm h
    rw [hp]
    exact ht.listed id f' hf' e (hps ▸ he)
  · obtain ⟨p', hp', hpf⟩ := hplace (hp q).symm h
    obtain ⟨f', hf', e, he, heq⟩ := ht.owned q p' hp'
    rw [hpf] at hf'
    obtain ⟨f, hf, hps, -⟩ := hfile (hf p.file) hf'
    exact ⟨f, hf, e, by rw [hps]; exact he, heq⟩
  · obtain ⟨g, hg, -, hrefs⟩ := hfile (hf id) h
    exact ⟨g, hg, hrefs⟩
  · obtain ⟨f, hf, -⟩ := hfile (hf id).symm h
    rw [hn] at hf
    cases hf
  · obtain ⟨p, hp, -⟩ := hplace (hp q).symm h
    rw [hn] at hp
    cases hp

theorem refl (ht : t.Coherent) : t.Extends t :=
  .of_same ht ht.files ht.places (.refl t) (fun _ => rfl) fun _ => rfl

theorem trans (h : t.Extends u) (h' : u.Extends v) : t.Extends v := by
  refine ⟨h'.coherent, h.grows.trans h'.grows, fun id f hf => ?_, fun q p hp => ?_,
    fun id g hg hn => ?_, fun q x hx hn hv => ?_⟩
  · obtain ⟨g, hg, hrefs⟩ := h.file id f hf
    obtain ⟨g', hg', hrefs'⟩ := h'.file id g hg
    exact ⟨g', hg', hrefs'.trans hrefs⟩
  · obtain ⟨x, hx, hfile⟩ := h.place q p hp
    obtain ⟨x', hx', hfile'⟩ := h'.place q x hx
    exact ⟨x', hx', hfile'.trans hfile⟩
  · -- a file that is new at the end was new in one of the two steps
    cases hu : u.file? id with
    | none =>
      obtain ⟨hrefs, hnew⟩ := h'.newFile id g hg hu
      exact ⟨hrefs, fun hv hid => hnew hv (hid.grows h.grows.files)⟩
    | some f =>
      obtain ⟨hrefs, hnew⟩ := h.newFile id f hu hn
      obtain ⟨g', hg', hrefs'⟩ := h'.file id f hu
      rw [hg] at hg'
      cases hg'
      exact ⟨hrefs'.trans hrefs, fun hv => hnew (hv.of_grows h'.grows)⟩
  · cases hu : u.place? q with
    | none => exact fun hq => h'.newPlace q x hx hu hv (hq.grows h.grows.places)
    | some p => exact h.newPlace q p hu hn (hv.of_grows h'.grows)

/-- What names stand for does not count. -/
theorem of_files_places (h : t.Extends u) (hf : v.files = u.files) (hp : v.places = u.places) :
    t.Extends v := by
  obtain ⟨⟨h₁, h₂, h₃, h₄⟩, ⟨h₅, h₆⟩, h₇, h₈, h₉, h₁₀⟩ := h
  obtain ⟨_, _, _, _, _, _⟩ := v
  cases hf
  cases hp
  exact ⟨⟨h₁, h₂, h₃, h₄⟩, ⟨h₅, h₆⟩, h₇, h₈, h₉, h₁₀⟩

/-- A place that was in a file is in it still. -/
theorem map_file (h : t.Extends u) {q : PlaceId} {file : FileId}
    (hq : (t.place? q).map (·.file) = some file) : (u.place? q).map (·.file) = some file := by
  obtain ⟨p, hp, rfl⟩ := Option.map_eq_some_iff.mp hq
  obtain ⟨x, hx, hfile⟩ := h.place q p hp
  rw [hx, ← hfile]
  rfl

end Extends

section Add

variable {t : FileTable}

/-- A new file has no places, and nothing refers to it. -/
theorem Coherent.addFile (ht : t.Coherent) {f : FileEntry} (hps : f.places = []) (hrefs : f.refs = 0) :
    t.Extends { t with files := (t.files.insert f).2 } := by
  have hnone : t.files.get? (t.files.insert f).1 = none := Slots.get?_fst_insert ht.files f
  have hfile : ∀ id, FileTable.file? { t with files := (t.files.insert f).2 } id
      = if id.handle = (t.files.insert f).1 then some f else t.file? id :=
    fun id => Slots.get?_insert ht.files f id.handle
  have hgrows : t.Grows { t with files := (t.files.insert f).2 } :=
    ⟨Slots.grows_insert ht.files f, .refl _⟩
  -- a file that was live before is not the new one
  have hold : ∀ id g, t.file? id = some g →
      FileTable.file? { t with files := (t.files.insert f).2 } id = some g := by
    intro id g hg
    rw [hfile, if_neg]
    · exact hg
    · intro heq
      rw [file?, heq, hnone] at hg
      cases hg
  refine ⟨⟨ht.files.insert f, ht.places, fun id g hg e he => ?_, fun q p hp => ?_⟩, hgrows,
    fun id g hg => ⟨g, hold id g hg, rfl⟩, fun q p hp => ⟨p, hp, rfl⟩, fun id g hg hn => ?_,
    fun q x hx hn => ?_⟩
  · rw [hfile] at hg
    split at hg
    · cases hg
      rw [hps] at he
      cases he
    · exact ht.listed id g hg e he
  · obtain ⟨g, hg, hlist⟩ := ht.owned q p hp
    exact ⟨g, hold p.file g hg, hlist⟩
  · rw [hfile] at hg
    split at hg
    · rename_i hid
      cases hg
      refine ⟨hrefs, fun hfew => ?_⟩
      rw [hid]
      exact Slots.not_issued_insert ht.files (hfew.of_grows hgrows).1 f
    · rw [hn] at hg
      cases hg
  · change t.place? q = some x at hx
    rw [hn] at hx
    cases hx

theorem Coherent.intern (ht : t.Coherent) (disk : Disk) (spec : FileSpec) (stack : DirectoryStack)
    (formats : List String) : t.Extends (t.intern disk spec stack formats).2 := by
  have hplaces := places_intern t disk spec stack formats
  rcases intern_cases t disk spec stack formats with ⟨-, hfiles⟩ | ⟨f, hps, hrefs, -, hfiles⟩
  · exact (Extends.refl ht).of_files_places hfiles hplaces
  · exact (ht.addFile hps hrefs).of_files_places hfiles hplaces

theorem mem_insertPlace {p : Position} {id : PlaceId} {ps : List (Position × PlaceId)}
    {e : Position × PlaceId} : e ∈ FileEntry.insertPlace p id ps ↔ e = (p, id) ∨ e ∈ ps := by
  induction ps with
  | nil => simp [FileEntry.insertPlace]
  | cons x ps ih =>
    rw [FileEntry.insertPlace]
    split
    · exact List.mem_cons
    · rw [List.mem_cons, ih, List.mem_cons]
      exact or_left_comm

/-- A new place is put into the list of its file. -/
theorem Coherent.addPlace (ht : t.Coherent) {file : FileId} {f : FileEntry}
    (hf : t.file? file = some f) (p : Position) :
    let place := t.places.insert { file, position := p }
    t.Extends { t with
      places := place.2
      files := t.files.modify file.handle fun f =>
        { f with places := FileEntry.insertPlace p ⟨place.1⟩ f.places } } := by
  intro place
  have hnone : t.places.get? place.1 = none := Slots.get?_fst_insert ht.places _
  have hplace : ∀ q : PlaceId, place.2.get? q.handle
      = if q.handle = place.1 then some { file, position := p } else t.place? q :=
    fun q => Slots.get?_insert ht.places _ q.handle
  have hfile : ∀ id : FileId, (t.files.modify file.handle fun f =>
        { f with places := FileEntry.insertPlace p ⟨place.1⟩ f.places }).get? id.handle
      = if id.handle = file.handle then (t.file? id).map fun f =>
          { f with places := FileEntry.insertPlace p ⟨place.1⟩ f.places }
        else t.file? id :=
    fun id => Slots.get?_modify t.files file.handle _ id.handle
  have hplaces : t.places.Grows place.2 := Slots.grows_insert ht.places _
  -- a place that was live before is not the new one
  have hold : ∀ q x, t.place? q = some x → q.handle ≠ place.1 := by
    intro q x hq heq
    rw [place?, heq, hnone] at hq
    cases hq
  refine ⟨⟨ht.files.modify _ _, ht.places.insert _, fun id g hg e he => ?_, fun q x hx => ?_⟩,
    ⟨Slots.grows_modify _ _ _, hplaces⟩, fun id g hg => ?_, fun q x hx => ⟨x, ?_, rfl⟩,
    fun id g hg hn => ?_, fun q x hx hn hfew => ?_⟩
  · -- the places of a file are those it had, and the new one if it is the file of that
    have hmem : (∃ g', t.file? id = some g' ∧ e ∈ g'.places)
        ∨ (id = file ∧ e = (p, ⟨place.1⟩)) := by
      change (t.files.modify _ _).get? _ = _ at hg
      rw [hfile] at hg
      split at hg
      · rename_i hid
        obtain ⟨g', hg', rfl⟩ := Option.map_eq_some_iff.mp hg
        rcases mem_insertPlace.mp he with he | he
        · exact .inr ⟨handle_eq_iff.mp hid, he⟩
        · exact .inl ⟨g', hg', he⟩
      · exact .inl ⟨g, hg, he⟩
    show (place.2.get? _).map _ = _
    rw [hplace]
    rcases hmem with ⟨g', hg', he'⟩ | ⟨rfl, rfl⟩
    · have hlist := ht.listed id g' hg' e he'
      obtain ⟨x, hx, -⟩ := Option.map_eq_some_iff.mp hlist
      rw [if_neg (hold e.2 x hx)]
      exact hlist
    · rw [if_pos rfl]
      rfl
  · change place.2.get? _ = _ at hx
    rw [hplace] at hx
    show ∃ g, (t.files.modify _ _).get? _ = _ ∧ _
    rw [hfile]
    split at hx
    · rename_i hq
      cases hx
      refine ⟨{ f with places := FileEntry.insertPlace p ⟨place.1⟩ f.places }, ?_, (p, ⟨place.1⟩),
        mem_insertPlace.mpr (.inl rfl), (place_handle_eq_iff.mp hq).symm⟩
      rw [if_pos rfl, hf]
      rfl
    · obtain ⟨g, hg, e, he, heq⟩ := ht.owned q x hx
      rw [hg]
      split
      · exact ⟨_, rfl, e, mem_insertPlace.mpr (.inr he), heq⟩
      · exact ⟨g, rfl, e, he, heq⟩
  · show ∃ g', (t.files.modify _ _).get? _ = _ ∧ _
    rw [hfile, hg]
    split
    · exact ⟨_, rfl, rfl⟩
    · exact ⟨g, rfl, rfl⟩
  · show place.2.get? _ = _
    rw [hplace, if_neg (hold q x hx)]
    exact hx
  · change (t.files.modify _ _).get? _ = _ at hg
    rw [hfile, hn, Option.map_none, ite_self] at hg
    cases hg
  · change place.2.get? _ = _ at hx
    rw [hplace, hn] at hx
    split at hx
    · rename_i hq
      rw [hq]
      exact Slots.not_issued_insert ht.places (hfew.2.of_grows hplaces) _
    · cases hx

/-- The place that a file is given at a position is in the file. -/
theorem Coherent.placeAt (ht : t.Coherent) {u : FileTable} {file : FileId} {p : Position} {q : PlaceId}
    (h : t.placeAt file p = .ok (q, u)) :
    t.Extends u ∧ (u.place? q).map (·.file) = some file := by
  obtain ⟨f, hf, ⟨hfind, rfl⟩ | ⟨-, rfl, rfl⟩⟩ := placeAt_eq_ok h
  · obtain ⟨es, es', hes, -⟩ := List.lookup_eq_some_iff.mp hfind
    refine ⟨.refl ht, ht.listed file f hf (p, q) ?_⟩
    rw [hes]
    exact List.mem_append_right es List.mem_cons_self
  · refine ⟨ht.addPlace hf p, ?_⟩
    show ((t.places.insert _).2.get? (t.places.insert _).1).map _ = _
    rw [Slots.get?_insert_self ht.places]
    rfl

end Add

/-! ## 3. Dropping files -/

theorem files_dropFile (t : FileTable) (k : FileId) :
    (t.dropFile k).2.files = (t.files.remove k.handle).2 := by
  have hnone : (t.files.remove k.handle).1 = none → (t.files.remove k.handle).2 = t.files := by
    rw [Slots.fst_remove]
    exact Slots.remove_of_none
  unfold dropFile
  split
  · rename_i h
    rw [h] at hnone
    exact (congrArg Prod.snd h ▸ hnone rfl).symm
  · rename_i h
    rw [h]

theorem file?_dropFile (t : FileTable) (k id : FileId) :
    (t.dropFile k).2.file? id = if id = k then none else t.file? id := by
  rw [file?, files_dropFile, Slots.get?_remove]
  simp only [handle_eq_iff]
  rfl

/-- The places of some entries are taken out. -/
theorem get?_removeAll (es : List (Position × PlaceId)) (ps : Slots Place) (q : Handle) :
    (es.foldl (fun ps e => (ps.remove e.2.handle).2) ps).get? q
      = if q ∈ es.map (·.2.handle) then none else ps.get? q := by
  induction es generalizing ps with
  | nil => rfl
  | cons e es ih =>
    rw [List.foldl_cons, ih, Slots.get?_remove, List.map_cons]
    simp only [List.mem_cons]
    by_cases hq : q ∈ es.map (·.2.handle)
    · rw [if_pos hq, if_pos (.inr hq)]
    · simp only [hq, or_false, if_false]

theorem neat_removeAll (es : List (Position × PlaceId)) {ps : Slots Place} (h : ps.Neat) :
    (es.foldl (fun ps e => (ps.remove e.2.handle).2) ps).Neat
      ∧ ps.Grows (es.foldl (fun ps e => (ps.remove e.2.handle).2) ps) := by
  induction es generalizing ps with
  | nil => exact ⟨h, .refl _⟩
  | cons e es ih =>
    obtain ⟨hneat, hgrows⟩ := ih (h.remove e.2.handle)
    exact ⟨hneat, (Slots.grows_remove ps e.2.handle).trans hgrows⟩

section Drop

variable {t : FileTable} (ht : t.Coherent)
include ht

/-- The places in a file are those that it lists. -/
theorem Coherent.mem_places {id : FileId} {f : FileEntry}
    (hf : t.file? id = some f) {q : PlaceId} :
    q ∈ f.places.map (·.2) ↔ (t.place? q).map (·.file) = some id := by
  constructor
  · intro hq
    obtain ⟨e, he, rfl⟩ := List.mem_map.mp hq
    exact ht.listed id f hf e he
  · intro hq
    obtain ⟨p, hp, rfl⟩ := Option.map_eq_some_iff.mp hq
    obtain ⟨g, hg, e, he, rfl⟩ := ht.owned q p hp
    rw [hf] at hg
    cases hg
    exact List.mem_map_of_mem he

/-- A file is dropped with the places in it and with no others. -/
theorem Coherent.place?_dropFile (k : FileId) (q : PlaceId) :
    (t.dropFile k).2.place? q = (t.place? q).filter (·.file ≠ k) := by
  -- the places of the entry are just the live places in the file
  have hstays : ∀ x, t.place? q = some x → t.file? k = none → x.file ≠ k := by
    rintro x hx hk rfl
    obtain ⟨f, hf, -⟩ := ht.owned q x hx
    rw [hk] at hf
    cases hf
  unfold dropFile
  split
  · rename_i hfst
    have hnone : t.file? k = none := by
      rw [file?, ← Slots.fst_remove, hfst]
    cases hq : t.place? q with
    | none => rfl
    | some x => rw [Option.filter_some, if_pos (by simpa using hstays x hq hnone)]
  · rename_i f files hrm
    have hf : t.file? k = some f := by
      rw [file?, ← Slots.fst_remove, hrm]
    show (f.places.foldl _ t.places).get? q.handle = _
    rw [get?_removeAll]
    cases hq : t.place? q with
    | none =>
      change t.places.get? q.handle = none at hq
      rw [hq, ite_self]
      rfl
    | some x =>
      have hmem : q.handle ∈ f.places.map (·.2.handle) ↔ x.file = k := by
        have hplaces := ht.mem_places hf (q := q)
        rw [hq, Option.map_some, Option.some.injEq] at hplaces
        rw [← hplaces, List.mem_map, List.mem_map]
        simp only [place_handle_eq_iff]
      change t.places.get? q.handle = some x at hq
      simp only [hmem, hq]
      by_cases hx : x.file = k
      · simp [Option.filter, hx]
      · simp [Option.filter, hx]

theorem Coherent.dropFile (k : FileId) :
    (t.dropFile k).2.Coherent ∧ t.Grows (t.dropFile k).2 := by
  have hneat : (t.dropFile k).2.files.Neat ∧ (t.dropFile k).2.places.Neat
      ∧ t.Grows (t.dropFile k).2 := by
    have hfiles := ht.files.remove k.handle
    have hgrows := Slots.grows_remove t.files k.handle
    unfold FileTable.dropFile
    split
    · exact ⟨ht.files, ht.places, .refl t⟩
    · rename_i f files hrm
      rw [hrm] at hfiles hgrows
      obtain ⟨hplaces, hplacesGrow⟩ := neat_removeAll f.places ht.places
      exact ⟨hfiles, hplaces, hgrows, hplacesGrow⟩
  obtain ⟨hfiles, hplaces, hgrows⟩ := hneat
  refine ⟨⟨hfiles, hplaces, fun id f hf e he => ?_, fun q p hp => ?_⟩, hgrows⟩
  · rw [file?_dropFile] at hf
    split at hf
    · cases hf
    · rename_i hid
      obtain ⟨p, hp, hfile⟩ := Option.map_eq_some_iff.mp (ht.listed id f hf e he)
      rw [ht.place?_dropFile, hp, Option.filter_some, if_pos (by simpa [hfile] using hid),
        Option.map_some, hfile]
  · rw [ht.place?_dropFile, Option.filter_eq_some_iff] at hp
    obtain ⟨hp, hne⟩ := hp
    obtain ⟨f, hf, hlist⟩ := ht.owned q p hp
    refine ⟨f, ?_, hlist⟩
    rw [file?_dropFile, if_neg (by simpa using hne)]
    exact hf

omit ht in
/-- Several files are dropped. -/
theorem file?_dropAll (ids : List FileId) (t : FileTable) (id : FileId) :
    (ids.foldl (fun t id => (t.dropFile id).2) t).file? id
      = if id ∈ ids then none else t.file? id := by
  induction ids generalizing t with
  | nil => rfl
  | cons k ids ih =>
    rw [List.foldl_cons, ih, file?_dropFile]
    simp only [List.mem_cons]
    by_cases hid : id ∈ ids
    · rw [if_pos hid, if_pos (.inr hid)]
    · simp only [hid, or_false, if_false]

theorem Coherent.place?_dropAll (ids : List FileId) (q : PlaceId) :
    (ids.foldl (fun t id => (t.dropFile id).2) t).place? q = (t.place? q).filter (·.file ∉ ids) := by
  induction ids generalizing t with
  | nil =>
    rw [List.foldl_nil]
    cases t.place? q <;> simp [Option.filter]
  | cons k ids ih =>
    rw [List.foldl_cons, ih (ht.dropFile k).1, ht.place?_dropFile]
    cases t.place? q with
    | none => rfl
    | some p => by_cases hp : p.file = k <;> simp [Option.filter, hp]

omit ht in
theorem mem_entries {id : FileId} {f : FileEntry} : (id, f) ∈ t.entries ↔ t.file? id = some f := by
  rw [entries, List.mem_map, file?]
  constructor
  · rintro ⟨e, he, heq⟩
    cases heq
    exact Slots.mem_toList.mp he
  · exact fun h => ⟨(id.handle, f), Slots.mem_toList.mpr h, rfl⟩

end Drop

/-! ## 4. Going to places -/

section Go

variable {t : FileTable} (ht : t.Coherent)
include ht

/-- A change of an entry that leaves its places and its count alone. -/
theorem Coherent.modifyFile (id : FileId) {g : FileEntry → FileEntry}
    (hplaces : ∀ f, (g f).places = f.places) (hrefs : ∀ f, (g f).refs = f.refs) :
    t.Extends { t with files := t.files.modify id.handle g } := by
  refine .of_same ht (ht.files.modify _ _) ht.places ⟨Slots.grows_modify _ _ _, .refl _⟩
    (fun k => ?_) fun _ => rfl
  show ((t.files.modify _ _).get? _).map _ = _
  rw [Slots.get?_modify]
  split
  · rw [Option.map_map]
    congr 1
    funext f
    simp only [Function.comp_apply, hplaces, hrefs]
  · rfl

/-- A change of a place that leaves it in its file. -/
theorem Coherent.modifyPlace (q : PlaceId) {g : Place → Place} (hfile : ∀ p, (g p).file = p.file) :
    t.Extends { t with places := t.places.modify q.handle g } := by
  refine .of_same ht ht.files (ht.places.modify _ _) ⟨.refl _, Slots.grows_modify _ _ _⟩
    (fun _ => rfl) fun k => ?_
  show ((t.places.modify _ _).get? _).map _ = _
  rw [Slots.get?_modify]
  split
  · rw [Option.map_map]
    congr 1
    funext p
    exact hfile p
  · rfl

theorem Coherent.markVisited {u : FileTable} {q : PlaceId} (h : t.markVisited q = .ok u) :
    t.Extends u := by
  rw [markVisited_eq_ok h]
  exact ht.modifyPlace q fun _ => rfl

omit ht in
theorem place?_markVisited {u : FileTable} {q : PlaceId} (h : t.markVisited q = .ok u) (r : PlaceId) :
    u.place? r
      = if r = q then (t.place? r).map fun p => { p with visited := true } else t.place? r := by
  rw [markVisited_eq_ok h]
  show (t.places.modify _ _).get? _ = _
  rw [Slots.get?_modify]
  simp only [place_handle_eq_iff]
  rfl

theorem Coherent.locate (disk : Disk) (sources : Sources) (q : PlaceId) (screen : Bool) :
    t.Extends (t.locate disk sources q screen).2.1 := by
  refine locate_of_changes (I := t.Extends) (fun u id f b p _ hu => ?_) (fun u q m hu => ?_)
    (.refl ht) disk sources q screen
  · have hmod := hu.coherent.modifyFile id (g := fun f =>
      { f with path := p, found := true, buffer := some b }) (fun _ => rfl) fun _ => rfl
    exact (hu.trans hmod).of_files_places rfl rfl
  · exact hu.trans (hu.coherent.modifyPlace q fun _ => rfl)

end Go

end BuildLog.FileTable
