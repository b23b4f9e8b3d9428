import BuildLog.Proofs.Renewal

/-!
# Dropping — what goes with a file, and what stays

A file is dropped with the places in it, and for the other files nothing changes, nor for the names
that lead to them.  The slots that become free are used again, but under other handles.  So a handle
that was given out for the file, or for a place in it, leads nowhere from then on, whatever is done to
the table.
-/

namespace BuildLog

namespace FileTable

/-! ## 1. Handles that lead nowhere -/

/-- Handles that were given out for `t` and lead nowhere in it lead nowhere in `u`, as long as no slot
was emptied so often that its generations begin anew. -/
structure KeepsStale (t u : FileTable) : Prop where
  grows : t.Grows u
  file : u.Few → ∀ id, t.files.Issued id.handle → t.file? id = none → u.file? id = none
  place : u.Few → ∀ q, t.places.Issued q.handle → t.place? q = none → u.place? q = none

section

variable {t u v : FileTable}

theorem KeepsStale.refl (t : FileTable) : t.KeepsStale t :=
  ⟨.refl t, fun _ _ _ h => h, fun _ _ _ h => h⟩

theorem KeepsStale.trans (h : t.KeepsStale u) (h' : u.KeepsStale v) : t.KeepsStale v := by
  refine ⟨h.grows.trans h'.grows, fun hfew id hid hnone => ?_, fun hfew q hq hnone => ?_⟩
  · have hu := h.file (hfew.of_grows h'.grows) id hid hnone
    exact h'.file hfew id (hid.grows h.grows.files) hu
  · have hu := h.place (hfew.of_grows h'.grows) q hq hnone
    exact h'.place hfew q (hq.grows h.grows.places) hu

/-- A new file or place has a handle that was not given out before. -/
theorem Extends.keepsStale (h : t.Extends u) : t.KeepsStale u := by
  refine ⟨h.grows, fun hfew id hid hnone => ?_, fun hfew q hq hnone => ?_⟩
  · rw [Option.eq_none_iff_forall_ne_some]
    intro g hg
    exact (h.newFile id g hg hnone).2 hfew hid
  · rw [Option.eq_none_iff_forall_ne_some]
    intro x hx
    exact h.newPlace q x hx hnone hfew hq

theorem Alike.keepsStale (h : t.Alike u) (hg : t.Grows u) : t.KeepsStale u := by
  refine ⟨hg, fun _ id _ hnone => ?_, fun _ q _ hnone => ?_⟩
  · have hlisting := h.listing id
    rw [FileTable.listing, FileTable.listing, hnone] at hlisting
    exact Option.map_eq_none_iff.mp hlisting
  · have hspot := h.spot q
    rw [FileTable.spot, FileTable.spot, hnone] at hspot
    exact Option.map_eq_none_iff.mp hspot

theorem keepsStale_modify (t : FileTable) (id : FileId) {g : FileEntry → FileEntry}
    (hg : ∀ f, (g f).places = f.places) :
    t.KeepsStale { t with files := t.files.modify id.handle g } :=
  ((Alike.refl t).modifyFile id hg).keepsStale (Accounts.grows_modify t id g)

theorem keepsStale_clear (t : FileTable) : t.KeepsStale t.clear :=
  ⟨⟨t.files.grows_clear, t.places.grows_clear⟩, fun _ id _ _ => t.file?_clear id,
    fun _ q _ _ => t.place?_clear q⟩

theorem Coherent.keepsStale_dropFile (ht : t.Coherent) (k : FileId) :
    t.KeepsStale (t.dropFile k).2 := by
  refine ⟨(ht.dropFile k).2, fun _ id _ hnone => ?_, fun _ q _ hnone => ?_⟩
  · rw [file?_dropFile, hnone, ite_self]
  · rw [ht.place?_dropFile, hnone]
    rfl

theorem Coherent.keepsStale_step (ht : t.Coherent) (s : Step) : t.KeepsStale (t.step s) := by
  have hdrop : ∀ (u : FileTable) (id : FileId), u.Coherent ∧ t.KeepsStale u →
      (u.dropFile id).2.Coherent ∧ t.KeepsStale (u.dropFile id).2 := by
    intro u id ⟨hu, h⟩
    exact ⟨(hu.dropFile id).1, h.trans (hu.keepsStale_dropFile id)⟩
  cases s with
  | operate op =>
    cases op with
    | intern disk spec stack formats => exact (ht.intern disk spec stack formats).keepsStale
    | placeAt file p =>
      show t.KeepsStale (t.operate (.placeAt file p))
      unfold FileTable.operate
      dsimp only
      split
      · rename_i hplace
        exact (ht.placeAt hplace).1.keepsStale
      · exact .refl t
    | locate disk sources q screen => exact (ht.locate disk sources q screen).keepsStale
    | retain id => exact t.keepsStale_modify id fun _ => rfl
    | release id => exact t.keepsStale_modify id fun _ => rfl
    | flush disk spec => exact (flush_of_dropFile hdrop ⟨ht, .refl t⟩ disk spec).2
    | dropFile id => exact ht.keepsStale_dropFile id
    | sweep => exact (sweep_of_dropFile hdrop ⟨ht, .refl t⟩).2
  | markVisited q =>
    unfold FileTable.step
    dsimp only
    split
    · rename_i hvisited
      exact (ht.markVisited hvisited).keepsStale
    · exact .refl t
  | clear => exact t.keepsStale_clear

end

/-! ## 2. Whatever is done to a table -/

/-- What is done to a table in its time. -/
inductive Act
  | step (s : Step)
  /-- Files are looked for elsewhere from now on. -/
  | searchIn (searchPath : List (Option Path))

def act (t : FileTable) : Act → FileTable
  | .step s => t.step s
  | .searchIn searchPath => { t with searchPath }

def actAll (t : FileTable) (acts : List Act) : FileTable := acts.foldl act t

section

variable {t : FileTable}

/-- What each act keeps, all of them keep. -/
theorem actAll_of_act {I : FileTable → Prop} (hact : ∀ t a, I t → I (t.act a)) (h : I t)
    (acts : List Act) : I (t.actAll acts) := by
  induction acts generalizing t with
  | nil => exact h
  | cons a acts ih => exact ih (hact t a h)

theorem Coherent.act (ht : t.Coherent) (a : Act) : (t.act a).Coherent := by
  cases a with
  | step s => exact ht.step s
  | searchIn searchPath => exact ⟨ht.files, ht.places, ht.listed, ht.owned⟩

theorem Faithful.act (ht : t.Faithful) (a : Act) : (t.act a).Faithful := by
  cases a with
  | step s => exact ht.step s
  | searchIn searchPath => exact ⟨ht.sound, ht.names, ht.paths⟩

theorem Coherent.keepsStale_act (ht : t.Coherent) (a : Act) : t.KeepsStale (t.act a) := by
  cases a with
  | step s => exact ht.keepsStale_step s
  | searchIn searchPath => exact ⟨⟨.refl _, .refl _⟩, fun _ _ _ h => h, fun _ _ _ h => h⟩

theorem Coherent.actAll (ht : t.Coherent) (acts : List Act) : (t.actAll acts).Coherent :=
  actAll_of_act (fun _ a h => h.act a) ht acts

theorem Faithful.actAll (ht : t.Faithful) (acts : List Act) : (t.actAll acts).Faithful :=
  actAll_of_act (fun _ a h => h.act a) ht acts

theorem Coherent.keepsStale_actAll (ht : t.Coherent) (acts : List Act) :
    t.KeepsStale (t.actAll acts) :=
  (actAll_of_act (I := fun u => u.Coherent ∧ t.KeepsStale u)
    (fun _ a h => ⟨h.1.act a, h.2.trans (h.1.keepsStale_act a)⟩) ⟨ht, .refl t⟩ acts).2

end

/-! ## 3. Names of other files -/

/-- What is found among what stays, if each key is there once. -/
theorem lookup_filter_of_nodup {κ α : Type} [BEq κ] [LawfulBEq κ] (p : α → Bool) {xs : List (κ × α)}
    (h : (xs.map (·.1)).Nodup) (k : κ) :
    (xs.filter fun x => p x.2).lookup k = (xs.lookup k).filter p := by
  apply Option.ext
  intro a
  rw [Option.filter_eq_some_iff]
  constructor
  · intro hlookup
    obtain ⟨hmem, hp⟩ := List.mem_filter.mp (mem_of_lookup hlookup)
    exact ⟨lookup_of_mem h hmem, hp⟩
  · rintro ⟨hlookup, hp⟩
    exact lookup_filter_snd p hlookup hp

section

variable {t : FileTable} {id : FileId}

theorem dropFile_of_file {f : FileEntry} (hf : t.file? id = some f) :
    (t.dropFile id).1 = true
      ∧ (t.dropFile id).2.bySpec = t.bySpec.filter (fun x => decide (x.2 ≠ id))
      ∧ (t.dropFile id).2.byPath = t.byPath.filter (fun x => decide (x.2 ≠ id)) := by
  have hfst : (t.files.remove id.handle).1 = some f := by
    rw [Slots.fst_remove]
    exact hf
  unfold dropFile
  split
  · rename_i h
    rw [h] at hfst
    cases hfst
  · exact ⟨rfl, rfl, rfl⟩

theorem dropFile_of_none (hf : t.file? id = none) : t.dropFile id = (false, t) := by
  have hfst : (t.files.remove id.handle).1 = none := by
    rw [Slots.fst_remove]
    exact hf
  unfold dropFile
  split
  · rfl
  · rename_i h
    rw [h] at hfst
    cases hfst

theorem contains_dropFile (t : FileTable) (id k : FileId) :
    (t.dropFile id).2.files.contains k.handle = (decide (k ≠ id) && t.files.contains k.handle) := by
  have hfile := congrArg Option.isSome (t.file?_dropFile id k)
  rw [file?, file?] at hfile
  rw [Slots.contains, Slots.contains, hfile]
  by_cases hk : k = id
  · simp [hk]
  · simp [hk]

/-- A name leads to the file that it was given before, or else to the one at its path. -/
theorem lookup_eq_or (t : FileTable) (disk : Disk) (spec : FileSpec) (stack : DirectoryStack) :
    t.lookup disk spec stack
      = (t.bySpec? (t.key spec stack)).or (t.byPath? (t.resolved disk spec stack [])) := by
  unfold lookup
  dsimp only
  split
  · rename_i hspec
    change t.bySpec? (t.key spec stack) = _ at hspec
    rw [hspec]
    rfl
  · rename_i hspec
    change t.bySpec? (t.key spec stack) = _ at hspec
    rw [hspec]
    rfl

variable {f : FileEntry} (hf : t.file? id = some f)
include hf

/-- Of the names, just those go that stand for the file. -/
theorem Faithful.bySpec?_dropFile (ht : t.Faithful) (key : SpecKey) :
    (t.dropFile id).2.bySpec? key = (t.bySpec? key).filter (· ≠ id) := by
  rw [bySpec?, bySpec?, (dropFile_of_file hf).2.1]
  rw [lookup_filter_of_nodup (fun k => decide (k ≠ id)) ht.names, Option.filter_filter,
    Option.filter_filter]
  congr 1
  funext k
  rw [contains_dropFile]
  cases decide (k ≠ id) <;> simp

theorem byPath?_dropFile {p : Path} {k : FileId} (h : t.byPath? p = some k) (hne : k ≠ id) :
    (t.dropFile id).2.byPath? p = some k := by
  obtain ⟨hlookup, hlive⟩ := Option.filter_eq_some_iff.mp h
  refine Option.filter_eq_some_iff.mpr ⟨?_, ?_⟩
  · rw [(dropFile_of_file hf).2.2]
    exact lookup_filter_snd (fun k => decide (k ≠ id)) hlookup (decide_eq_true hne)
  · rw [contains_dropFile, hlive, decide_eq_true hne]
    rfl

/-- A name that leads to another file leads there still. -/
theorem Faithful.lookup_dropFile (ht : t.Faithful) {disk : Disk} {spec : FileSpec}
    {stack : DirectoryStack} {k : FileId} (h : t.lookup disk spec stack = some k) (hne : k ≠ id) :
    (t.dropFile id).2.lookup disk spec stack = some k := by
  have hkey : (t.dropFile id).2.key spec stack = t.key spec stack :=
    key_congr (t.searched_dropFile id).2 spec stack
  rw [lookup_eq_or, Option.or_eq_some_iff] at h ⊢
  rw [hkey, ht.bySpec?_dropFile hf, resolved_dropFile]
  rcases h with hspec | ⟨hnone, hpath⟩
  · left
    rw [hspec, Option.filter_some, if_pos (decide_eq_true hne)]
  · right
    rw [hnone]
    exact ⟨rfl, byPath?_dropFile hf hpath hne⟩

end

/-! ## 4. Dropping a file -/

/-- Whatever was done to a table, dropping a file takes it out with the places in it, and leaves all
other files, places and names as they were.  From then on the file and those places are not there,
whatever is done, as long as no slot is emptied so often that its generations begin anew, and there is
nothing to drop any more. -/
theorem dropFile_actAll (searchPath : List (Option Path)) (workingDir : Path) (acts : List Act)
    (id : FileId) (f : FileEntry) :
    let t := actAll { searchPath, workingDir } acts
    let u := (t.dropFile id).2
    t.file? id = some f →
      (t.dropFile id).1 = true
        ∧ (∀ q, q ∈ f.places.map (·.2) ↔ (t.place? q).map (·.file) = some id)
        ∧ (∀ k, u.file? k = if k = id then none else t.file? k)
        ∧ (∀ q, u.place? q = if q ∈ f.places.map (·.2) then none else t.place? q)
        ∧ (∀ disk spec stack k, t.lookup disk spec stack = some k → k ≠ id →
          u.lookup disk spec stack = some k)
        ∧ u.dropFile id = (false, u)
        ∧ ∀ later, (u.actAll later).Few → (u.actAll later).file? id = none
          ∧ (∀ q ∈ f.places.map (·.2), (u.actAll later).place? q = none)
          ∧ (u.actAll later).dropFile id = (false, u.actAll later) := by
  intro t u hf
  have ht : t.Coherent := (coherent_empty searchPath workingDir).actAll acts
  have hfaithful : t.Faithful := (faithful_empty searchPath workingDir).actAll acts
  obtain ⟨hu, hgrows⟩ := ht.dropFile id
  have hfile : ∀ k, u.file? k = if k = id then none else t.file? k := t.file?_dropFile id
  have hgone : u.file? id = none := by rw [hfile, if_pos rfl]
  have hplace : ∀ q, u.place? q = if q ∈ f.places.map (·.2) then none else t.place? q := by
    intro q
    rw [ht.place?_dropFile]
    simp only [ht.mem_places hf]
    cases t.place? q with
    | none => simp
    | some p => by_cases hp : p.file = id <;> simp [Option.filter, hp]
  refine ⟨(dropFile_of_file hf).1, fun q => ht.mem_places hf, hfile, hplace,
    fun disk spec stack k => hfaithful.lookup_dropFile hf, dropFile_of_none hgone,
    fun later hfew => ?_⟩
  have hstale := hu.keepsStale_actAll later
  have hlater : (u.actAll later).file? id = none :=
    hstale.file hfew id ((Slots.issued_of_get? hf).grows hgrows.files) hgone
  refine ⟨hlater, fun q hq => ?_, dropFile_of_none hlater⟩
  -- the place was there, so its handle was given out
  obtain ⟨p, hp, -⟩ := Option.map_eq_some_iff.mp ((ht.mem_places hf).mp hq)
  apply hstale.place hfew q ((Slots.issued_of_get? hp).grows hgrows.places)
  rw [hplace, if_pos hq]

/-- Another file takes the slot of the one that was dropped, and a place in it that of its place. -/
theorem dropFile_actAll_reused :
    let t := actAll { workingDir := ⟨['/']⟩ }
      [.step (.operate (.intern .empty ⟨"a.c", none⟩ .root [])),
        .step (.operate (.placeAt ⟨0, 0⟩ ⟨some 1, none⟩)),
        .step (.operate (.intern .empty ⟨"b.c", none⟩ .root []))]
    let later : List Act := [.step (.operate (.intern .empty ⟨"c.c", none⟩ .root [])),
      .step (.operate (.placeAt ⟨0, 1⟩ ⟨some 2, none⟩)), .searchIn []]
    let u := (t.dropFile ⟨0, 0⟩).2.actAll later
    (∃ f, t.file? ⟨0, 0⟩ = some f ∧ f.places.map (·.2) = [⟨0, 0⟩]) ∧ u.Few
      ∧ (u.file? ⟨0, 1⟩).isSome ∧ (u.place? ⟨0, 1⟩).isSome
      ∧ u.file? ⟨0, 0⟩ = none ∧ u.place? ⟨0, 0⟩ = none := by
  intro t later u
  have hlisted : (t.file? ⟨0, 0⟩).map (fun f => f.places.map (·.2)) = some [⟨0, 0⟩] := by
    decide +kernel
  have hfew : u.Few := by decide +kernel
  obtain ⟨f, hf, hplaces⟩ := Option.map_eq_some_iff.mp hlisted
  obtain ⟨-, -, -, -, -, -, hlater⟩ := dropFile_actAll [none] ⟨['/']⟩ _ ⟨0, 0⟩ f hf
  obtain ⟨hfile, hplace, -⟩ := hlater later hfew
  have hfirst : u.place? ⟨0, 0⟩ = none := hplace ⟨0, 0⟩ (by rw [hplaces]; exact List.mem_cons_self)
  exact ⟨⟨f, hf, hplaces⟩, hfew, by decide +kernel, by decide +kernel, hfile, hfirst⟩

end FileTable

end BuildLog
