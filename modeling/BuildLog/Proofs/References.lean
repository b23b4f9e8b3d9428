import BuildLog.Proofs.Entries

/-!
# References — the messages that refer to a file, and the count that its entry keeps

A table accounts for some references if the count of each live file is the number of those to it,
and if the places of a reference are live just as long as its file.  Taking and releasing a
reference, dropping files, and every change that adds to a table keep its accounts.
-/

namespace BuildLog

/-- What a message holds of the file table. -/
structure Reference where
  file : FileId
  place : PlaceId
  endPlace : Option PlaceId

def Reference.places (r : Reference) : List PlaceId := r.place :: r.endPlace.toList

def Message.reference (m : Message) : Reference := ⟨m.file, m.place, m.endPlace⟩

namespace FileTable

/-! ## 1. Accounts -/

structure Issued (t : FileTable) (r : Reference) : Prop where
  file : t.files.Issued r.file.handle
  places : ∀ q ∈ r.places, t.places.Issued q.handle

/-- The places of a reference are live, and in its file, just as long as the file is live. -/
def Placed (t : FileTable) (r : Reference) : Prop :=
  ∀ q ∈ r.places, (t.place? q).map (·.file) = (t.file? r.file).map fun _ => r.file

/-- The table knows the references `rs`. -/
structure Accounts (t : FileTable) (rs : List Reference) : Prop where
  coherent : t.Coherent
  issued : ∀ r ∈ rs, t.Issued r
  counted : t.Few → ∀ id f, t.file? id = some f → f.refs = rs.countP (·.file = id)
  placed : t.Few → ∀ r ∈ rs, t.Placed r

theorem Issued.grows {t u : FileTable} {r : Reference} (h : t.Issued r) (hg : t.Grows u) :
    u.Issued r :=
  ⟨h.file.grows hg.files, fun q hq => (h.places q hq).grows hg.places⟩

theorem Placed.congr {t u : FileTable} {r : Reference} (h : t.Placed r)
    (hf : (u.file? r.file).isSome = (t.file? r.file).isSome)
    (hp : ∀ q ∈ r.places, (u.place? q).map (·.file) = (t.place? q).map (·.file)) : u.Placed r := by
  intro q hq
  rw [hp q hq, h q hq]
  cases ht : t.file? r.file with
  | none =>
    rw [ht] at hf
    rw [Option.isSome_eq_false_iff.mp hf |> Option.isNone_iff_eq_none.mp]
  | some f =>
    rw [ht] at hf
    obtain ⟨g, hg⟩ := Option.isSome_iff_exists.mp hf
    rw [hg]
    rfl

namespace Accounts

variable {t u : FileTable} {r : Reference} {rs rs' : List Reference}

theorem nil_of_coherent (ht : t.Coherent) (hrefs : ∀ id f, t.file? id = some f → f.refs = 0) :
    t.Accounts [] := by
  refine ⟨ht, nofun, fun _ id f hf => ?_, nofun⟩
  rw [hrefs id f hf, List.countP_nil]

theorem perm (h : t.Accounts rs) (hp : rs.Perm rs') : t.Accounts rs' := by
  refine ⟨h.coherent, fun r hr => h.issued r (hp.mem_iff.mpr hr), fun hfew id f hf => ?_,
    fun hfew r hr => h.placed hfew r (hp.mem_iff.mpr hr)⟩
  rw [h.counted hfew id f hf, hp.countP_eq]

theorem extend (h : t.Accounts rs) (he : t.Extends u) : u.Accounts rs := by
  refine ⟨he.coherent, fun r hr => (h.issued r hr).grows he.grows, fun hfew id g hg => ?_,
    fun hfew r hr q hq => ?_⟩
  · cases ht : t.file? id with
    | some f =>
      obtain ⟨g', hg', hrefs⟩ := he.file id f ht
      rw [hg] at hg'
      cases hg'
      rw [hrefs, h.counted (hfew.of_grows he.grows) id f ht]
    | none =>
      -- no reference is to a file that was not there
      obtain ⟨hrefs, hnew⟩ := he.newFile id g hg ht
      rw [hrefs, eq_comm, List.countP_eq_zero]
      intro r hr
      rw [decide_eq_true_iff]
      rintro rfl
      exact hnew hfew (h.issued r hr).file
  · have hplaced := h.placed (hfew.of_grows he.grows) r hr q hq
    cases ht : t.file? r.file with
    | some f =>
      rw [ht] at hplaced
      obtain ⟨g, hg, -⟩ := he.file r.file f ht
      rw [he.map_file hplaced, hg]
      rfl
    | none =>
      rw [ht, Option.map_none, Option.map_eq_none_iff] at hplaced
      -- neither the file nor the place can be a new one
      have hfile : u.file? r.file = none := by
        rw [Option.eq_none_iff_forall_ne_some]
        exact fun g hg => (he.newFile r.file g hg ht).2 hfew (h.issued r hr).file
      have hplace : u.place? q = none := by
        rw [Option.eq_none_iff_forall_ne_some]
        exact fun x hx => he.newPlace q x hx hplaced hfew ((h.issued r hr).places q hq)
      rw [hfile, hplace]
      rfl

/-! ## 2. Taking and releasing references -/

theorem file?_modify (t : FileTable) (k : FileId) (g : FileEntry → FileEntry) (id : FileId) :
    FileTable.file? { t with files := t.files.modify k.handle g } id
      = if id = k then (t.file? id).map g else t.file? id := by
  have hmod := Slots.get?_modify t.files k.handle g id.handle
  simp only [handle_eq_iff] at hmod
  exact hmod

theorem isSome_file?_modify (t : FileTable) (k : FileId) (g : FileEntry → FileEntry) (id : FileId) :
    (FileTable.file? { t with files := t.files.modify k.handle g } id).isSome
      = (t.file? id).isSome := by
  rw [file?_modify]
  split
  · rw [Option.isSome_map]
  · rfl

theorem coherent_modify (ht : t.Coherent) (k : FileId) {g : FileEntry → FileEntry}
    (hg : ∀ f, (g f).places = f.places) :
    Coherent { t with files := t.files.modify k.handle g } := by
  refine ⟨ht.files.modify _ _, ht.places, fun id f hf => ?_, fun q p hp => ?_⟩
  · rw [file?_modify] at hf
    split at hf
    · obtain ⟨f', hf', rfl⟩ := Option.map_eq_some_iff.mp hf
      rw [hg]
      exact ht.listed id f' hf'
    · exact ht.listed id f hf
  · obtain ⟨f, hf, hlist⟩ := ht.owned q p hp
    rw [file?_modify, hf]
    split
    · exact ⟨g f, rfl, by rw [hg]; exact hlist⟩
    · exact ⟨f, rfl, hlist⟩

theorem grows_modify (t : FileTable) (k : FileId) (g : FileEntry → FileEntry) :
    t.Grows { t with files := t.files.modify k.handle g } :=
  ⟨Slots.grows_modify _ _ _, .refl _⟩

theorem retain (h : t.Accounts rs) (hr : ∀ q ∈ r.places, (t.place? q).map (·.file) = some r.file) :
    (t.retain r.file).Accounts (r :: rs) := by
  -- the file is live, as its places are
  have hplace : (t.place? r.place).map (·.file) = some r.file := hr _ List.mem_cons_self
  obtain ⟨p, hp, hpf⟩ := Option.map_eq_some_iff.mp hplace
  obtain ⟨f, hf, -⟩ := h.coherent.owned r.place p hp
  rw [hpf] at hf
  have hgrows := grows_modify t r.file fun f => { f with refs := f.refs + 1 }
  have hissued : t.Issued r := by
    refine ⟨Slots.issued_of_get? hf, fun q hq => ?_⟩
    obtain ⟨x, hx, -⟩ := Option.map_eq_some_iff.mp (hr q hq)
    exact Slots.issued_of_get? hx
  refine ⟨coherent_modify h.coherent r.file fun _ => rfl, fun x hx => ?_, fun hfew id g hg => ?_,
    fun hfew x hx => ?_⟩
  · rcases List.mem_cons.mp hx with rfl | hx
    · exact hissued.grows hgrows
    · exact (h.issued x hx).grows hgrows
  · change FileTable.file? { t with files := t.files.modify _ _ } id = _ at hg
    rw [file?_modify] at hg
    rw [List.countP_cons]
    split at hg
    · rename_i hid
      obtain ⟨g', hg', rfl⟩ := Option.map_eq_some_iff.mp hg
      dsimp only
      rw [h.counted (hfew.of_grows hgrows) id g' hg', if_pos (decide_eq_true hid.symm)]
    · rename_i hid
      rw [h.counted (hfew.of_grows hgrows) id g hg,
        if_neg (by rw [decide_eq_true_iff]; exact fun heq => hid heq.symm)]
      rfl
  · have hold : t.Placed x := by
      rcases List.mem_cons.mp hx with rfl | hx
      · intro q hq
        rw [hr q hq, hf]
        rfl
      · exact h.placed (hfew.of_grows hgrows) x hx
    exact hold.congr (isSome_file?_modify _ _ _ _) fun _ _ => rfl

theorem release (h : t.Accounts (r :: rs)) : (t.release r.file).Accounts rs := by
  have hgrows := grows_modify t r.file fun f => { f with refs := f.refs - 1 }
  refine ⟨coherent_modify h.coherent r.file fun _ => rfl,
    fun x hx => (h.issued x (List.mem_cons_of_mem r hx)).grows hgrows, fun hfew id g hg => ?_,
    fun hfew x hx => ?_⟩
  · change FileTable.file? { t with files := t.files.modify _ _ } id = _ at hg
    rw [file?_modify] at hg
    have hcount := h.counted (hfew.of_grows hgrows) id
    -- the reference itself was counted, so the count that goes down is not zero
    simp only [List.countP_cons] at hcount
    split at hg
    · rename_i hid
      obtain ⟨g', hg', rfl⟩ := Option.map_eq_some_iff.mp hg
      dsimp only
      rw [hcount g' hg', if_pos (decide_eq_true hid.symm), Nat.add_sub_cancel]
    · rename_i hid
      rw [hcount g hg, if_neg (by rw [decide_eq_true_iff]; exact fun heq => hid heq.symm)]
      rfl
  · exact (h.placed (hfew.of_grows hgrows) x (List.mem_cons_of_mem r hx)).congr
      (isSome_file?_modify _ _ _ _) fun _ _ => rfl

/-- A reference to a file that was dropped need not be released. -/
theorem forget (h : t.Accounts (r :: rs)) (hr : t.Few → t.file? r.file = none) :
    t.Accounts rs := by
  refine ⟨h.coherent, fun x hx => h.issued x (List.mem_cons_of_mem r hx), fun hfew id f hf => ?_,
    fun hfew x hx => h.placed hfew x (List.mem_cons_of_mem r hx)⟩
  rw [h.counted hfew id f hf, List.countP_cons, if_neg]
  · rfl
  · rw [decide_eq_true_iff]
    rintro rfl
    rw [hr hfew] at hf
    cases hf

/-! ## 3. Dropping files -/

theorem dropFile (h : t.Accounts rs) (k : FileId) : (t.dropFile k).2.Accounts rs := by
  obtain ⟨hcoherent, hgrows⟩ := h.coherent.dropFile k
  refine ⟨hcoherent, fun r hr => (h.issued r hr).grows hgrows, fun hfew id f hf => ?_,
    fun hfew r hr q hq => ?_⟩
  · rw [file?_dropFile] at hf
    split at hf
    · cases hf
    · exact h.counted (hfew.of_grows hgrows) id f hf
  · -- a place goes with the file it is in, which is the file of the reference
    have hplaced := h.placed (hfew.of_grows hgrows) r hr q hq
    rw [h.coherent.place?_dropFile, file?_dropFile]
    cases hp : t.place? q with
    | none =>
      rw [hp, Option.map_none, eq_comm, Option.map_eq_none_iff] at hplaced
      rw [hplaced, ite_self]
      rfl
    | some p =>
      rw [hp, Option.map_some, eq_comm, Option.map_eq_some_iff] at hplaced
      obtain ⟨f, hf, hfile⟩ := hplaced
      rw [hf]
      by_cases hk : r.file = k
      · simp [Option.filter, ← hfile, hk]
      · simp [Option.filter, ← hfile, hk]

theorem flush (h : t.Accounts rs) (disk : Disk) (spec : FileSpec) :
    (t.flush disk spec).2.Accounts rs := by
  unfold FileTable.flush
  split
  · exact h.dropFile _
  · exact h

theorem dropAll (h : t.Accounts rs) (ids : List FileId) :
    (ids.foldl (fun t id => (t.dropFile id).2) t).Accounts rs := by
  induction ids generalizing t with
  | nil => exact h
  | cons k ids ih => exact ih (h.dropFile k)

theorem sweep (h : t.Accounts rs) : t.sweep.2.Accounts rs := h.dropAll _

/-- The files that a sweep drops are those that no reference is to. -/
theorem mem_unused (h : t.Accounts rs) (hfew : t.Few) {id : FileId} {f : FileEntry}
    (hf : t.file? id = some f) :
    id ∈ (t.entries.filter (·.2.refs = 0)).map (·.1) ↔ ∀ r ∈ rs, r.file ≠ id := by
  have hcount := h.counted hfew id f hf
  have hzero : f.refs = 0 ↔ ∀ r ∈ rs, r.file ≠ id := by
    rw [hcount, List.countP_eq_zero]
    simp only [decide_eq_true_iff, ne_eq]
  rw [← hzero, List.mem_map]
  constructor
  · rintro ⟨⟨k, g⟩, hmem, rfl⟩
    obtain ⟨hmem, hrefs⟩ := List.mem_filter.mp hmem
    rw [mem_entries.mp hmem] at hf
    cases hf
    simpa using hrefs
  · intro hrefs
    exact ⟨(id, f), List.mem_filter.mpr ⟨mem_entries.mpr hf, by simpa using hrefs⟩, rfl⟩

/-- A sweep drops the files that no reference is to, and no others. -/
theorem file?_sweep (h : t.Accounts rs) (hfew : t.Few) (id : FileId) :
    t.sweep.2.file? id = (t.file? id).filter fun _ => rs.any (·.file = id) := by
  have hdrop := file?_dropAll ((t.entries.filter (·.2.refs = 0)).map (·.1)) t id
  change t.sweep.2.file? id = _ at hdrop
  rw [hdrop]
  cases hf : t.file? id with
  | none =>
    rw [ite_self]
    rfl
  | some f =>
    rw [Option.filter_some]
    simp only [h.mem_unused hfew hf, List.any_eq_true, decide_eq_true_iff]
    by_cases hr : ∃ r ∈ rs, r.file = id
    · obtain ⟨r, hr, hid⟩ := hr
      rw [if_neg fun hnone => hnone r hr hid, if_pos ⟨r, hr, hid⟩]
    · rw [if_pos fun r hrs hid => hr ⟨r, hrs, hid⟩, if_neg hr]

/-- A sweep leaves the files and places of all references as they were. -/
theorem sweep_keeps (h : t.Accounts rs) (hfew : t.Few) (hr : r ∈ rs) :
    t.sweep.2.file? r.file = t.file? r.file ∧ ∀ q ∈ r.places, t.sweep.2.place? q = t.place? q := by
  have hany : (rs.any fun x => decide (x.file = r.file)) = true :=
    List.any_eq_true.mpr ⟨r, hr, decide_eq_true rfl⟩
  constructor
  · rw [h.file?_sweep hfew, hany]
    cases t.file? r.file <;> rfl
  · intro q hq
    have hdrop := h.coherent.place?_dropAll ((t.entries.filter (·.2.refs = 0)).map (·.1)) q
    change t.sweep.2.place? q = _ at hdrop
    rw [hdrop]
    cases hp : t.place? q with
    | none => rfl
    | some p =>
      -- a live place is in the file of the reference, which is not dropped
      have hplaced := h.placed hfew r hr q hq
      rw [hp, Option.map_some, eq_comm, Option.map_eq_some_iff] at hplaced
      obtain ⟨f, hf, hfile⟩ := hplaced
      have hkept : p.file ∉ (t.entries.filter (·.2.refs = 0)).map (·.1) := by
        rw [← hfile, h.mem_unused hfew hf]
        exact fun hnone => hnone r hr rfl
      rw [Option.filter_some, if_pos (decide_eq_true hkept)]

end Accounts

end FileTable

end BuildLog
