import BuildLog.Proofs.Indexes
import BuildLog.Proofs.References
import Mathlib.Algebra.Ring.Nat
import Mathlib.Data.List.Induction
import Mathlib.Data.List.Infix

/-!
# Filing — every live place stands at one position of one live file

A file lists its places in the order of their positions.  Whatever is done to a table, a place that
is listed is live, is in that file and has that position, and each live place is listed once.  So a
file answers the same place for a position as long as it is there.
-/

namespace BuildLog

/-! ## 1. Positions in order -/

namespace Position

theorem rank_inj {a b : Option Nat} (h : rank a = rank b) : a = b := by
  cases a with
  | none =>
    cases b with
    | none => rfl
    | some n => cases h
  | some m =>
    cases b with
    | none => cases h
    | some n => exact congrArg some (Nat.succ.inj h)

theorem lt_iff {p q : Position} : p.lt q ↔ rank p.line < rank q.line
    ∨ rank p.line = rank q.line ∧ rank p.column < rank q.column := by
  rw [lt, Bool.or_eq_true, Bool.and_eq_true, decide_eq_true_iff, decide_eq_true_iff,
    decide_eq_true_iff]

theorem lt_irrefl (p : Position) : ¬ p.lt p := by
  rw [lt_iff]
  omega

theorem lt_trans {p q r : Position} (h : p.lt q) (h' : q.lt r) : p.lt r := by
  rw [lt_iff] at *
  omega

/-- Of two positions one comes first. -/
theorem lt_of_not_lt {p q : Position} (h : ¬ p.lt q) (hne : p ≠ q) : q.lt p := by
  obtain ⟨pl, pc⟩ := p
  obtain ⟨ql, qc⟩ := q
  rw [lt_iff] at *
  dsimp only at h ⊢
  by_cases hl : rank pl = rank ql
  · have hc : rank pc ≠ rank qc := by
      intro hc
      exact hne (by rw [rank_inj hl, rank_inj hc])
    omega
  · omega

end Position

namespace FileEntry

/-- The order in which a file lists its places. -/
def Sorted (ps : List (Position × PlaceId)) : Prop := ps.Pairwise fun e e' => e.1.lt e'.1

variable {ps : List (Position × PlaceId)} {p : Position} {q : PlaceId}

/-- A file answers for a position the place that it lists there. -/
theorem Sorted.lookup_eq_some_iff (h : Sorted ps) : ps.lookup p = some q ↔ (p, q) ∈ ps := by
  induction ps with
  | nil => exact ⟨nofun, nofun⟩
  | cons e ps ih =>
    obtain ⟨hbefore, htail⟩ := List.pairwise_cons.mp h
    rw [List.lookup_cons, List.mem_cons]
    by_cases hp : p = e.1
    · -- the places behind the first are at other positions
      have hnot : (p, q) ∉ ps := by
        intro hmem
        have hlt := hbefore _ hmem
        rw [hp] at hlt
        exact e.1.lt_irrefl hlt
      rw [or_iff_left hnot, beq_iff_eq.mpr hp, Prod.ext_iff, and_iff_right hp,
        Option.some.injEq, eq_comm]
    · have hne : (p, q) ≠ e := fun heq => hp (congrArg Prod.fst heq)
      rw [beq_eq_false_iff_ne.mpr hp, or_iff_right hne]
      exact ih htail

theorem Sorted.insertPlace (h : Sorted ps) (hnew : ps.lookup p = none) (q : PlaceId) :
    Sorted (insertPlace p q ps) := by
  induction ps with
  | nil => exact List.pairwise_singleton _ _
  | cons e ps ih =>
    obtain ⟨hbefore, htail⟩ := List.pairwise_cons.mp h
    rw [FileEntry.insertPlace]
    split
    · rename_i hlt
      refine List.Pairwise.cons (fun e' he' => ?_) h
      rcases List.mem_cons.mp he' with rfl | he'
      · exact hlt
      · exact Position.lt_trans hlt (hbefore e' he')
    · rename_i hlt
      have hne : p ≠ e.1 := by
        intro hp
        rw [List.lookup_cons, beq_iff_eq.mpr hp] at hnew
        cases hnew
      rw [List.lookup_cons, beq_eq_false_iff_ne.mpr hne] at hnew
      refine List.Pairwise.cons (fun e' he' => ?_) (ih htail hnew)
      rcases FileTable.mem_insertPlace.mp he' with rfl | he'
      · exact Position.lt_of_not_lt hlt hne
      · exact hbefore e' he'

end FileEntry

namespace FileTable

/-! ## 2. Steps -/

/-- Whatever is done to a table. -/
inductive Step
  | operate (op : Operation)
  | markVisited (id : PlaceId)
  | clear

def step (t : FileTable) : Step → FileTable
  | .operate op => t.operate op
  | .markVisited id =>
    match t.markVisited id with
    | .ok u => u
    | .error _ => t
  | .clear => t.clear

def steps (t : FileTable) (ss : List Step) : FileTable := ss.foldl step t

theorem steps_concat (t : FileTable) (ss : List Step) (s : Step) :
    t.steps (ss ++ [s]) = (t.steps ss).step s := List.foldl_append

section

variable {t : FileTable}

theorem Coherent.operate (ht : t.Coherent) (op : Operation) : (t.operate op).Coherent := by
  cases op with
  | intern disk spec stack formats => exact (ht.intern disk spec stack formats).coherent
  | placeAt file p =>
    unfold FileTable.operate
    dsimp only
    split
    · rename_i hplace
      exact (ht.placeAt hplace).1.coherent
    · exact ht
  | locate disk sources id screen => exact (ht.locate disk sources id screen).coherent
  | retain id => exact Accounts.coherent_modify ht id fun _ => rfl
  | release id => exact Accounts.coherent_modify ht id fun _ => rfl
  | flush disk spec => exact flush_of_dropFile (fun t id ht => (ht.dropFile id).1) ht disk spec
  | dropFile id => exact (ht.dropFile id).1
  | sweep => exact sweep_of_dropFile (fun t id ht => (ht.dropFile id).1) ht

theorem file?_clear (t : FileTable) (id : FileId) : t.clear.file? id = none :=
  Slots.get?_clear t.files id.handle

theorem place?_clear (t : FileTable) (q : PlaceId) : t.clear.place? q = none :=
  Slots.get?_clear t.places q.handle

theorem Coherent.clear (ht : t.Coherent) : t.clear.Coherent := by
  refine ⟨ht.files.clear, ht.places.clear, fun id f hf => ?_, fun q p hp => ?_⟩
  · rw [file?_clear] at hf
    cases hf
  · rw [place?_clear] at hp
    cases hp

theorem Coherent.step (ht : t.Coherent) (s : Step) : (t.step s).Coherent := by
  cases s with
  | operate op => exact ht.operate op
  | markVisited id =>
    unfold FileTable.step
    dsimp only
    split
    · rename_i hvisited
      exact (ht.markVisited hvisited).coherent
    · exact ht
  | clear => exact ht.clear

end

/-! ## 3. What a step does to the lists of the files -/

/-- The places that a live file lists. -/
def listing (t : FileTable) (id : FileId) : Option (List (Position × PlaceId)) :=
  (t.file? id).map (·.places)

/-- The file and the position of a live place. -/
def spot (t : FileTable) (q : PlaceId) : Option (FileId × Position) :=
  (t.place? q).map fun p => (p.file, p.position)

/-- Two tables with the same files and places, but for what else is known of them. -/
structure Alike (t u : FileTable) : Prop where
  listing : ∀ id, u.listing id = t.listing id
  spot : ∀ q, u.spot q = t.spot q

/-- What a step may do. -/
inductive Filing (t u : FileTable) : Prop
  | alike (h : t.Alike u)
  | fileAdded (id : FileId) (hnew : t.listing id = none)
    (hlisting : ∀ k, u.listing k = if k = id then some [] else t.listing k)
    (hspot : ∀ q, u.spot q = t.spot q)
  | placeAdded (file : FileId) (p : Position) (q : PlaceId) (ps : List (Position × PlaceId))
    (hps : t.listing file = some ps) (hp : ps.lookup p = none) (hq : t.spot q = none)
    (hlisting : ∀ k, u.listing k
      = if k = file then some (FileEntry.insertPlace p q ps) else t.listing k)
    (hspot : ∀ r, u.spot r = if r = q then some (file, p) else t.spot r)
  | filesDropped (ids : List FileId)
    (hlisting : ∀ k, u.listing k = if k ∈ ids then none else t.listing k)
    (hspot : ∀ q, u.spot q = (t.spot q).filter (·.1 ∉ ids))
  | emptied (hlisting : ∀ k, u.listing k = none) (hspot : ∀ q, u.spot q = none)

section

variable {t u : FileTable}

theorem Alike.refl (t : FileTable) : t.Alike t := ⟨fun _ => rfl, fun _ => rfl⟩

theorem Alike.modifyFile (h : t.Alike u) (id : FileId) {g : FileEntry → FileEntry}
    (hg : ∀ f, (g f).places = f.places) :
    t.Alike { u with files := u.files.modify id.handle g } := by
  refine ⟨fun k => ?_, h.spot⟩
  rw [← h.listing, FileTable.listing, Accounts.file?_modify]
  split
  · rw [Option.map_map]
    exact congrArg (Option.map · _) (funext hg)
  · rfl

theorem Alike.modifyPlace (h : t.Alike u) (q : PlaceId) {g : Place → Place}
    (hg : ∀ p, ((g p).file, (g p).position) = (p.file, p.position)) :
    t.Alike { u with places := u.places.modify q.handle g } := by
  refine ⟨h.listing, fun r => ?_⟩
  rw [← h.spot]
  show ((u.places.modify _ _).get? _).map _ = (u.places.get? _).map _
  rw [Slots.get?_modify]
  split
  · rw [Option.map_map]
    exact congrArg (Option.map · _) (funext hg)
  · rfl

theorem alike_locate (t : FileTable) (disk : Disk) (sources : Sources) (q : PlaceId)
    (screen : Bool) : t.Alike (t.locate disk sources q screen).2.1 := by
  refine locate_of_changes (I := t.Alike) (fun u id f b p _ hu => ?_) (fun u q m hu => ?_)
    (.refl t) disk sources q screen
  · have hmod := hu.modifyFile id (g := fun f =>
      { f with path := p, found := true, buffer := some b }) fun _ => rfl
    exact ⟨hmod.listing, hmod.spot⟩
  · exact hu.modifyPlace q fun _ => rfl

theorem filing_intern (ht : t.Coherent) (disk : Disk) (spec : FileSpec) (stack : DirectoryStack)
    (formats : List String) : t.Filing (t.intern disk spec stack formats).2 := by
  have hspot : ∀ q, (t.intern disk spec stack formats).2.spot q = t.spot q := by
    intro q
    rw [spot, place?, places_intern]
    rfl
  rcases intern_cases t disk spec stack formats with ⟨-, hfiles⟩ | ⟨f, hps, -, -, hfiles⟩
  · refine .alike ⟨fun id => ?_, hspot⟩
    rw [listing, file?, hfiles]
    rfl
  · refine .fileAdded ⟨(t.files.insert f).1⟩ ?_ (fun k => ?_) hspot
    · rw [listing, file?, Slots.get?_fst_insert ht.files]
      rfl
    · rw [listing, file?, hfiles, Slots.get?_insert ht.files]
      simp only [← handle_eq_iff (a := k)]
      split
      · rw [Option.map_some, hps]
      · rfl

/-- A file answers the place that it lists at a position, or lists a new one there. -/
theorem placeAt_cases (ht : t.Coherent) {file : FileId} {p : Position} {q : PlaceId}
    (h : t.placeAt file p = .ok (q, u)) : ∃ ps, t.listing file = some ps
      ∧ (ps.lookup p = some q ∧ u = t
        ∨ ps.lookup p = none ∧ t.spot q = none
          ∧ (∀ k, u.listing k
            = if k = file then some (FileEntry.insertPlace p q ps) else t.listing k)
          ∧ ∀ r, u.spot r = if r = q then some (file, p) else t.spot r) := by
  obtain ⟨f, hf, ⟨hfind, rfl⟩ | ⟨hnone, rfl, rfl⟩⟩ := placeAt_eq_ok h
  · exact ⟨f.places, by rw [listing, hf]; rfl, .inl ⟨hfind, rfl⟩⟩
  · refine ⟨f.places, by rw [listing, hf]; rfl, .inr ⟨hnone, ?_, fun k => ?_, fun r => ?_⟩⟩
    · show (t.places.get? _).map _ = none
      exact congrArg (Option.map _) (Slots.get?_fst_insert ht.places _)
    · refine (congrArg (Option.map _) (Accounts.file?_modify t file _ k)).trans ?_
      split
      · rename_i hk
        rw [hk, hf]
        rfl
      · rfl
    · refine (congrArg (Option.map _) (Slots.get?_insert ht.places _ r.handle)).trans ?_
      show _ = if r = (⟨(t.places.insert { file, position := p }).1⟩ : PlaceId) then _ else _
      simp only [← place_handle_eq_iff (a := r)]
      split <;> rfl

theorem filing_placeAt (ht : t.Coherent) {file : FileId} {p : Position} {q : PlaceId}
    (h : t.placeAt file p = .ok (q, u)) : t.Filing u := by
  obtain ⟨ps, hps, ⟨-, rfl⟩ | ⟨hp, hq, hlisting, hspot⟩⟩ := placeAt_cases ht h
  · exact .alike (.refl u)
  · exact .placeAdded file p q ps hps hp hq hlisting hspot

theorem filing_dropAll (ht : t.Coherent) (ids : List FileId) :
    t.Filing (ids.foldl (fun t id => (t.dropFile id).2) t) := by
  refine .filesDropped ids (fun k => ?_) fun q => ?_
  · rw [listing, file?_dropAll]
    split <;> rfl
  · rw [spot, ht.place?_dropAll, spot]
    cases t.place? q with
    | none => rfl
    | some p => by_cases hp : p.file ∈ ids <;> simp [Option.filter, hp]

theorem filing_operate (ht : t.Coherent) (op : Operation) : t.Filing (t.operate op) := by
  cases op with
  | intern disk spec stack formats => exact filing_intern ht disk spec stack formats
  | placeAt file p =>
    unfold operate
    dsimp only
    split
    · rename_i hplace
      exact filing_placeAt ht hplace
    · exact .alike (.refl t)
  | locate disk sources id screen => exact .alike (t.alike_locate disk sources id screen)
  | retain id => exact .alike ((Alike.refl t).modifyFile id fun _ => rfl)
  | release id => exact .alike ((Alike.refl t).modifyFile id fun _ => rfl)
  | flush disk spec =>
    unfold operate flush
    dsimp only
    split
    · rename_i id _
      exact filing_dropAll ht [id]
    · exact .alike (.refl t)
  | dropFile id => exact filing_dropAll ht [id]
  | sweep => exact filing_dropAll ht _

theorem filing_step (ht : t.Coherent) (s : Step) : t.Filing (t.step s) := by
  cases s with
  | operate op => exact filing_operate ht op
  | markVisited id =>
    unfold step
    dsimp only
    split
    · rename_i hvisited
      rw [markVisited_eq_ok hvisited]
      exact .alike ((Alike.refl t).modifyPlace id fun _ => rfl)
    · exact .alike (.refl t)
  | clear =>
    refine .emptied (fun k => ?_) fun q => ?_
    · show (t.clear.file? k).map _ = none
      rw [file?_clear]
      rfl
    · show (t.clear.place? q).map _ = none
      rw [place?_clear]
      rfl

end

/-! ## 4. Filed tables -/

/-- A file lists its places in order, and each is live, in the file and at its position. -/
structure Filed (t : FileTable) : Prop where
  coherent : t.Coherent
  sorted : ∀ id ps, t.listing id = some ps → FileEntry.Sorted ps
  spot : ∀ id ps, t.listing id = some ps → ∀ p q, (p, q) ∈ ps → t.spot q = some (id, p)

theorem filed_empty (searchPath : List (Option Path)) (workingDir : Path) :
    Filed { searchPath, workingDir } :=
  ⟨coherent_empty searchPath workingDir, nofun, nofun⟩

section

variable {t u : FileTable}

theorem listing_eq_some {id : FileId} {ps : List (Position × PlaceId)} :
    t.listing id = some ps ↔ ∃ f, t.file? id = some f ∧ f.places = ps := Option.map_eq_some_iff

theorem listing_of_file {id : FileId} {f : FileEntry} (hf : t.file? id = some f) :
    t.listing id = some f.places := listing_eq_some.mpr ⟨f, hf, rfl⟩

theorem spot_eq_some {q : PlaceId} {id : FileId} {p : Position} :
    t.spot q = some (id, p) ↔ ∃ x, t.place? q = some x ∧ x.file = id ∧ x.position = p := by
  rw [spot, Option.map_eq_some_iff]
  simp only [Prod.mk.injEq]

/-- The list of a live file is new, is as it was, or has one place more, for which there was none.
The places of the file are where they were. -/
theorem Filing.of_listing (hf : t.Filing u) {id : FileId} {us : List (Position × PlaceId)}
    (hus : u.listing id = some us) :
    (t.listing id = none ∧ us = [] ∨ t.listing id = some us
      ∨ ∃ p q ps, t.listing id = some ps ∧ ps.lookup p = none ∧ u.spot q = some (id, p)
        ∧ us = FileEntry.insertPlace p q ps)
    ∧ ∀ r p, t.spot r = some (id, p) → u.spot r = some (id, p) := by
  cases hf with
  | alike ha =>
    rw [ha.listing] at hus
    exact ⟨.inr (.inl hus), fun r p hr => by rw [ha.spot, hr]⟩
  | fileAdded k hnew hlisting hspot =>
    refine ⟨?_, fun r p hr => by rw [hspot, hr]⟩
    rw [hlisting] at hus
    split at hus
    · rename_i hid
      cases hus
      exact .inl ⟨hid ▸ hnew, rfl⟩
    · exact .inr (.inl hus)
  | placeAdded file p q ps hps hp hq hlisting hspot =>
    refine ⟨?_, fun r p' hr => ?_⟩
    · rw [hlisting] at hus
      split at hus
      · rename_i hid
        cases hus
        exact .inr (.inr ⟨p, q, ps, hid ▸ hps, hp, by rw [hspot, if_pos rfl, hid], rfl⟩)
      · exact .inr (.inl hus)
    · -- a place that was live before is not the new one
      have hne : r ≠ q := by
        rintro rfl
        rw [hq] at hr
        cases hr
      rw [hspot, if_neg hne, hr]
  | filesDropped ids hlisting hspot =>
    rw [hlisting] at hus
    split at hus
    · cases hus
    · rename_i hid
      refine ⟨.inr (.inl hus), fun r p hr => ?_⟩
      rw [hspot, hr, Option.filter_some, if_pos (by simpa using hid)]
  | emptied hlisting hspot =>
    rw [hlisting] at hus
    cases hus

/-- A place is listed where it was, if the file is still there. -/
theorem Filing.mem_listing (hf : t.Filing u) {id : FileId} {ps us : List (Position × PlaceId)}
    (hps : t.listing id = some ps) (hus : u.listing id = some us) {e : Position × PlaceId}
    (he : e ∈ ps) : e ∈ us := by
  obtain ⟨⟨hnew, -⟩ | hold | ⟨p, q, ps', hold, -, -, rfl⟩, -⟩ := hf.of_listing hus
  · rw [hps] at hnew
    cases hnew
  · rw [hps] at hold
    cases hold
    exact he
  · rw [hps] at hold
    cases hold
    exact mem_insertPlace.mpr (.inr he)

theorem Filed.of_filing (h : t.Filed) (hu : u.Coherent) (hf : t.Filing u) : u.Filed := by
  refine ⟨hu, fun id us hus => ?_, fun id us hus p q hmem => ?_⟩
  · obtain ⟨⟨-, rfl⟩ | hold | ⟨p, q, ps, hps, hp, -, rfl⟩, -⟩ := hf.of_listing hus
    · exact List.Pairwise.nil
    · exact h.sorted id us hold
    · exact (h.sorted id ps hps).insertPlace hp q
  · obtain ⟨⟨-, rfl⟩ | hold | ⟨p', q', ps, hps, -, hq', rfl⟩, hkept⟩ := hf.of_listing hus
    · cases hmem
    · exact hkept q p (h.spot id us hold p q hmem)
    · rcases mem_insertPlace.mp hmem with heq | hmem
      · cases heq
        exact hq'
      · exact hkept q p (h.spot id ps hps p q hmem)

theorem Filed.step (h : t.Filed) (s : Step) : (t.step s).Filed :=
  h.of_filing (h.coherent.step s) (filing_step h.coherent s)

theorem Filed.steps (h : t.Filed) (ss : List Step) : (t.steps ss).Filed := by
  induction ss using List.reverseRecOn with
  | nil => exact h
  | append_singleton ss s ih =>
    rw [steps_concat]
    exact ih.step s

/-- The live places are those that the live files list, each where it is listed. -/
theorem Filed.spot_iff (h : t.Filed) {q : PlaceId} {id : FileId} {p : Position} :
    t.spot q = some (id, p) ↔ ∃ ps, t.listing id = some ps ∧ (p, q) ∈ ps := by
  constructor
  · intro hq
    obtain ⟨x, hx, rfl, rfl⟩ := spot_eq_some.mp hq
    obtain ⟨f, hf, e, he, rfl⟩ := h.coherent.owned q x hx
    have hspot := h.spot x.file f.places (listing_of_file hf) e.1 e.2 he
    rw [hq] at hspot
    have hpos : x.position = e.1 := congrArg Prod.snd (Option.some.inj hspot)
    exact ⟨f.places, listing_of_file hf, by rw [hpos]; exact he⟩
  · rintro ⟨ps, hps, hmem⟩
    exact h.spot id ps hps p q hmem

/-- No place is listed twice. -/
theorem Filed.nodup_listed (h : t.Filed) :
    (t.entries.flatMap fun e => e.2.places.map (·.2.handle)).Nodup := by
  have hspot : ∀ e ∈ t.entries, ∀ x ∈ e.2.places, t.spot x.2 = some (e.1, x.1) := fun e he x hx =>
    h.spot e.1 e.2.places (listing_of_file (mem_entries.mp he)) x.1 x.2 hx
  refine List.nodup_flatMap.mpr ⟨fun e he => ?_, ?_⟩
  · -- in one file, one place would be at two positions
    have hsorted := h.sorted e.1 e.2.places (listing_of_file (mem_entries.mp he))
    refine List.pairwise_map.mpr (hsorted.imp_of_mem fun {x y} hx hy hlt heq => ?_)
    have hxy := hspot e he x hx
    rw [place_handle_eq_iff.mp heq, hspot e he y hy] at hxy
    have hpos : y.1 = x.1 := congrArg Prod.snd (Option.some.inj hxy)
    rw [hpos] at hlt
    exact Position.lt_irrefl x.1 hlt
  · -- of two files, one place would be in both
    have hids : t.entries.Pairwise fun e e' => e.1 ≠ e'.1 := by
      refine List.pairwise_map.mpr ?_
      refine (List.pairwise_map.mp (Slots.nodup_handles t.files)).imp fun hne heq => hne ?_
      exact congrArg FileId.handle heq
    refine hids.imp_of_mem fun {e e'} he he' hne k hk hk' => ?_
    obtain ⟨x, hx, rfl⟩ := List.mem_map.mp hk
    obtain ⟨y, hy, heq⟩ := List.mem_map.mp hk'
    have hxy := hspot e he x hx
    rw [← place_handle_eq_iff.mp heq, hspot e' he' y hy] at hxy
    exact hne (congrArg Prod.fst (Option.some.inj hxy)).symm

/-- There are as many places as the files list. -/
theorem Filed.placeCount_eq (h : t.Filed) :
    t.placeCount = (t.entries.map fun e => e.2.places.length).sum := by
  have hperm : (t.places.toList.map (·.1)).Perm
      (t.entries.flatMap fun e => e.2.places.map (·.2.handle)) := by
    refine (List.perm_ext_iff_of_nodup (Slots.nodup_handles _) h.nodup_listed).mpr fun k => ?_
    rw [List.mem_map, List.mem_flatMap]
    constructor
    · rintro ⟨⟨k, x⟩, hx, rfl⟩
      have hspot : t.spot ⟨k⟩ = some (x.file, x.position) :=
        spot_eq_some.mpr ⟨x, Slots.mem_toList.mp hx, rfl, rfl⟩
      obtain ⟨ps, hps, hmem⟩ := h.spot_iff.mp hspot
      obtain ⟨f, hf, rfl⟩ := listing_eq_some.mp hps
      exact ⟨(x.file, f), mem_entries.mpr hf, List.mem_map.mpr ⟨_, hmem, rfl⟩⟩
    · rintro ⟨e, he, hk⟩
      obtain ⟨y, hy, rfl⟩ := List.mem_map.mp hk
      have hspot := h.spot e.1 e.2.places (listing_of_file (mem_entries.mp he)) y.1 y.2 hy
      obtain ⟨x, hx, -⟩ := spot_eq_some.mp hspot
      exact ⟨(y.2.handle, x), Slots.mem_toList.mpr hx, rfl⟩
  have hlength := hperm.length_eq
  rw [List.length_map, List.length_flatMap] at hlength
  rw [placeCount, h.coherent.places.size_eq, hlength]
  simp only [List.length_map]

/-! ## 5. A position is answered alike while its file is live -/

/-- A place that a file lists is what it answers for its position. -/
theorem Filed.placeAt_of_mem (h : t.Filed) {file : FileId} {ps : List (Position × PlaceId)}
    (hps : t.listing file = some ps) {p : Position} {q : PlaceId} (hmem : (p, q) ∈ ps) :
    t.placeAt file p = .ok (q, t) := by
  obtain ⟨f, hf, rfl⟩ := listing_eq_some.mp hps
  have hfind : f.findPlace p = some q := (h.sorted file f.places hps).lookup_eq_some_iff.mpr hmem
  unfold placeAt
  rw [hf]
  dsimp only
  rw [hfind]

theorem Filed.mem_of_placeAt (h : t.Filed) {file : FileId} {p : Position} {q : PlaceId}
    (hplace : t.placeAt file p = .ok (q, u)) : ∃ ps, u.listing file = some ps ∧ (p, q) ∈ ps := by
  obtain ⟨ps, hps, ⟨hp, rfl⟩ | ⟨-, -, hlisting, -⟩⟩ := placeAt_cases h.coherent hplace
  · exact ⟨ps, hps, (h.sorted file ps hps).lookup_eq_some_iff.mp hp⟩
  · exact ⟨_, by rw [hlisting, if_pos rfl], mem_insertPlace.mpr (.inl rfl)⟩

/-- While a file is there, it answers for a position what it answered before. -/
theorem Filed.placeAt_steps (h : t.Filed) {file : FileId} {p : Position} {q : PlaceId}
    {ps : List (Position × PlaceId)} (hps : t.listing file = some ps) (hmem : (p, q) ∈ ps)
    {later : List Step} (hlive : ∀ before, before <+: later → (t.steps before).Live file) :
    (t.steps later).placeAt file p = .ok (q, t.steps later) := by
  suffices hlist : ∃ us, (t.steps later).listing file = some us ∧ (p, q) ∈ us by
    obtain ⟨us, hus, hmem⟩ := hlist
    exact (h.steps later).placeAt_of_mem hus hmem
  induction later using List.reverseRecOn with
  | nil => exact ⟨ps, hps, hmem⟩
  | append_singleton ss s ih =>
    obtain ⟨us, hus, hmem⟩ := ih fun before hb => hlive before (hb.trans (List.prefix_append ss [s]))
    have hnow := hlive (ss ++ [s]) (List.prefix_refl _)
    rw [steps_concat] at hnow ⊢
    obtain ⟨f, hf⟩ := Option.isSome_iff_exists.mp hnow
    have hstep := filing_step (h.steps ss).coherent s
    exact ⟨f.places, listing_of_file hf, hstep.mem_listing hus (listing_of_file hf) hmem⟩

end

/-- Whatever was done to a table: each file lists its places in order, and they are live, in the
file and at their positions; each live place is listed once; and a file answers for a position one
place as long as the file is there. -/
theorem places_steps (searchPath : List (Option Path)) (workingDir : Path) (ss : List Step) :
    let t := steps { searchPath, workingDir } ss
    (∀ id f, t.file? id = some f →
        f.places.Pairwise (fun e e' => e.1.lt e'.1)
          ∧ ∀ e ∈ f.places, ∃ x, t.place? e.2 = some x ∧ x.file = id ∧ x.position = e.1)
      ∧ (∀ q x, t.place? q = some x →
        ∃! s : FileId × Position, ∃ f, t.file? s.1 = some f ∧ (s.2, q) ∈ f.places)
      ∧ t.placeCount = (t.entries.map fun e => e.2.places.length).sum
      ∧ ∀ file p, t.Live file → ∃ q u, t.placeAt file p = .ok (q, u)
        ∧ ∀ later, (∀ before, before <+: later → (u.steps before).Live file) →
          (u.steps later).placeAt file p = .ok (q, u.steps later) := by
  intro t
  have h : t.Filed := (filed_empty searchPath workingDir).steps ss
  refine ⟨fun id f hf => ⟨h.sorted id f.places (listing_of_file hf), fun e he => ?_⟩,
    fun q x hx => ?_, h.placeCount_eq, fun file p hlive => ?_⟩
  · exact spot_eq_some.mp (h.spot id f.places (listing_of_file hf) e.1 e.2 he)
  · have hspot : t.spot q = some (x.file, x.position) := spot_eq_some.mpr ⟨x, hx, rfl, rfl⟩
    refine ⟨(x.file, x.position), ?_, ?_⟩
    · obtain ⟨ps, hps, hmem⟩ := h.spot_iff.mp hspot
      obtain ⟨f, hf, rfl⟩ := listing_eq_some.mp hps
      exact ⟨f, hf, hmem⟩
    · rintro ⟨id, p⟩ ⟨f, hf, hmem⟩
      have hother := h.spot id f.places (listing_of_file hf) p q hmem
      rw [hspot] at hother
      exact (Option.some.inj hother).symm
  · obtain ⟨q, u, hplace⟩ := placeAt_of_live hlive p
    have hu : u.Filed :=
      h.of_filing (h.coherent.placeAt hplace).1.coherent (filing_placeAt h.coherent hplace)
    obtain ⟨ps, hps, hmem⟩ := h.mem_of_placeAt hplace
    exact ⟨q, u, hplace, fun later hlater => hu.placeAt_steps hps hmem hlater⟩

/-- A file is dropped, and another one takes its slots. -/
def reused : List Step :=
  [.operate (.intern .empty ⟨"a.c", none⟩ .root []), .operate (.placeAt ⟨0, 0⟩ ⟨some 1, none⟩),
    .operate (.dropFile ⟨0, 0⟩), .operate (.intern .empty ⟨"b.c", none⟩ .root []),
    .operate (.placeAt ⟨0, 1⟩ ⟨some 5, some 2⟩)]

/-- The new file answers for a new position one place, whatever is done before it is asked again. -/
theorem places_steps_reused :
    let t := steps { workingDir := ⟨['/']⟩ } reused
    let later : List Step := [.operate (.retain ⟨0, 1⟩), .operate .sweep, .markVisited ⟨1, 0⟩,
      .operate (.placeAt ⟨0, 1⟩ ⟨none, none⟩)]
    (∀ f, t.file? ⟨0, 1⟩ = some f → ∀ e ∈ f.places, ∃ x, t.place? e.2 = some x ∧ x.position = e.1)
      ∧ t.Live ⟨0, 1⟩ ∧ ∃ q u, t.placeAt ⟨0, 1⟩ ⟨some 5, none⟩ = .ok (q, u)
        ∧ (∀ before, before <+: later → (u.steps before).Live ⟨0, 1⟩)
        ∧ (u.steps later).placeAt ⟨0, 1⟩ ⟨some 5, none⟩ = .ok (q, u.steps later) := by
  intro t later
  have hlive : t.Live ⟨0, 1⟩ := by
    unfold Live
    decide +kernel
  obtain ⟨hlisted, -, -, hanswer⟩ := places_steps [none] ⟨['/']⟩ reused
  obtain ⟨q, u, hplace, hkept⟩ := hanswer ⟨0, 1⟩ ⟨some 5, none⟩ hlive
  have hstays : ∀ before ∈ later.inits, (t.placeAt ⟨0, 1⟩ ⟨some 5, none⟩).toOption.map
      (fun r => ((r.2.steps before).file? ⟨0, 1⟩).isSome) = some true := by decide +kernel
  have hthere : ∀ before, before <+: later → (u.steps before).Live ⟨0, 1⟩ := by
    intro before hbefore
    have h := hstays before ((List.mem_inits before later).mpr hbefore)
    rw [hplace] at h
    exact Option.some.inj h
  refine ⟨fun f hf e he => ?_, hlive, q, u, hplace, hthere, hkept later hthere⟩
  obtain ⟨x, hx, -, hpos⟩ := (hlisted ⟨0, 1⟩ f hf).2 e he
  exact ⟨x, hx, hpos⟩

end FileTable

end BuildLog
