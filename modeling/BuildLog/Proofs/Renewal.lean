import BuildLog.Proofs.Filing
import BuildLog.Proofs.Naming

/-!
# Renewal — a file that has changed gets a new entry

A rule may say that the file of its matches has changed.  What is known of the file is dropped then,
and the message is in a new entry.  But the entry to drop is looked for without the formats of the
rule, and only if the match names its file: so there is a new entry just if no other entry stands for
the name than the one that is found.
-/

namespace BuildLog

/-! ## 1. A slot that is used again -/

namespace Slots

/-- The handle of a value that takes the slot of another one is not the handle of that one. -/
theorem fst_insert_remove_ne {α : Type} {s : Slots α} {h : Handle} {a : α} (ha : s.get? h = some a)
    (b : α) : ((s.remove h).2.insert b).1 ≠ h := by
  obtain ⟨r, hslot, hfree, hslots⟩ := remove_of_some ha
  obtain ⟨slot, hslot', hgen, -⟩ := get?_eq_some.mp ha
  rw [hslot] at hslot'
  cases hslot'
  have hremovals := hslots h.index
  rw [if_pos rfl] at hremovals
  unfold insert
  rw [hfree]
  dsimp only
  rw [hremovals]
  intro heq
  have hnext : UInt32.ofNat (r + 1) = UInt32.ofNat r := (congrArg Handle.generation heq).trans hgen.symm
  have hmod := congrArg UInt32.toNat hnext
  rw [UInt32.toNat_ofNat', UInt32.toNat_ofNat'] at hmod
  omega

end Slots

namespace FileTable

/-! ## 2. Faithful indexes -/

/-- The indexes have each name once, and each path that they have is that of its file. -/
structure Faithful (t : FileTable) : Prop where
  sound : t.Sound
  names : (t.bySpec.map (·.1)).Nodup
  paths : ∀ cs id, (cs, id) ∈ t.byPath → (t.path? id).map Path.components = some cs

theorem faithful_empty (searchPath : List (Option Path)) (workingDir : Path) :
    Faithful { searchPath, workingDir } :=
  ⟨Slots.neat_empty, List.nodup_nil, nofun⟩

theorem nodup_assign {κ α : Type} [DecidableEq κ] {xs : List (κ × α)} (h : (xs.map (·.1)).Nodup)
    (k : κ) (a : α) : ((assign k a xs).map (·.1)).Nodup := by
  rw [assign, List.map_cons, List.nodup_cons]
  refine ⟨fun hmem => ?_, h.sublist (List.filter_sublist.map _)⟩
  obtain ⟨x, hx, heq⟩ := List.mem_map.mp hmem
  exact of_decide_eq_true (List.mem_filter.mp hx).2 heq

section

variable {t : FileTable} (ht : t.Faithful)
include ht

theorem Faithful.of_sameNames {u : FileTable} (h : t.SameNames u) (hu : u.Sound) : u.Faithful := by
  refine ⟨hu, ?_, fun cs id hmem => ?_⟩
  · rw [h.bySpec]
    exact ht.names
  · rw [h.path]
    rw [h.byPath] at hmem
    exact ht.paths cs id hmem

theorem Faithful.intern (disk : Disk) (spec : FileSpec) (stack : DirectoryStack)
    (formats : List String) : (t.intern disk spec stack formats).2.Faithful := by
  have hsound := ht.sound.intern disk spec stack formats
  rcases intern_eq t disk spec stack formats with
    ⟨id, -, heq⟩ | ⟨id, -, -, heq⟩ | ⟨f, -, -, hpath, heq⟩
  · rw [heq]
    exact ht
  · rw [heq]
    exact ⟨ht.sound, nodup_assign ht.names _ _, ht.paths⟩
  · have hnew := path?_of_insert ht.sound (congrArg (fun r => r.2.files) heq)
    rw [heq] at hsound hnew ⊢
    refine ⟨hsound, nodup_assign ht.names _ _, fun cs id hmem => ?_⟩
    rw [hnew]
    rcases mem_assign.mp hmem with ⟨rfl, rfl⟩ | ⟨-, hold⟩
    · rw [if_pos rfl, Option.map_some, hpath]
    · -- a file that has a path in the index was there before
      rw [if_neg]
      · exact ht.paths cs id hold
      · rintro rfl
        have hlive := ht.paths cs _ hold
        rw [path?, file?, Slots.get?_fst_insert ht.sound] at hlive
        cases hlive

theorem Faithful.dropFile (k : FileId) : (t.dropFile k).2.Faithful := by
  refine ⟨ht.sound.dropFile k, ?_, fun cs id hmem => ?_⟩
  · unfold FileTable.dropFile
    split
    · exact ht.names
    · exact ht.names.sublist (List.filter_sublist.map _)
  · obtain ⟨hid, hold⟩ := (mem_byPath_dropFile ht.paths k cs id).mp hmem
    rw [path?_dropFile, if_neg hid]
    exact ht.paths cs id hold

theorem Faithful.setBuffer {id : FileId} {f : FileEntry} (hf : t.file? id = some f) (b : BufferId)
    (p : Path) : (t.setBuffer id f b p).Faithful := by
  refine ⟨Slots.Neat.modify ht.sound _ _, ht.names, fun cs k hmem => ?_⟩
  rw [path?_setBuffer t hf]
  rw [FileTable.setBuffer] at hmem
  dsimp only at hmem
  split at hmem
  · rename_i hsame
    have hold := ht.paths cs k hmem
    split
    · rename_i hk
      rw [hk, components_of_file hf, Path.same_iff.mp hsame] at hold
      exact hold
    · exact hold
  · rcases mem_assign.mp hmem with ⟨rfl, rfl⟩ | ⟨-, hold⟩
    · rw [if_pos rfl]
      rfl
    · -- the path that the file had has left the index
      obtain ⟨hmem', hne⟩ := List.mem_filter.mp hold
      have hpath := ht.paths cs k hmem'
      rw [if_neg]
      · exact hpath
      · rintro rfl
        rw [components_of_file hf] at hpath
        exact of_decide_eq_true hne (Option.some.inj hpath).symm

theorem Faithful.locate (disk : Disk) (sources : Sources) (q : PlaceId) (screen : Bool) :
    (t.locate disk sources q screen).2.1.Faithful := by
  have hsound := ht.sound.locate disk sources q screen
  rcases t.path?_locate disk sources q screen with hsame | ⟨p, f, b, path, -, hf, -, hsame⟩
  · exact ht.of_sameNames hsame hsound
  · exact (ht.setBuffer hf b path).of_sameNames hsame hsound

theorem Faithful.step (s : Step) : (t.step s).Faithful := by
  cases s with
  | operate op =>
    exact operate_of_changes (I := Faithful) (fun _ _ hsame hu ht => ht.of_sameNames hsame hu)
      (fun _ id ht => ht.dropFile id) ht.sound ht op
      (fun disk spec stack formats _ => ht.intern disk spec stack formats)
      fun disk sources q screen _ => ht.locate disk sources q screen
  | markVisited q =>
    unfold FileTable.step
    dsimp only
    split
    · rename_i hvisited
      rw [markVisited_eq_ok hvisited]
      exact ⟨ht.sound, ht.names, ht.paths⟩
    · exact ht
  | clear => exact ⟨Slots.Neat.clear ht.sound, List.nodup_nil, nofun⟩

theorem Faithful.steps (ss : List Step) : (t.steps ss).Faithful := by
  induction ss using List.reverseRecOn with
  | nil => exact ht
  | append_singleton ss s ih =>
    rw [steps_concat]
    exact ih.step s

end

/-! ## 3. Entries that stand for a name -/

/-- The files that a name stands for: the one that it was given before, and those at the path that it
leads to. -/
def standingFor (t : FileTable) (disk : Disk) (spec : FileSpec) (stack : DirectoryStack)
    (formats : List String) : List FileId :=
  (t.entries.filter fun e => t.bySpec? (t.key spec stack) = some e.1
    || e.2.path.same (t.resolved disk spec stack formats)).map (·.1)

section

variable {t : FileTable} {disk : Disk} {spec : FileSpec} {stack : DirectoryStack}
  {formats : List String} {id : FileId}

theorem mem_standingFor : id ∈ t.standingFor disk spec stack formats
    ↔ t.bySpec? (t.key spec stack) = some id ∨ (t.path? id).map Path.components
      = some (t.resolved disk spec stack formats).components := by
  have hlive : t.bySpec? (t.key spec stack) = some id → ∃ f, t.file? id = some f :=
    fun h => Option.isSome_iff_exists.mp (bySpec?_live h)
  simp only [standingFor, List.mem_map, List.mem_filter, Bool.or_eq_true, decide_eq_true_eq,
    Path.same_iff]
  constructor
  · rintro ⟨⟨k, f⟩, ⟨hmem, hstands⟩, rfl⟩
    refine hstands.imp_right fun hpath => ?_
    rw [components_of_file (mem_entries.mp hmem), hpath]
  · rintro (hkey | hpath)
    · obtain ⟨f, hf⟩ := hlive hkey
      exact ⟨(id, f), ⟨mem_entries.mpr hf, .inl hkey⟩, rfl⟩
    · obtain ⟨f, hf, hcs⟩ := file_of_components hpath
      exact ⟨(id, f), ⟨mem_entries.mpr hf, .inr hcs⟩, rfl⟩

theorem live_of_mem_standingFor (h : id ∈ t.standingFor disk spec stack formats) : t.Live id := by
  rcases mem_standingFor.mp h with hkey | hpath
  · exact bySpec?_live hkey
  · obtain ⟨f, hf, -⟩ := file_of_components hpath
    rw [Live, hf]
    rfl

/-- If no file stands for a name, interning it makes an entry. -/
theorem Faithful.intern_eq_insert (ht : t.Faithful)
    (hnone : ∀ id, id ∉ t.standingFor disk spec stack formats) :
    ∃ f : FileEntry, f.places = [] ∧ f.refs = 0
      ∧ (t.intern disk spec stack formats).1 = ⟨(t.files.insert f).1⟩
      ∧ (t.intern disk spec stack formats).2.files = (t.files.insert f).2 := by
  rcases intern_cases t disk spec stack formats with ⟨hlive, -⟩ | ⟨f, hps, hrefs, hid, hfiles⟩
  · exfalso
    rcases intern_eq t disk spec stack formats with
      ⟨id, hkey, -⟩ | ⟨id, -, hpath, -⟩ | ⟨f, -, -, -, heq⟩
    · exact hnone id (mem_standingFor.mpr (.inl hkey))
    · -- the index answers no file that is not at the path
      have hmem := mem_of_lookup (Option.filter_eq_some_iff.mp hpath).1
      exact hnone id (mem_standingFor.mpr (.inr (ht.paths _ _ hmem)))
    · rw [heq, Live, file?, Slots.get?_fst_insert ht.sound] at hlive
      cases hlive
  · exact ⟨f, hps, hrefs, congrArg FileId.mk hid, hfiles⟩

end

/-- The table without a file that is to be dropped. -/
def without (t : FileTable) : Option FileId → FileTable
  | some id => (t.dropFile id).2
  | none => t

theorem live_without {t : FileTable} {d : Option FileId} {id : FileId} :
    (t.without d).Live id ↔ t.Live id ∧ d ≠ some id := by
  cases d with
  | none => simp [without]
  | some k =>
    rw [Live, without, file?_dropFile]
    by_cases heq : id = k
    · simp [heq]
    · simp [heq, Live, Ne.symm heq]

theorem lookup_of_mem {κ α : Type} [BEq κ] [LawfulBEq κ] {xs : List (κ × α)} {k : κ} {a : α}
    (h : (xs.map (·.1)).Nodup) (hmem : (k, a) ∈ xs) : xs.lookup k = some a := by
  induction xs with
  | nil => cases hmem
  | cons x xs ih =>
    rw [List.map_cons, List.nodup_cons] at h
    rw [List.lookup_cons]
    rcases List.mem_cons.mp hmem with rfl | hmem
    · simp
    · have hne : k ≠ x.1 := by
        rintro rfl
        exact h.1 (List.mem_map.mpr ⟨_, hmem, rfl⟩)
      rw [beq_eq_false_iff_ne.mpr hne]
      exact ih h.2 hmem

section

variable {t : FileTable} (ht : t.Faithful) {disk : Disk} {spec : FileSpec} {stack : DirectoryStack}
  {formats : List String}
include ht

theorem Faithful.without (d : Option FileId) : (t.without d).Faithful := by
  cases d with
  | none => exact ht
  | some id => exact ht.dropFile id

/-- No more files stand for a name when one was dropped, and not this one. -/
theorem Faithful.mem_standingFor_without {d : Option FileId} {id : FileId}
    (h : id ∈ (t.without d).standingFor disk spec stack formats) :
    id ∈ t.standingFor disk spec stack formats ∧ d ≠ some id := by
  cases d with
  | none => exact ⟨h, nofun⟩
  | some k =>
    obtain ⟨hlive, hdropped⟩ := live_without.mp (live_of_mem_standingFor h)
    have hne : id ≠ k := fun heq => hdropped (congrArg some heq.symm)
    have hkey : (t.dropFile k).2.key spec stack = t.key spec stack :=
      key_congr (t.searched_dropFile k).2 spec stack
    refine ⟨mem_standingFor.mpr ((mem_standingFor.mp h).imp (fun hspec => ?_) fun hpath => ?_),
      hdropped⟩
    · rw [FileTable.without, hkey] at hspec
      have hmem := mem_of_lookup (Option.filter_eq_some_iff.mp hspec).1
      have hold : (t.key spec stack, id) ∈ t.bySpec := by
        unfold FileTable.dropFile at hmem
        split at hmem
        · exact hmem
        · exact (List.mem_filter.mp hmem).1
      exact Option.filter_eq_some_iff.mpr ⟨lookup_of_mem ht.names hold, hlive⟩
    · rw [FileTable.without, path?_dropFile, if_neg hne, resolved_dropFile] at hpath
      exact hpath

end

/-! ## 4. Untouched files -/

/-- A file with a number of references, and with these places only, none of which has a marker or was
visited. -/
def Untouched (t : FileTable) (file : FileId) (refs : Nat) (qs : List PlaceId) : Prop :=
  ∃ f, t.file? file = some f ∧ f.refs = refs ∧ (∀ q, q ∈ f.places.map (·.2) ↔ q ∈ qs)
    ∧ ∀ q ∈ qs, ∃ p, t.place? q = some p ∧ p.marker = none ∧ p.visited = false

section

variable {t u : FileTable} {file : FileId} {refs : Nat} {qs : List PlaceId}

theorem Untouched.placeAt (ht : t.Coherent) (h : t.Untouched file refs qs) {p : Position}
    {q : PlaceId} (hplace : t.placeAt file p = .ok (q, u)) : u.Untouched file refs (q :: qs) := by
  obtain ⟨f, hf, hrefs, hlisted, huntouched⟩ := h
  obtain ⟨f', hf', hcases⟩ := placeAt_eq_ok hplace
  rw [hf] at hf'
  cases hf'
  have hplaces : ∀ r ∈ q :: qs, ∃ p, u.place? r = some p ∧ p.marker = none ∧ p.visited = false := by
    intro r hr
    rcases ht.place?_placeAt hplace r with heq | ⟨-, -, hnew⟩
    · rw [heq]
      rcases List.mem_cons.mp hr with rfl | hr
      · -- a place that was not made now was listed before
        obtain ⟨hfind, -⟩ | ⟨-, rfl, -⟩ := hcases
        · exact huntouched _ ((hlisted _).mp (List.mem_map_of_mem (f := Prod.snd)
            (mem_of_lookup hfind)))
        · obtain ⟨x, hx, -⟩ := Option.map_eq_some_iff.mp (ht.placeAt hplace).2
          rw [heq, place?, Slots.get?_fst_insert ht.places] at hx
          cases hx
      · exact huntouched r hr
    · exact ⟨_, hnew, rfl, rfl⟩
  obtain ⟨hfind, rfl⟩ | ⟨-, -, rfl⟩ := hcases
  · refine ⟨f, hf, hrefs, fun r => ?_, hplaces⟩
    have hq : q ∈ qs := (hlisted q).mp (List.mem_map_of_mem (f := Prod.snd) (mem_of_lookup hfind))
    rw [hlisted, List.mem_cons]
    constructor
    · exact .inr
    · rintro (rfl | hr)
      · exact hq
      · exact hr
  · refine ⟨{ f with places := FileEntry.insertPlace p q f.places }, ?_, hrefs, fun r => ?_, hplaces⟩
    · refine (Accounts.file?_modify t file _ file).trans ?_
      rw [if_pos rfl, hf]
      rfl
    · rw [List.mem_cons, ← hlisted, List.mem_map, List.mem_map]
      simp only [mem_insertPlace, or_and_right, exists_or, exists_eq_left]
      exact or_congr_left eq_comm

theorem Untouched.placesOf (ht : t.Coherent) (h : t.Untouched file refs []) {l : TextLocation}
    {q : PlaceId} {e : Option PlaceId} (hplaces : placesOf t file l = .ok (q, e, u)) :
    u.Untouched file refs (q :: e.toList) := by
  obtain ⟨v, hfirst, ⟨rfl, rfl⟩ | ⟨p, q', -, rfl, hsecond⟩⟩ := placesOf_eq_ok hplaces
  · exact h.placeAt ht hfirst
  · obtain ⟨f, hf, hrefs, hlisted, huntouched⟩ :=
      (h.placeAt ht hfirst).placeAt (ht.placeAt hfirst).1.coherent hsecond
    have hswap : ∀ r, r ∈ [q', q] ↔ r ∈ [q, q'] := fun r => (List.Perm.swap q q' []).mem_iff
    exact ⟨f, hf, hrefs, fun r => (hlisted r).trans (hswap r),
      fun r hr => huntouched r ((hswap r).mpr hr)⟩

theorem Untouched.retain (h : t.Untouched file refs qs) :
    (t.retain file).Untouched file (refs + 1) qs := by
  obtain ⟨f, hf, hrefs, hlisted, huntouched⟩ := h
  refine ⟨{ f with refs := f.refs + 1 }, ?_, congrArg (· + 1) hrefs, hlisted, huntouched⟩
  refine (Accounts.file?_modify t file _ file).trans ?_
  rw [if_pos rfl, hf]
  rfl

theorem live_placesOf {l : TextLocation} {q : PlaceId} {e : Option PlaceId}
    (hplaces : BuildLog.placesOf t file l = .ok (q, e, u)) (id : FileId) : u.Live id ↔ t.Live id := by
  obtain ⟨v, hfirst, ⟨-, rfl⟩ | ⟨p, q', -, -, hsecond⟩⟩ := placesOf_eq_ok hplaces
  · exact (placeAt_files hfirst).2 id
  · exact ((placeAt_files hsecond).2 id).trans ((placeAt_files hfirst).2 id)

theorem live_retain (t : FileTable) (file id : FileId) : (t.retain file).Live id ↔ t.Live id := by
  unfold Live retain
  rw [Accounts.isSome_file?_modify]

end

/-- The file of a name, after a file was dropped, is a new one just if no other file stands for the
name than the one that was dropped.  Else it is a file that was there before. -/
theorem Faithful.renewed_iff {t w : FileTable} (ht : t.Faithful) (hc : t.Coherent) {disk : Disk}
    {spec : FileSpec} {stack : DirectoryStack} {formats : List String} (d : Option FileId)
    {l : TextLocation} {q : PlaceId} {e : Option PlaceId}
    (hplaces : placesOf ((t.without d).intern disk spec stack formats).2
      ((t.without d).intern disk spec stack formats).1 l = .ok (q, e, w)) :
    let file := ((t.without d).intern disk spec stack formats).1
    ((w.retain file).Untouched file 1 (q :: e.toList)
        ∧ ∀ id ∈ t.standingFor disk spec stack formats, ¬ (w.retain file).Live id)
      ↔ ∀ id ∈ t.standingFor disk spec stack formats, d = some id := by
  intro file
  have hu : (t.without d).Faithful := ht.without d
  have hcu : (t.without d).Coherent := by
    cases d with
    | none => exact hc
    | some k => exact (hc.dropFile k).1
  have hcv := (hcu.intern disk spec stack formats).coherent
  have hlive : ∀ id, (w.retain file).Live id
      ↔ ((t.without d).intern disk spec stack formats).2.Live id := fun id =>
    (live_retain w file id).trans (live_placesOf hplaces id)
  constructor
  · rintro ⟨-, hgone⟩ id hid
    -- a file that was not dropped would be live still
    by_contra hne
    have hkept : (t.without d).Live id := live_without.mpr ⟨live_of_mem_standingFor hid, hne⟩
    obtain ⟨f, hf⟩ := Option.isSome_iff_exists.mp hkept
    obtain ⟨g, hg, -⟩ := (hcu.intern disk spec stack formats).file id f hf
    apply hgone id hid
    rw [hlive, Live, hg]
    rfl
  · intro hdropped
    have hnone : ∀ id, id ∉ (t.without d).standingFor disk spec stack formats := by
      intro id hid
      obtain ⟨hstands, hne⟩ := ht.mem_standingFor_without hid
      exact hne (hdropped id hstands)
    obtain ⟨f, hps, hrefs, hfile, hfiles⟩ := hu.intern_eq_insert hnone
    have hnew : ∀ id, ((t.without d).intern disk spec stack formats).2.file? id
        = if id = file then some f else (t.without d).file? id := by
      intro id
      rw [file?, hfiles, Slots.get?_insert hu.sound]
      simp only [file, hfile, ← handle_eq_iff (a := id)]
      rfl
    constructor
    · have huntouched : ((t.without d).intern disk spec stack formats).2.Untouched file 0 [] :=
        ⟨f, (hnew file).trans (if_pos rfl), hrefs, fun r => by rw [hps]; rfl, by simp⟩
      exact (huntouched.placesOf hcv hplaces).retain
    · intro id hid
      obtain rfl := hdropped id hid
      obtain ⟨g, hg⟩ := Option.isSome_iff_exists.mp (live_of_mem_standingFor hid)
      -- the new file may have the slot of the one that was dropped, but not its handle
      have hne : id ≠ file := by
        intro heq
        apply Slots.fst_insert_remove_ne hg f
        rw [← files_dropFile]
        exact (congrArg FileId.handle (heq.trans hfile)).symm
      rw [hlive, Live, hnew, if_neg hne]
      exact fun hold => (live_without.mp hold).2 rfl

end FileTable

/-! ## 5. What a scan records -/

/-- A message of a scan, with the candidate and the file of the message before that it was made of,
and the states that it was made in and that it left. -/
structure Record where
  candidate : Candidate
  previous : Option Inherited
  before : ScanState
  message : Message
  after : ScanState

/-- The messages that are made of candidates, as they are made. -/
def records (cfg : ScanSettings) (disk : Disk) (text : Text) (input : Array Char) (base : Nat)
    (claimed : Nat) (previous : Option Inherited) (s : ScanState) : List Candidate → List Record
  | [] => []
  | c :: cs =>
    if c.start < claimed then records cfg disk text input base claimed previous s cs
    else
      match c.message? cfg disk input base previous s with
      | none => records cfg disk text input base claimed previous s cs
      | some (m, u) =>
        ⟨c, previous, s, m, u⟩ :: records cfg disk text input base
          (text.lineEndAfter c.found.span.stop) (some (.ofMessage m)) u cs

/-- The messages of a scan, as they are made. -/
def scanRecords (cfg : ScanSettings) (disk : Disk) (text : Text) (base : Nat)
    (previous : Option Inherited) (s : ScanState) : List Record :=
  let input := text.toArray
  records cfg disk text input base 0 previous s (Candidate.all cfg.rules input)

section

variable (cfg : ScanSettings) (disk : Disk) (text : Text) (input : Array Char) (base : Nat)

/-- What is recorded are the messages of the candidates, and the last state is that after all. -/
theorem scanCandidates_eq_records (claimed : Nat) (previous : Option Inherited) (s : ScanState)
    (cs : List Candidate) :
    let rs := records cfg disk text input base claimed previous s cs
    scanCandidates cfg disk text input base claimed previous s cs
      = (rs.map (·.message), (rs.getLast?.map (·.after)).getD s) := by
  induction cs generalizing claimed previous s with
  | nil => rfl
  | cons c cs ih =>
    unfold records scanCandidates
    split
    · exact ih claimed previous s
    · cases hm : c.message? cfg disk input base previous s with
      | none => exact ih claimed previous s
      | some r =>
        obtain ⟨m, u⟩ := r
        have hrest := ih (text.lineEndAfter c.found.span.stop) (some (.ofMessage m)) u
        dsimp only at hrest ⊢
        rw [hrest, List.getLast?_cons]
        cases (records cfg disk text input base _ _ u cs).getLast? <;> rfl

theorem scan_eq_scanRecords (previous : Option Inherited) (s : ScanState) :
    let rs := scanRecords cfg disk text base previous s
    scan cfg disk text base previous s
      = (rs.map (·.message), (rs.getLast?.map (·.after)).getD s) :=
  scanCandidates_eq_records cfg disk text text.toArray base 0 previous s _

variable {cfg disk text input base}

/-- A message is recorded for some of the candidates, and what is kept by reading holds before it. -/
theorem of_mem_records {I : FileTable → Prop}
    (hI : KeptByReading (fun _ => True) (fun _ => True) I) {claimed : Nat}
    {previous : Option Inherited} {s : ScanState} (hs : I s.table) {cs : List Candidate} {r : Record}
    (hr : r ∈ records cfg disk text input base claimed previous s cs) :
    I r.before.table ∧ r.candidate ∈ cs
      ∧ r.candidate.message? cfg disk input base r.previous r.before = some (r.message, r.after) := by
  induction cs generalizing claimed previous s with
  | nil => cases hr
  | cons c cs ih =>
    -- what is said of the candidates behind this one
    have hlater : ∀ {claimed previous s}, I s.table →
        r ∈ records cfg disk text input base claimed previous s cs →
        I r.before.table ∧ r.candidate ∈ c :: cs
          ∧ r.candidate.message? cfg disk input base r.previous r.before
            = some (r.message, r.after) := by
      intro claimed previous s hs hr
      obtain ⟨hbefore, hmem, hmessage⟩ := ih hs hr
      exact ⟨hbefore, List.mem_cons_of_mem c hmem, hmessage⟩
    unfold records at hr
    split at hr
    · exact hlater hs hr
    · cases hm : c.message? cfg disk input base previous s with
      | none =>
        rw [hm] at hr
        exact hlater hs hr
      | some x =>
        obtain ⟨m, u⟩ := x
        rw [hm] at hr
        rcases List.mem_cons.mp hr with rfl | hr
        · exact ⟨hs, List.mem_cons_self, hm⟩
        · exact hlater (hI.message? trivial cfg trivial (fun _ _ h id => hI.dropFile h id) hs hm) hr

end

/-! ## 6. Files that have changed -/

/-- The name of the file of a match, if it names one. -/
def Candidate.name? (cfg : ScanSettings) (input : Array Char) (c : Candidate) : Option String :=
  ((c.rule.file.bind (·.primary (.ofMatch input c.found))).bind RoleValue.text?).bind fun raw =>
    (Substitution.applyAll cfg.substitutions raw.trim).map String.ofList

namespace Record

/-- The directories that the name of the file is relative to. -/
def stack (r : Record) : DirectoryStack := (r.before.trail.frameAt r.message.start).1

/-- The entry that is dropped for a match of a rule that says that its file has changed: the one that
is found for the name, if there is a name. -/
def dropped? (cfg : ScanSettings) (disk : Disk) (input : Array Char) (r : Record) :
    Option FileId :=
  (r.candidate.name? cfg input).bind fun name =>
    r.before.table.lookup disk { filename := name } r.stack

/-- The entries of the file of a match, before it is recorded: those that the name stands for or, if
the match names no file, that of the message before, or else those that its name stands for. -/
def standing (cfg : ScanSettings) (disk : Disk) (input : Array Char) (r : Record) : List FileId :=
  let t := r.before.table
  let formats := r.candidate.rule.formats
  match r.candidate.name? cfg input with
  | some name => t.standingFor disk { filename := name } r.stack formats
  | none => r.previous.elim [] fun p =>
    if (t.file? p.file).isSome then [p.file]
    else t.standingFor disk ⟨p.filename, p.directory⟩ .root formats

end Record

section

variable {cfg : ScanSettings} {disk : Disk} {rule : Rule} {offset : Nat} {s : ScanState}

/-- A match names its file, or is in that of the message before. -/
theorem chooseFile_cases {input : Array Char} {c : Candidate} {previous : Option Inherited}
    {choice : FileChoice}
    (h : chooseFile cfg disk c.rule (.ofMatch input c.found) offset previous s = some choice) :
    (∃ name, c.name? cfg input = some name ∧ choice = namedFile disk c.rule name offset s)
      ∨ c.name? cfg input = none ∧ ∃ p, previous = some p ∧ choice = inheritedFile disk c.rule p s := by
  unfold chooseFile at h
  unfold Candidate.name?
  split at h
  · rename_i raw hraw
    obtain ⟨name, hname, rfl⟩ := Option.map_eq_some_iff.mp h
    rw [hraw, Option.bind_some, hname]
    exact .inl ⟨_, rfl, rfl⟩
  · rename_i hraw
    obtain ⟨p, hp, rfl⟩ := Option.map_eq_some_iff.mp h
    rw [hraw]
    exact .inr ⟨rfl, p, hp, rfl⟩

/-- A rule that says that its file has changed drops what is found for the name. -/
theorem namedFile_of_flushes (hflush : rule.flushes) (name : String) :
    namedFile disk rule name offset s =
      let stack := (s.trail.frameAt offset).1
      let r := (s.table.without (s.table.lookup disk { filename := name } stack)).intern disk
        { filename := name } stack rule.formats
      ⟨r.1, name, stack.directory?, ⟨(s.trail.frameAt offset).2, r.2⟩⟩ := by
  unfold namedFile
  dsimp only
  rw [if_pos hflush]
  cases s.table.lookup disk { filename := name } (s.trail.frameAt offset).1 <;> rfl

end

/-- What is recorded for a match of a rule that says that its file has changed is in a new entry just
if the entry that is dropped is the only one of the file. -/
theorem Record.untouched_iff {cfg : ScanSettings} {disk : Disk} {input : Array Char} {base : Nat}
    {r : Record} (ht : r.before.table.Faithful) (hc : r.before.table.Coherent)
    (hm : r.candidate.message? cfg disk input base r.previous r.before = some (r.message, r.after))
    (hflush : r.candidate.rule.flushes) :
    (r.after.table.Untouched r.message.file 1 r.message.reference.places
        ∧ ∀ id ∈ r.standing cfg disk input, ¬ r.after.table.Live id)
      ↔ ∀ id ∈ r.standing cfg disk input, r.dropped? cfg disk input = some id := by
  have hspan := (Candidate.spans_of_message? hm).1
  obtain ⟨choice, w, hchoice, hplaces, -, hfile, -, hafter⟩ := Candidate.of_message? hm
  have hplacesOf : r.message.reference.places = r.message.place :: r.message.endPlace.toList := rfl
  rw [hafter, hfile, hplacesOf]
  dsimp only
  unfold Record.standing Record.dropped? Record.stack Message.start
  rw [hspan]
  rcases chooseFile_cases hchoice with ⟨name, hname, rfl⟩ | ⟨hname, p, hp, rfl⟩
  · rw [namedFile_of_flushes hflush] at hplaces ⊢
    rw [hname]
    exact ht.renewed_iff hc _ hplaces
  · rw [hname, hp]
    dsimp only [Option.elim_some, Option.bind_none]
    unfold inheritedFile at hplaces ⊢
    split
    · -- the file of the message before is there, and it stays
      rename_i hlive
      rw [if_pos hlive] at hplaces
      refine iff_of_false (fun h => h.2 p.file List.mem_cons_self ?_)
        fun h => nomatch h p.file List.mem_cons_self
      exact (FileTable.live_retain w p.file p.file).mpr
        ((FileTable.live_placesOf hplaces p.file).mpr hlive)
    · rename_i hgone
      rw [if_neg hgone] at hplaces
      exact ht.renewed_iff hc none hplaces

/-- Whatever was done to a table, when a match of a rule that says that its file has changed is
recorded, the message is the only one in a file with its places only, which were never gone to, and
no entry of the file is left from before, just if the entry that is found for the name, without the
formats of the rule, is the only one that there was.  No entry is found if the match does not name
its file. -/
theorem scanRecords_untouched_iff (searchPath : List (Option Path)) (workingDir : Path)
    (ss : List FileTable.Step) (trail : DirectoryTrail) (cfg : ScanSettings) (disk : Disk) (text : Text)
    (base : Nat) (previous : Option Inherited) :
    let s : ScanState := ⟨trail, FileTable.steps { searchPath, workingDir } ss⟩
    let input := text.toArray
    ∀ r ∈ scanRecords cfg disk text base previous s, r.candidate.rule.flushes →
      ((r.after.table.Untouched r.message.file 1 r.message.reference.places
          ∧ ∀ id ∈ r.standing cfg disk input, ¬ r.after.table.Live id)
        ↔ ∀ id ∈ r.standing cfg disk input, r.dropped? cfg disk input = some id) := by
  intro s input r hr hflush
  have hkept : KeptByReading (fun _ => True) (fun _ => True)
      fun t => t.Faithful ∧ t.Coherent :=
    { intern := fun ⟨ht, hc⟩ disk _ spec stack formats _ =>
        ⟨ht.intern disk spec stack formats, (hc.intern disk spec stack formats).coherent⟩
      placeAt := fun ⟨ht, hc⟩ hplace =>
        ⟨ht.of_sameNames (FileTable.sameNames_placeAt hplace)
          ((FileTable.placeAt_files hplace).1 ht.sound), (hc.placeAt hplace).1.coherent⟩
      retain := fun ⟨ht, hc⟩ id =>
        ⟨ht.of_sameNames (FileTable.sameNames_modify _ _ id fun _ => rfl) (ht.sound.retain id),
          FileTable.Accounts.coherent_modify hc id fun _ => rfl⟩
      dropFile := fun ⟨ht, hc⟩ id => ⟨ht.dropFile id, (hc.dropFile id).1⟩
      release := fun ⟨ht, hc⟩ id =>
        ⟨ht.of_sameNames (FileTable.sameNames_modify _ _ id fun _ => rfl) (ht.sound.release id),
          FileTable.Accounts.coherent_modify hc id fun _ => rfl⟩ }
  have hfirst : s.table.Faithful ∧ s.table.Coherent :=
    ⟨(FileTable.faithful_empty searchPath workingDir).steps ss,
      ((FileTable.filed_empty searchPath workingDir).steps ss).coherent⟩
  obtain ⟨⟨ht, hc⟩, -, hm⟩ := of_mem_records hkept hfirst hr
  exact Record.untouched_iff ht hc hm hflush

/-- A file may be named with its ending, and a name without an ending is that of a file that has
changed, as a line without a name says of the file before. -/
def changedRules : RuleSet :=
  ⟨[.ofExpr "file" (.cat (.one (.singleton 'A')) (.one (.singleton 'b'))) 1,
    { Rule.ofSet "changed" (.ofRange 65 90) with formats := ["%sb"], flushes := true },
    { Rule.ofSet "same" (.singleton 'z') with file := none, flushes := true }]⟩

/-- A file that is said to have changed twice is new both times. -/
theorem scanRecords_untouched_twice :
    let text := "A\nA\n".toList
    let s : ScanState := ⟨{ pattern := none }, { workingDir := ⟨['/']⟩ }⟩
    ∃ r ∈ scanRecords { rules := changedRules } Session.templateDisk text 0 none s,
      r.candidate.rule.flushes
        ∧ r.standing { rules := changedRules } Session.templateDisk text.toArray ≠ []
        ∧ r.after.table.Untouched r.message.file 1 r.message.reference.places
        ∧ ∀ id ∈ r.standing { rules := changedRules } Session.templateDisk text.toArray,
          ¬ r.after.table.Live id := by
  intro text s
  obtain ⟨r, hr, hflush, hne, hdropped⟩ :
      ∃ r ∈ scanRecords { rules := changedRules } Session.templateDisk text 0 none s,
        r.candidate.rule.flushes
          ∧ r.standing { rules := changedRules } Session.templateDisk text.toArray ≠ []
          ∧ ∀ id ∈ r.standing { rules := changedRules } Session.templateDisk text.toArray,
            r.dropped? { rules := changedRules } Session.templateDisk text.toArray = some id := by
    decide +kernel
  exact ⟨r, hr, hflush, hne, (scanRecords_untouched_iff [none] ⟨['/']⟩ [] { pattern := none }
    { rules := changedRules } Session.templateDisk text 0 none r hr hflush).mpr hdropped⟩

/-- The first line makes an entry.  The second one leads to it with the ending, but without the ending
it is not found; and the third one is in the file before, so nothing is looked for. -/
theorem scanRecords_untouched_differs :
    let text := "Ab\nA\nz\n".toList
    let s : ScanState := ⟨{ pattern := none }, { workingDir := ⟨['/']⟩ }⟩
    let rs := scanRecords { rules := changedRules } Session.templateDisk text 0 none s
    rs.map (·.candidate.rule.flushes) = [false, true, true]
      ∧ ∀ r ∈ rs, r.candidate.rule.flushes →
        (∃ id ∈ r.standing { rules := changedRules } Session.templateDisk text.toArray,
            (r.after.table.file? id).isSome)
          ∧ (r.after.table.file? r.message.file).map (·.refs) ≠ some 1 := by
  decide +kernel

end BuildLog
