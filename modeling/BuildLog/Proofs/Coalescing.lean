import Mathlib.Data.List.Induction
import Mathlib.Data.List.Infix
import BuildLog.Proofs.Indexes

/-!
# Coalescing — spellings of one file are given one entry

While the files on the disk stay the same and no place is gone to, an entry is at the path that the
disk gives for each name that it is known under.  So two names are given one entry just if they
stand for one path, whatever was dropped in between, unless it was the entry itself.
-/

namespace BuildLog.FileTable

/-! ## 1. Names that stand for a path -/

section

variable {t u : FileTable}

theorem key_congr (hw : t.workingDir = u.workingDir) (spec : FileSpec) (stack : DirectoryStack) :
    t.key spec stack = u.key spec stack := by
  unfold key baseDirectory absolutize
  rw [hw]

theorem resolved_congr (hs : t.searchPath = u.searchPath) (hw : t.workingDir = u.workingDir)
    (disk : Disk) (spec : FileSpec) (stack : DirectoryStack) (formats : List String) :
    t.resolved disk spec stack formats = u.resolved disk spec stack formats := by
  unfold resolved resolve candidates directories baseDirectory absolutize
  rw [hs, hw]

theorem normal_resolved (t : FileTable) (disk : Disk) (spec : FileSpec) (stack : DirectoryStack)
    (formats : List String) : ∃ p : Path, t.resolved disk spec stack formats = p.normalize := by
  unfold resolved resolve
  split
  · rename_i p hp
    obtain ⟨dir, -, hdir⟩ := List.mem_flatMap.mp (List.mem_of_find?_eq_some hp)
    obtain ⟨name, -, rfl⟩ := List.mem_map.mp hdir
    exact ⟨_, rfl⟩
  · exact ⟨_, rfl⟩

/-- A key keeps of the directory only its components, which is enough, as it is in normal form. -/
theorem resolved_of_key {spec spec' : FileSpec} {stack stack' : DirectoryStack}
    (h : t.key spec stack = t.key spec' stack') (disk : Disk) (formats : List String) :
    t.resolved disk spec stack formats = t.resolved disk spec' stack' formats := by
  obtain ⟨hname, hdir⟩ := SpecKey.mk.inj h
  have hbase : t.baseDirectory spec stack = t.baseDirectory spec' stack' := by
    unfold baseDirectory at hdir ⊢
    cases hd : (spec.directory <|> stack.directory?) with
    | none =>
      cases hd' : (spec'.directory <|> stack'.directory?) with
      | none => rfl
      | some dir' => rw [hd, hd'] at hdir; cases hdir
    | some dir =>
      cases hd' : (spec'.directory <|> stack'.directory?) with
      | none => rw [hd, hd'] at hdir; cases hdir
      | some dir' =>
        rw [hd, hd'] at hdir
        exact congrArg some (Path.normalize_inj (Option.some.inj hdir))
  rw [resolved, resolved, hname, hbase]

end

/-! ## 2. Coalesced tables -/

/-- Every entry is at the path that each of its names stands for, in a table that looks for files
where `home` does. -/
structure Coalesced (t home : FileTable) (disk : Disk) (formats : List String) : Prop where
  searchPath : t.searchPath = home.searchPath
  workingDir : t.workingDir = home.workingDir
  indexed : t.Indexed
  known : ∀ spec stack id, (t.key spec stack, id) ∈ t.bySpec →
    t.path? id = some (t.resolved disk spec stack formats)
  normal : ∀ id p, t.path? id = some p → ∃ q : Path, p = q.normalize

theorem coalesced_empty (disk : Disk) (formats : List String) (searchPath : List (Option Path))
    (workingDir : Path) :
    Coalesced { searchPath, workingDir } { searchPath, workingDir } disk formats :=
  ⟨rfl, rfl, indexed_empty searchPath workingDir, nofun, nofun⟩

section

variable {home t : FileTable} {disk : Disk} {formats : List String}
  (ht : t.Coalesced home disk formats)
include ht

theorem Coalesced.of_sameNames {u : FileTable} (h : t.SameNames u) (hu : u.Sound) :
    u.Coalesced home disk formats := by
  refine ⟨h.searchPath.trans ht.searchPath, h.workingDir.trans ht.workingDir,
    ht.indexed.of_sameNames h hu, fun spec stack id hmem => ?_, fun id p hp => ?_⟩
  · rw [key_congr h.workingDir, h.bySpec] at hmem
    rw [h.path, resolved_congr h.searchPath h.workingDir]
    exact ht.known spec stack id hmem
  · rw [h.path] at hp
    exact ht.normal id p hp

theorem Coalesced.dropFile (k : FileId) : (t.dropFile k).2.Coalesced home disk formats := by
  cases hk : t.path? k with
  | none =>
    -- there is nothing to drop
    have hnone : (t.dropFile k).2 = t := by
      unfold FileTable.dropFile
      split
      · rfl
      · rename_i f files hrm
        rw [path?, file?, ← Slots.fst_remove, hrm] at hk
        cases hk
    rw [hnone]
    exact ht
  | some path =>
    have hfields : (t.dropFile k).2.searchPath = t.searchPath
        ∧ (t.dropFile k).2.workingDir = t.workingDir
        ∧ (t.dropFile k).2.bySpec = t.bySpec.filter (·.2 ≠ k) := by
      unfold FileTable.dropFile
      split
      · rename_i hrm
        rw [path?, file?, ← Slots.fst_remove, hrm] at hk
        cases hk
      · exact ⟨rfl, rfl, rfl⟩
    obtain ⟨hs, hw, hbySpec⟩ := hfields
    refine ⟨hs.trans ht.searchPath, hw.trans ht.workingDir, ht.indexed.dropFile k,
      fun spec stack id hmem => ?_, fun id p hp => ?_⟩
    · rw [key_congr hw, hbySpec, List.mem_filter, decide_eq_true_iff] at hmem
      rw [path?_dropFile, if_neg hmem.2, resolved_congr hs hw]
      exact ht.known spec stack id hmem.1
    · rw [path?_dropFile] at hp
      split at hp
      · cases hp
      · exact ht.normal id p hp

/-- An entry is at the path that its name stands for when it is interned. -/
theorem Coalesced.path?_intern (spec : FileSpec) (stack : DirectoryStack) :
    (t.intern disk spec stack formats).2.path? (t.intern disk spec stack formats).1
      = some (t.resolved disk spec stack formats) := by
  rcases intern_eq t disk spec stack formats with
    ⟨id, hs, heq⟩ | ⟨id, -, hp, heq⟩ | ⟨f, -, -, hpath, heq⟩
  · -- the name was known, and the disk is the one that it was interned with
    rw [heq]
    obtain ⟨hlookup, -⟩ := Option.filter_eq_some_iff.mp hs
    obtain ⟨l, l', hl, -⟩ := List.lookup_eq_some_iff.mp hlookup
    refine ht.known spec stack id ?_
    rw [hl]
    exact List.mem_append_right l List.mem_cons_self
  · rw [heq]
    obtain ⟨p, hid, hcs⟩ := Option.map_eq_some_iff.mp (ht.indexed.byPath?_eq_some.mp hp)
    -- both paths are in normal form
    obtain ⟨q, rfl⟩ := ht.normal id p hid
    obtain ⟨q', hq'⟩ := t.normal_resolved disk spec stack formats
    rw [hq'] at hcs ⊢
    rw [← Path.normalize_inj hcs]
    exact hid
  · rw [heq, path?_of_insert ht.indexed.sound rfl, if_pos rfl, hpath]

/-- Interning a name leaves every entry where it is. -/
theorem Coalesced.path?_intern_of_live {spec : FileSpec} {stack : DirectoryStack} {id : FileId}
    (h : t.Live id) : (t.intern disk spec stack formats).2.path? id = t.path? id := by
  rcases intern_eq t disk spec stack formats with
    ⟨_, -, heq⟩ | ⟨_, -, -, heq⟩ | ⟨f, -, -, -, heq⟩
  · rw [heq]
  · rw [heq]
    rfl
  · rw [heq, path?_of_insert ht.indexed.sound rfl, if_neg]
    rintro rfl
    rw [Live, file?, Slots.get?_fst_insert ht.indexed.sound] at h
    cases h

theorem Coalesced.intern (spec : FileSpec) (stack : DirectoryStack) :
    (t.intern disk spec stack formats).2.Coalesced home disk formats := by
  have hnew := ht.path?_intern spec stack
  have hold : ∀ {id}, t.Live id → (t.intern disk spec stack formats).2.path? id = t.path? id :=
    fun h => ht.path?_intern_of_live h
  have hfields : (t.intern disk spec stack formats).2.searchPath = t.searchPath
      ∧ (t.intern disk spec stack formats).2.workingDir = t.workingDir
      ∧ (∀ k id, (k, id) ∈ (t.intern disk spec stack formats).2.bySpec →
        (k = t.key spec stack ∧ id = (t.intern disk spec stack formats).1) ∨ (k, id) ∈ t.bySpec)
      ∧ ∀ id p, (t.intern disk spec stack formats).2.path? id = some p →
        t.path? id = some p ∨ id = (t.intern disk spec stack formats).1 := by
    rcases intern_eq t disk spec stack formats with
      ⟨_, -, heq⟩ | ⟨_, -, -, heq⟩ | ⟨f, -, -, -, heq⟩
    · rw [heq]
      exact ⟨rfl, rfl, fun _ _ => .inr, fun _ _ => .inl⟩
    · rw [heq]
      exact ⟨rfl, rfl, fun _ _ h => (mem_assign.mp h).imp_right And.right, fun _ _ => .inl⟩
    · rw [heq]
      refine ⟨rfl, rfl, fun _ _ h => (mem_assign.mp h).imp_right And.right, fun id p hp => ?_⟩
      rw [path?_of_insert ht.indexed.sound rfl] at hp
      split at hp
      · exact .inr ‹_›
      · exact .inl hp
  obtain ⟨hs, hw, hbySpec, hpaths⟩ := hfields
  refine ⟨hs.trans ht.searchPath, hw.trans ht.workingDir, ht.indexed.intern _ _ _ _,
    fun spec' stack' id hmem => ?_, fun id p hp => ?_⟩
  · rw [key_congr hw] at hmem
    rw [resolved_congr hs hw]
    rcases hbySpec _ id hmem with ⟨hkey, rfl⟩ | hmem
    · rw [hnew, resolved_of_key hkey]
    · have hpath := ht.known spec' stack' id hmem
      rw [hold (live_iff.mpr (by rw [hpath]; rfl)), hpath]
  · rcases hpaths id p hp with hp | rfl
    · exact ht.normal id p hp
    · rw [hnew] at hp
      cases hp
      exact t.normal_resolved disk spec stack formats

end

/-! ## 3. Runs on a disk that stays the same -/

/-- Whether an operation sees the given disk, looks for files in the given formats, and goes to no
place. -/
def Operation.Fixed (disk : Disk) (formats : List String) : Operation → Prop
  | .intern d _ _ fs => d = disk ∧ fs = formats
  | .flush d _ => d = disk
  | .locate _ _ _ _ => False
  | _ => True

section

variable {home t : FileTable} {disk : Disk} {formats : List String}

theorem Coalesced.operate (ht : t.Coalesced home disk formats) {op : Operation}
    (hop : op.Fixed disk formats) : (t.operate op).Coalesced home disk formats := by
  refine operate_of_changes (I := (Coalesced · home disk formats))
    (fun t u hsame hu ht => ht.of_sameNames hsame hu) (fun t id ht => ht.dropFile id)
    ht.indexed.sound ht op ?_ ?_
  · rintro d spec stack fs rfl
    obtain ⟨rfl, rfl⟩ := hop
    exact ht.intern spec stack
  · rintro d sources id screen rfl
    exact hop.elim

theorem Coalesced.run (ht : t.Coalesced home disk formats) {ops : List Operation}
    (hops : ∀ op ∈ ops, op.Fixed disk formats) : (t.run ops).Coalesced home disk formats := by
  induction ops generalizing t with
  | nil => exact ht
  | cons op ops ih =>
    exact ih (ht.operate (hops op List.mem_cons_self)) fun op' h => hops op' (.tail op h)

/-- Each operation leaves a file where it is, or drops it. -/
theorem Coalesced.path?_operate (ht : t.Coalesced home disk formats) {op : Operation}
    (hop : op.Fixed disk formats) {id : FileId} (h : t.Live id) (h' : (t.operate op).Live id) :
    (t.operate op).path? id = t.path? id := by
  have hkept : (t.operate op).path? id = t.path? id ∨ (t.operate op).path? id = none := by
    refine operate_of_changes (I := fun u => u.path? id = t.path? id ∨ u.path? id = none)
      (fun u v hsame _ hu => ?_) (fun u k hu => ?_) ht.indexed.sound (.inl rfl) op ?_ ?_
    · rwa [hsame.path]
    · rw [path?_dropFile]
      split
      · exact .inr rfl
      · exact hu
    · rintro d spec stack fs rfl
      obtain ⟨rfl, rfl⟩ := hop
      exact .inl (ht.path?_intern_of_live h)
    · rintro d sources q screen rfl
      exact hop.elim
  refine hkept.resolve_right fun hnone => ?_
  rw [live_iff, hnone] at h'
  cases h'

theorem Coalesced.path?_run (ht : t.Coalesced home disk formats) {ops : List Operation}
    (hops : ∀ op ∈ ops, op.Fixed disk formats) {id : FileId}
    (hlive : ∀ before, before <+: ops → (t.run before).Live id) :
    (t.run ops).path? id = t.path? id := by
  -- from the end, as the file is live in the middle of the run too
  induction ops using List.reverseRecOn with
  | nil => rfl
  | append_singleton ops op ih =>
    have hlast : t.run (ops ++ [op]) = (t.run ops).operate op := List.foldl_append
    have hbefore : ∀ op' ∈ ops, op'.Fixed disk formats :=
      fun op' h => hops op' (List.mem_append_left [op] h)
    have hrun := ht.run hbefore
    have hend := hlive _ (List.prefix_refl (ops ++ [op]))
    rw [hlast] at hend ⊢
    rw [hrun.path?_operate (hops op (List.mem_append_right ops List.mem_cons_self))
      (hlive ops (List.prefix_append ops [op])) hend]
    exact ih hbefore fun before h => hlive before (h.trans (List.prefix_append ops [op]))

end

/-- While the files on the disk stay the same and no place is gone to, two names are given one entry
just if they stand for one path, as long as the first entry is not dropped in between; and each
entry is at the path that its name stands for. -/
theorem intern_eq_iff (disk : Disk) (formats : List String) (searchPath : List (Option Path))
    (workingDir : Path) {before between : List Operation}
    (hbefore : ∀ op ∈ before, op.Fixed disk formats)
    (hbetween : ∀ op ∈ between, op.Fixed disk formats) (spec spec' : FileSpec)
    (stack stack' : DirectoryStack) :
    let t : FileTable := { searchPath, workingDir }
    let first := (t.run before).intern disk spec stack formats
    let second := (first.2.run between).intern disk spec' stack' formats
    (∀ ops, ops <+: between → (first.2.run ops).Live first.1) →
      (first.1 = second.1
          ↔ t.resolved disk spec stack formats = t.resolved disk spec' stack' formats)
        ∧ first.2.path? first.1 = some (t.resolved disk spec stack formats)
        ∧ second.2.path? second.1 = some (t.resolved disk spec' stack' formats) := by
  intro t first second hlive
  have ht := (coalesced_empty disk formats searchPath workingDir).run hbefore
  have hfirst : first.2.Coalesced t disk formats := ht.intern spec stack
  have hmid := hfirst.run hbetween
  -- where names are looked for never changes
  have hpath : first.2.path? first.1 = some (t.resolved disk spec stack formats) := by
    rw [← resolved_congr ht.searchPath ht.workingDir]
    exact ht.path?_intern spec stack
  have hpath' : second.2.path? second.1 = some (t.resolved disk spec' stack' formats) := by
    rw [← resolved_congr hmid.searchPath hmid.workingDir]
    exact hmid.path?_intern spec' stack'
  -- the first entry is at its path when the second name is interned, and afterwards
  have hkept : second.2.path? first.1 = some (t.resolved disk spec stack formats) := by
    rw [hmid.path?_intern_of_live (hlive between (List.prefix_refl between)),
      hfirst.path?_run hbetween hlive, hpath]
  refine ⟨⟨fun heq => ?_, fun heq => ?_⟩, hpath, hpath'⟩
  · rw [heq, hpath'] at hkept
    exact (Option.some.inj hkept).symm
  · -- afterwards both entries are at this path, and no two entries are at one path
    refine (hmid.intern spec' stack').indexed.distinct _ _
      (t.resolved disk spec stack formats).components ?_ ?_
    · rw [hkept]
      rfl
    · rw [hpath', heq]
      rfl

/-- A file in a directory that the build enters, and two names for it.  An entry that was made
before is dropped between them. -/
theorem intern_eq_spellings :
    let disk : Disk := Disk.empty.write (.ofString "/lib/a.c") (.file .empty)
    let t : FileTable := { workingDir := ⟨['/']⟩ }
    let before : List Operation := [.intern disk ⟨"b.c", none⟩ .root []]
    let first := (t.run before).intern disk ⟨"a.c", none⟩ (.pushAll .root [.ofString "lib"]) []
    let between : List Operation := [.placeAt first.1 ⟨some 1, none⟩, .retain first.1, .sweep]
    let second := (first.2.run between).intern disk ⟨"lib/../lib//a.c", none⟩ .root []
    (∀ op ∈ before, op.Fixed disk []) ∧ (∀ op ∈ between, op.Fixed disk [])
      ∧ (∀ ops, ops <+: between → (first.2.run ops).Live first.1)
      ∧ first.1 = second.1 := by
  intro disk t before first between second
  have hbefore : ∀ op ∈ before, op.Fixed disk [] := by simp [before, Operation.Fixed]
  have hbetween : ∀ op ∈ between, op.Fixed disk [] := by simp [between, Operation.Fixed]
  have hlive : ∀ ops, ops <+: between → (first.2.run ops).Live first.1 := by
    have h : ∀ ops ∈ between.inits, ((first.2.run ops).file? first.1).isSome := by decide +kernel
    exact fun ops hops => h ops ((List.mem_inits ops between).mpr hops)
  exact ⟨hbefore, hbetween, hlive,
    (intern_eq_iff disk [] [none] ⟨['/']⟩ hbefore hbetween ⟨"a.c", none⟩ ⟨"lib/../lib//a.c", none⟩
      (.pushAll .root [.ofString "lib"]) .root hlive).1.mpr (by decide +kernel)⟩

end BuildLog.FileTable
