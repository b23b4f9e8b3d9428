import BuildLog.Proofs.Going
import BuildLog.Proofs.Lasting
import BuildLog.Proofs.Letters
import BuildLog.Proofs.OneFile

/-!
# Naming — the path by which the file of a message is known

While the files on the disk stay the same and there is nobody to ask, the file of a message is at the
path that its name stands for in the formats of some rule.  A file that was dropped is known by the
path that its name stands for as it is.  So a file is known by one path before it is dropped and
afterwards, as long as the formats lead nowhere else.
-/

namespace BuildLog

namespace FileTable

/-! ## 1. Where names are looked for -/

section

variable {t u : FileTable}

theorem resolve_congr (hs : t.searchPath = u.searchPath) (hw : t.workingDir = u.workingDir)
    (disk : Disk) (filename : String) (directory : Option Path) (formats : List String) :
    t.resolve disk filename directory formats = u.resolve disk filename directory formats := by
  unfold resolve candidates directories absolutize
  rw [hs, hw]

/-- A name in the usual format is the name as it is. -/
theorem resolve_usual (t : FileTable) (disk : Disk) (filename : String) (directory : Option Path) :
    t.resolve disk filename directory ["%s"] = t.resolve disk filename directory [] := by
  have hspelled : spellings filename ["%s"] = spellings filename [] := by
    simp [spellings, Text.replaceFirst, Text.dropLeading?, Path.ofString]
  unfold resolve candidates
  rw [hspelled]

/-- Whatever is dropped, names are looked for where they were. -/
theorem searched_dropFile (t : FileTable) (k : FileId) :
    (t.dropFile k).2.searchPath = t.searchPath ∧ (t.dropFile k).2.workingDir = t.workingDir := by
  unfold FileTable.dropFile
  split <;> exact ⟨rfl, rfl⟩

theorem resolved_dropFile (t : FileTable) (k : FileId) (disk : Disk) (spec : FileSpec)
    (stack : DirectoryStack) (formats : List String) :
    (t.dropFile k).2.resolved disk spec stack formats = t.resolved disk spec stack formats :=
  have ⟨hs, hw⟩ := t.searched_dropFile k
  resolved_congr hs hw disk spec stack formats

end

/-! ## 2. Files that stay where they are -/

/-- Every file was found, or is still not found. -/
def Unmoved (t : FileTable) (disk : Disk) : Prop := ∀ id f, t.file? id = some f →
  f.found ∨ (t.resolve disk f.spec.filename f.spec.directory f.formats).2 = false

section

variable {t u : FileTable} {disk : Disk} (h : t.Unmoved disk)
include h

theorem Unmoved.modifyFile {id : FileId} {g : FileEntry → FileEntry}
    (hfiles : u.files = t.files.modify id.handle g) (hs : u.searchPath = t.searchPath)
    (hw : u.workingDir = t.workingDir) (hg : ∀ f, (g f).found
      ∨ ((g f).found = f.found ∧ (g f).spec = f.spec ∧ (g f).formats = f.formats)) :
    u.Unmoved disk := by
  intro k f hf
  rw [resolve_congr hs hw]
  rw [file?, hfiles, Slots.get?_modify] at hf
  split at hf
  · obtain ⟨f', hf', rfl⟩ := Option.map_eq_some_iff.mp hf
    rcases hg f' with hfound | ⟨hfound, hspec, hformats⟩
    · exact .inl hfound
    · rw [hfound, hspec, hformats]
      exact h k f' hf'
  · exact h k f hf

theorem Unmoved.intern (ht : t.Sound) (spec : FileSpec) (stack : DirectoryStack)
    (formats : List String) : (t.intern disk spec stack formats).2.Unmoved disk := by
  have hplaces : (t.intern disk spec stack formats).2.searchPath = t.searchPath
      ∧ (t.intern disk spec stack formats).2.workingDir = t.workingDir := by
    rcases intern_eq t disk spec stack formats with ⟨_, -, heq⟩ | ⟨_, -, -, heq⟩ | ⟨_, -, -, -, heq⟩
    · rw [heq]
      exact ⟨rfl, rfl⟩
    · rw [heq]
      exact ⟨rfl, rfl⟩
    · rw [heq]
      exact ⟨rfl, rfl⟩
  intro id f hf
  rw [resolve_congr hplaces.1 hplaces.2]
  rcases file?_intern ht disk spec stack formats hf with hf | ⟨-, rfl⟩
  · exact h id f hf
  · dsimp only
    -- it will be looked for in the formats in which it was looked for
    split
    · rename_i hempty
      rw [List.isEmpty_iff.mp hempty, resolve_usual]
      exact Bool.eq_false_or_eq_true _
    · exact Bool.eq_false_or_eq_true _

theorem Unmoved.lookedFor {id : FileId} {f : FileEntry} (hf : t.file? id = some f) :
    t.lookedFor disk f = f.path := by
  unfold FileTable.lookedFor
  split
  · rfl
  · rename_i hfound
    have hnone := (h id f hf).resolve_left hfound
    split
    · rename_i hres
      rw [hres] at hnone
      cases hnone
    · rfl

/-- With nobody to ask, going to a place leaves every file where it is. -/
theorem Unmoved.sameNames_locate {sources : Sources} (hguide : sources.guide = none) (q : PlaceId)
    (screen : Bool) : t.SameNames (t.locate disk sources q screen).2.1 := by
  rcases t.path?_locate disk sources q screen with hsame | ⟨p, f, b, path, -, hf, hopen, hsame⟩
  · exact hsame
  · obtain rfl : path = f.path := (openOrAsk_of_unasked hguide hopen).trans (h.lookedFor hf)
    refine SameNames.trans (u := t.setBuffer p.file f b f.path)
      ⟨fun id => ?_, if_pos (Path.same_iff.mpr rfl), rfl, rfl, rfl⟩ hsame
    rw [path?_setBuffer t hf]
    split
    · rename_i hid
      rw [hid, path?, hf]
      rfl
    · rfl

theorem Unmoved.locate (sources : Sources) (q : PlaceId) (screen : Bool) :
    (t.locate disk sources q screen).2.1.Unmoved disk := by
  refine (locate_of_changes (I := fun u => u.Unmoved disk)
    (fun u id f b p _ hu => ?_) (fun _ _ _ hu => hu) h disk sources q screen)
  exact hu.modifyFile rfl rfl rfl fun _ => .inl rfl

end

/-! ## 3. Named tables -/

/-- Every entry is at the path that each of its names stands for in some formats of `F`, in a table
that looks for files where `home` does. -/
structure Named (t home : FileTable) (disk : Disk) (F : List String → Prop) : Prop where
  searchPath : t.searchPath = home.searchPath
  workingDir : t.workingDir = home.workingDir
  indexed : t.Indexed
  known : ∀ spec stack id, (t.key spec stack, id) ∈ t.bySpec →
    ∃ formats, F formats ∧ t.path? id = some (t.resolved disk spec stack formats)
  normal : ∀ id p, t.path? id = some p → ∃ q : Path, p = q.normalize
  unmoved : t.Unmoved disk

theorem named_empty (disk : Disk) (F : List String → Prop) (searchPath : List (Option Path))
    (workingDir : Path) : Named { searchPath, workingDir } { searchPath, workingDir } disk F :=
  ⟨rfl, rfl, indexed_empty searchPath workingDir, nofun, nofun, nofun⟩

section

variable {home t u : FileTable} {disk : Disk} {F : List String → Prop} (ht : t.Named home disk F)
include ht

theorem Named.of_sameNames (h : t.SameNames u) (hu : u.Sound) (hunmoved : u.Unmoved disk) :
    u.Named home disk F := by
  refine ⟨h.searchPath.trans ht.searchPath, h.workingDir.trans ht.workingDir,
    ht.indexed.of_sameNames h hu, fun spec stack id hmem => ?_, fun id p hp => ?_, hunmoved⟩
  · rw [key_congr h.workingDir, h.bySpec] at hmem
    obtain ⟨formats, hF, hpath⟩ := ht.known spec stack id hmem
    refine ⟨formats, hF, ?_⟩
    rw [h.path, hpath, resolved_congr h.searchPath h.workingDir]
  · rw [h.path] at hp
    exact ht.normal id p hp

theorem Named.intern (spec : FileSpec) (stack : DirectoryStack) {formats : List String}
    (hF : F formats) : (t.intern disk spec stack formats).2.Named home disk F := by
  have hindexed := ht.indexed.intern disk spec stack formats
  have hunmoved := ht.unmoved.intern ht.indexed.sound spec stack formats
  rcases intern_eq t disk spec stack formats with
    ⟨id, -, heq⟩ | ⟨id, -, hid, heq⟩ | ⟨f, -, -, hfpath, heq⟩
  · rw [heq]
    exact ht
  · rw [heq] at hindexed hunmoved ⊢
    -- the file at the path is known by one more name
    obtain ⟨p, hp, hcs⟩ := Option.map_eq_some_iff.mp (ht.indexed.byPath?_eq_some.mp hid)
    obtain ⟨q, rfl⟩ := ht.normal id p hp
    obtain ⟨q', hq'⟩ := t.normal_resolved disk spec stack formats
    rw [hq'] at hcs
    have hpath : t.path? id = some (t.resolved disk spec stack formats) := by
      rw [hp, hq', Path.normalize_inj hcs]
    refine ⟨ht.searchPath, ht.workingDir, hindexed, fun spec' stack' k hmem => ?_, ht.normal, hunmoved⟩
    rcases mem_assign.mp hmem with ⟨hkey, rfl⟩ | ⟨-, hmem⟩
    · exact ⟨formats, hF, hpath.trans (congrArg some (resolved_of_key hkey disk formats).symm)⟩
    · exact ht.known spec' stack' k hmem
  · rw [heq] at hindexed hunmoved ⊢
    dsimp only at hindexed hunmoved ⊢
    have hpath := path?_of_insert ht.indexed.sound
      (u := { t with
        files := (t.files.insert f).2
        byPath := assign (t.resolved disk spec stack formats).components
          ⟨(t.files.insert f).1⟩ t.byPath
        bySpec := assign (t.key spec stack) ⟨(t.files.insert f).1⟩ t.bySpec }) (f := f) rfl
    -- what was at a path before is not the new entry
    have hnew : t.path? ⟨(t.files.insert f).1⟩ = none := by
      rw [path?, file?, Slots.get?_fst_insert ht.indexed.sound]
      rfl
    refine ⟨ht.searchPath, ht.workingDir, hindexed, fun spec' stack' k hmem => ?_, fun k p hp => ?_,
      hunmoved⟩
    · rcases mem_assign.mp hmem with ⟨hkey, rfl⟩ | ⟨-, hmem⟩
      · refine ⟨formats, hF, ?_⟩
        rw [hpath, if_pos rfl, hfpath]
        exact congrArg some (resolved_of_key hkey disk formats).symm
      · obtain ⟨formats', hF', hold⟩ := ht.known spec' stack' k hmem
        refine ⟨formats', hF', ?_⟩
        rw [hpath, if_neg]
        · exact hold
        · rintro rfl
          rw [hnew] at hold
          cases hold
    · rw [hpath] at hp
      split at hp
      · rw [← Option.some.inj hp, hfpath]
        exact t.normal_resolved disk spec stack formats
      · exact ht.normal k p hp

theorem Named.dropFile (k : FileId) : (t.dropFile k).2.Named home disk F := by
  obtain ⟨hs, hw⟩ := t.searched_dropFile k
  have hbySpec : ∀ key id, (key, id) ∈ (t.dropFile k).2.bySpec →
      (key, id) ∈ t.bySpec ∧ (t.Live id → id ≠ k) := by
    unfold FileTable.dropFile
    split
    · rename_i hrm
      refine fun key id hmem => ⟨hmem, ?_⟩
      rintro hlive rfl
      rw [Live, file?, ← Slots.fst_remove, hrm] at hlive
      cases hlive
    · intro key id hmem
      obtain ⟨hmem, hid⟩ := List.mem_filter.mp hmem
      exact ⟨hmem, fun _ => of_decide_eq_true hid⟩
  refine ⟨hs.trans ht.searchPath, hw.trans ht.workingDir, ht.indexed.dropFile k,
    fun spec stack id hmem => ?_, fun id p hp => ?_, fun id f hf => ?_⟩
  · rw [key_congr hw] at hmem
    obtain ⟨hmem, hid⟩ := hbySpec _ _ hmem
    obtain ⟨formats, hF, hpath⟩ := ht.known spec stack id hmem
    refine ⟨formats, hF, ?_⟩
    rw [path?_dropFile, if_neg (hid (live_iff.mpr (by rw [hpath]; rfl))), hpath, resolved_dropFile]
  · rw [path?_dropFile] at hp
    split at hp
    · cases hp
    · exact ht.normal id p hp
  · rw [file?_dropFile] at hf
    split at hf
    · cases hf
    · rw [resolve_congr hs hw]
      exact ht.unmoved id f hf

end

/-- With nobody to ask, nobody is asked. -/
theorem Coherent.guide_locate {t : FileTable} (hc : t.Coherent) (disk : Disk) {sources : Sources}
    (hguide : sources.guide = none) (q : PlaceId) (screen : Bool) :
    (t.locate disk sources q screen).2.2.guide = none := by
  refine hc.locate_of_steps (I := fun _ s => s.guide = none) q screen (fun id f _ _ => ?_)
    (fun _ _ _ _ _ _ _ _ _ _ h => h) hguide
  have hopen := (t.openOrAsk_of_steps disk (J := fun s => s.guide = none)
    (fun s p hs => (guide_openFile s disk p).trans hs)
    (fun s name p hs => by rw [Sources.ask, hs]; exact hs) hguide f.spec.filename
    (t.lookedFor disk f)).1
  exact ⟨fun _ => hopen, fun _ _ _ => hopen⟩

/-- While there is nobody to ask, and the files on the disk stay the same, tables stay named. -/
theorem keptByGoing_named (home : FileTable) (disk : Disk) (F : List String → Prop) :
    KeptByGoing (· = disk) F fun t sources =>
      t.Coherent ∧ t.Named home disk F ∧ sources.guide = none :=
  have hkept := keptByGoing_coherent (· = disk) F
  { reading := fun sources =>
      { intern := by
          rintro t ⟨hc, ht, hguide⟩ _ rfl spec stack formats hF
          exact ⟨(hkept.reading sources).intern hc rfl spec stack hF, ht.intern spec stack hF, hguide⟩
        placeAt := by
          rintro t u file p q ⟨hc, ht, hguide⟩ hplace
          refine ⟨(hkept.reading sources).placeAt hc hplace, ?_, hguide⟩
          refine ht.of_sameNames (sameNames_placeAt hplace)
            ((placeAt_files hplace).1 ht.indexed.sound) ?_
          obtain ⟨f, -, ⟨-, rfl⟩ | ⟨-, -, rfl⟩⟩ := placeAt_eq_ok hplace
          · exact ht.unmoved
          · exact ht.unmoved.modifyFile rfl rfl rfl fun _ => .inr ⟨rfl, rfl, rfl⟩
        retain := fun ⟨hc, ht, hguide⟩ id =>
          ⟨(hkept.reading sources).retain hc id,
            ht.of_sameNames (sameNames_modify _ _ id fun _ => rfl) (ht.indexed.sound.retain id)
              (ht.unmoved.modifyFile rfl rfl rfl fun _ => .inr ⟨rfl, rfl, rfl⟩), hguide⟩
        dropFile := fun ⟨hc, ht, hguide⟩ id =>
          ⟨(hkept.reading sources).dropFile hc id, ht.dropFile id, hguide⟩
        release := fun ⟨hc, ht, hguide⟩ id =>
          ⟨(hkept.reading sources).release hc id,
            ht.of_sameNames (sameNames_modify _ _ id fun _ => rfl) (ht.indexed.sound.release id)
              (ht.unmoved.modifyFile rfl rfl rfl fun _ => .inr ⟨rfl, rfl, rfl⟩), hguide⟩ }
    locate := by
      rintro t sources ⟨hc, ht, hguide⟩ _ rfl q screen
      refine ⟨hkept.locate hc rfl q screen, ?_, hc.guide_locate _ hguide q screen⟩
      exact ht.of_sameNames (ht.unmoved.sameNames_locate hguide q screen)
        (ht.indexed.sound.locate _ sources q screen) (ht.unmoved.locate sources q screen)
    markVisited := by
      rintro t u sources q ⟨hc, ht, hguide⟩ hvisit
      refine ⟨(hc.markVisited hvisit).coherent, ?_, hguide⟩
      rw [markVisited_eq_ok hvisit]
      exact ht.of_sameNames ⟨fun _ => rfl, rfl, rfl, rfl, rfl⟩ ht.indexed.sound ht.unmoved }

end FileTable

/-! ## 4. Sessions -/

namespace Session

open FileTable

/-- The formats in which a session looks for files: those of its rules, and none. -/
def Searched (rules : RuleSet) (formats : List String) : Prop :=
  formats = [] ∨ ∃ r ∈ rules.rules, r.formats = formats

/-- A request that looks at one disk only, and leaves nobody to ask. -/
def Request.Unasked (disk : Disk) (r : Request) : Prop :=
  r.Within (· = disk) ∧ ∀ sources, r = .resource sources → sources.guide = none

section

variable {home : FileTable} {disk : Disk} {s : Session}

theorem named_serve (h : s.parseState.Known)
    (hnamed : s.table.Coherent ∧ s.table.Named home disk (Searched s.parse.settings.rules)
      ∧ s.sources.guide = none) {r : Request} (hr : r.Unasked disk) :
    (s.serve r).table.Coherent
      ∧ (s.serve r).table.Named home disk (Searched (s.serve r).parse.settings.rules)
      ∧ (s.serve r).sources.guide = none := by
  rw [settings_serve]
  refine serve_of_changes (I := fun t sources => t.Coherent
    ∧ t.Named home disk (Searched s.parse.settings.rules) ∧ sources.guide = none)
    (keptByGoing_named home disk _) (.inl rfl) (fun r hr => .inr ⟨r, hr, rfl⟩) h.balanced.sound hnamed
    hr.1 fun sources hsources => ⟨hnamed.1, hnamed.2.1, hr.2 sources hsources⟩

theorem named_serveAll (h : s.parseState.Known)
    (hnamed : s.table.Coherent ∧ s.table.Named home disk (Searched s.parse.settings.rules)
      ∧ s.sources.guide = none) {rs : List Request} (hrs : ∀ r ∈ rs, r.Unasked disk) :
    (s.serveAll rs).table.Named home disk (Searched s.parse.settings.rules) := by
  induction rs generalizing s with
  | nil => exact hnamed.2.1
  | cons r rs ih =>
    rw [← settings_serve s r]
    exact ih (known_serve h r) (named_serve h hnamed (hrs r List.mem_cons_self))
      fun r' hr' => hrs r' (List.mem_cons_of_mem r hr')

/-- The file of a message is at the path that the name of the message stands for. -/
theorem filePath_of_named (h : s.parseState.Known) {F : List String → Prop}
    (hnamed : s.table.Named home disk F) (hfew : s.table.Few) {m : Message}
    (hm : m ∈ s.parse.messages) (hlive : s.table.Live m.file) : ∃ formats, F formats
      ∧ Navigation.filePath disk s.table m = s.table.resolved disk m.location.spec .root formats := by
  have hkey : s.table.bySpec? (s.table.key m.location.spec .root) = some m.file :=
    (h.finds hfew m hm hlive).file
  obtain ⟨l, l', hl, -⟩ := List.lookup_eq_some_iff.mp (Option.filter_eq_some_iff.mp hkey).1
  have hmem : (s.table.key m.location.spec .root, m.file) ∈ s.table.bySpec := by
    rw [hl]
    exact List.mem_append_right l List.mem_cons_self
  obtain ⟨formats, hF, hpath⟩ := hnamed.known _ _ _ hmem
  obtain ⟨f, hf, hfpath⟩ := Option.map_eq_some_iff.mp hpath
  refine ⟨formats, hF, ?_⟩
  rw [Navigation.filePath, hf, ← hfpath]

omit s in
/-- A file that is not there is known by the path that the name of the message stands for as it is. -/
theorem filePath_dropFile (t : FileTable) (m : Message) :
    Navigation.filePath disk (t.dropFile m.file).2 m
      = t.resolved disk m.location.spec .root [] := by
  rw [← resolved_dropFile t m.file, Navigation.filePath, file?_dropFile, if_pos rfl]
  rfl

end

/-- Whatever was asked of a session, if the files on the disk stay the same, there is nobody to ask and
no slot was emptied 2 ^ 32 times: the file of a message is at the path that the name of the message
stands for in the formats of some rule, and it is known by this path after it was dropped just if the
formats lead where the name itself does.  A message whose name no formats lead elsewhere is in the
file at one path whatever is dropped. -/
theorem filePath_dropFile_iff (cfg : ScanSettings) (p : Option DirectoryPattern) (workingDir : Path)
    (searchPath : List (Option Path)) (nav : NavigationSettings) {sources : Sources}
    (log : Transcript) {rs : List Request} {disk : Disk} (hguide : sources.guide = none)
    (hrs : ∀ r ∈ rs, r.Unasked disk) :
    let s := (start cfg { pattern := p } { workingDir, searchPath } nav sources log).serveAll rs
    let path := fun (t : FileTable) m => Navigation.filePath disk t m
    let named := fun (m : Message) formats => s.table.resolved disk m.location.spec .root formats
    s.table.Few →
      (∀ m ∈ s.parse.messages, s.table.Live m.file → ∃ formats, Searched cfg.rules formats
        ∧ path s.table m = named m formats
        ∧ (path (s.table.dropFile m.file).2 m = path s.table m ↔ named m [] = named m formats))
      ∧ ∀ m ∈ s.parse.messages, (∀ r ∈ cfg.rules.rules, named m r.formats = named m []) →
        ∀ id, path (s.table.dropFile id).2 m = path s.table m := by
  intro s path named hfew
  have hstart := known_start cfg p workingDir searchPath nav sources log
  have h : s.parseState.Known := known_serveAll hstart rs
  have hnamed : s.table.Named { workingDir, searchPath } disk (Searched cfg.rules) :=
    named_serveAll hstart
      ⟨coherent_empty searchPath workingDir, named_empty disk _ searchPath workingDir, hguide⟩ hrs
  have hpath := fun m hm hlive => filePath_of_named h hnamed hfew (m := m) hm hlive
  have hdropped : ∀ m, path (s.table.dropFile m.file).2 m = named m [] := filePath_dropFile s.table
  refine ⟨fun m hm hlive => ?_, fun m hm hplain id => ?_⟩
  · obtain ⟨formats, hsearched, heq⟩ := hpath m hm hlive
    refine ⟨formats, hsearched, heq, ?_⟩
    rw [hdropped, show path s.table m = named m formats from heq]
  · by_cases hid : m.file = id
    · subst hid
      rw [hdropped]
      by_cases hlive : s.table.Live m.file
      · obtain ⟨formats, rfl | ⟨r, hr, rfl⟩, heq⟩ := hpath m hm hlive
        · exact heq.symm
        · exact (hplain r hr).symm.trans heq.symm
      · -- it was not there before
        rw [Live, Bool.not_eq_true, Option.isSome_eq_false_iff, Option.isNone_iff_eq_none] at hlive
        show _ = Navigation.filePath disk s.table m
        rw [Navigation.filePath, hlive]
        rfl
    · -- another file is dropped
      show Navigation.filePath disk _ m = Navigation.filePath disk _ m
      unfold Navigation.filePath
      rw [file?_dropFile, if_neg hid]
      cases s.table.file? m.file with
      | some f => rfl
      | none => exact s.table.resolved_dropFile id disk _ .root []

/-- A capital letter names the file with a small one behind it, which may be named as well. -/
def templateRules : RuleSet :=
  ⟨[.ofExpr "file" (.cat (.one (.singleton 'A')) (.one (.singleton 'b'))) 1,
    { Rule.ofSet "template" (.ofRange 65 90) with formats := ["%sb"] }]⟩

def templateDisk : Disk := Disk.empty.write (.ofString "/Ab") (.file .empty)

/-- The second line names the file that the first one leads to, and the third one a file that there
is not. -/
def templated : Session :=
  (start { rules := templateRules } { pattern := none } { workingDir := ⟨['/']⟩ } {} {}
    (.ofText "A\nAb\nC\n".toList)).serveAll [.read templateDisk 7]

/-- Of the third line, it does not matter what is dropped. -/
theorem filePath_dropFile_templated :
    templated.table.Few ∧ ∀ m ∈ templated.parse.messages, m.location.filename = "C" →
      ∀ id, Navigation.filePath templateDisk (templated.table.dropFile id).2 m
        = Navigation.filePath templateDisk templated.table m := by
  have hfew : templated.table.Few := by decide +kernel
  have hrs : ∀ r ∈ [Request.read templateDisk 7], r.Unasked templateDisk := by
    intro r hr
    rw [List.mem_singleton.mp hr]
    exact ⟨rfl, nofun⟩
  refine ⟨hfew, fun m hm hname => ?_⟩
  refine (filePath_dropFile_iff { rules := templateRules } none ⟨['/']⟩ [none] {} _
    (rfl : ({} : Sources).guide = none) hrs hfew).2 m hm ?_
  revert m
  decide +kernel

/-- The first two lines are in one file, until it is dropped. -/
theorem filePath_dropFile_differs :
    let paths := fun (t : FileTable) =>
      templated.parse.messages.map fun m => (Navigation.filePath templateDisk t m).toString
    paths templated.table = ["/Ab", "/Ab", "/C"]
      ∧ paths (templated.flushFile templateDisk ⟨"A", none⟩).2.table = ["/A", "/Ab", "/C"] := by
  decide +kernel

end Session

end BuildLog
