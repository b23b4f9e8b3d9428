import BuildLog.Proofs.Changes
import BuildLog.Proofs.Coalescing
import BuildLog.Proofs.Filing

/-!
# Lasting — what a table knows of a file lasts as long as the file

While a file is there, each name that it was found by leads to it, its places stay at their
positions, and a place that was gone to stays visited.  So a message is found where it was found
before, if its text is read again while its file is there.
-/

namespace BuildLog

namespace FileTable

/-! ## 1. What a table may become -/

/-- A table that `t` may become.  As long as no slot was emptied so often that its generations begin
anew, a file that went does not come back, and what is known of one that is there is known still. -/
structure Becomes (t u : FileTable) : Prop where
  filed : u.Filed
  grows : t.Grows u
  workingDir : u.workingDir = t.workingDir
  file : u.Few → ∀ id, t.files.Issued id.handle → u.Live id → t.Live id
  bySpec : u.Few → ∀ key id, t.bySpec? key = some id → u.Live id → u.bySpec? key = some id
  place : u.Few → ∀ q p, t.place? q = some p → u.Live p.file →
    ∃ x, u.place? q = some x ∧ x.file = p.file ∧ x.position = p.position ∧ (p.visited → x.visited)

theorem issued_of_live {t : FileTable} {id : FileId} (h : t.Live id) : t.files.Issued id.handle := by
  obtain ⟨f, hf⟩ := Option.isSome_iff_exists.mp h
  exact Slots.issued_of_get? hf

/-- A live place is in a live file. -/
theorem Coherent.live_of_place {t : FileTable} (ht : t.Coherent) {q : PlaceId} {p : Place}
    (hp : t.place? q = some p) : t.Live p.file := by
  obtain ⟨f, hf, -⟩ := ht.owned q p hp
  rw [Live, hf]
  rfl

section

variable {t u v : FileTable} (ht : t.Filed)
include ht

theorem Becomes.refl : t.Becomes t :=
  ⟨ht, .refl t, rfl, fun _ _ _ h => h, fun _ _ _ h _ => h, fun _ _ p hp _ => ⟨p, hp, rfl, rfl, id⟩⟩

theorem Becomes.trans (h : t.Becomes u) (h' : u.Becomes v) : t.Becomes v := by
  -- a file of `t` that is there in the end is there in between
  have hmid : v.Few → ∀ id, t.Live id → v.Live id → u.Live id := fun hv id hid hlive =>
    h'.file hv id ((issued_of_live hid).grows h.grows.files) hlive
  refine ⟨h'.filed, h.grows.trans h'.grows, h'.workingDir.trans h.workingDir,
    fun hv id hid hlive => ?_, fun hv key id hkey hlive => ?_, fun hv q p hp hlive => ?_⟩
  · exact h.file (hv.of_grows h'.grows) id hid (h'.file hv id (hid.grows h.grows.files) hlive)
  · have hu := hmid hv id (bySpec?_live hkey) hlive
    exact h'.bySpec hv key id (h.bySpec (hv.of_grows h'.grows) key id hkey hu) hlive
  · have hu := hmid hv p.file (ht.coherent.live_of_place hp) hlive
    obtain ⟨x, hx, hfile, hpos, hvisited⟩ := h.place (hv.of_grows h'.grows) q p hp hu
    obtain ⟨y, hy, hfile', hpos', hvisited'⟩ := h'.place hv q x hx (hfile ▸ hlive)
    exact ⟨y, hy, hfile'.trans hfile, hpos'.trans hpos, fun hp => hvisited' (hvisited hp)⟩

/-! ## 2. What each change makes of a table -/

omit ht in
/-- Files and places were added at most, and names for them. -/
theorem Extends.becomes (he : t.Extends u) (hu : u.Filed) (hw : u.workingDir = t.workingDir)
    (hspec : ∀ key id, t.bySpec? key = some id → u.bySpec? key = some id)
    (hplace : ∀ q p, t.place? q = some p → ∃ x, u.place? q = some x ∧ x.file = p.file
      ∧ x.position = p.position ∧ (p.visited → x.visited)) : t.Becomes u := by
  refine ⟨hu, he.grows, hw, fun hfew id hid hlive => ?_, fun _ key id hkey _ => hspec key id hkey,
    fun _ q p hp _ => hplace q p hp⟩
  by_contra hdead
  obtain ⟨g, hg⟩ := Option.isSome_iff_exists.mp hlive
  rw [Live, Bool.not_eq_true, Option.isSome_eq_false_iff, Option.isNone_iff_eq_none] at hdead
  exact (he.newFile id g hg hdead).2 hfew hid

omit ht in
/-- What a name is found to be is found still, if it is not among what goes. -/
theorem lookup_filter_snd {κ α : Type} [BEq κ] [LawfulBEq κ] (p : α → Bool) {k : κ} {a : α}
    {xs : List (κ × α)} (h : xs.lookup k = some a) (ha : p a) :
    (xs.filter fun x => p x.2).lookup k = some a := by
  induction xs with
  | nil => cases h
  | cons x xs ih =>
    rw [List.lookup_cons] at h
    rw [List.filter_cons]
    by_cases hx : k = x.1
    · rw [beq_iff_eq.mpr hx] at h
      cases h
      rw [if_pos ha, List.lookup_cons, beq_iff_eq.mpr hx]
    · rw [beq_eq_false_iff_ne.mpr hx] at h
      split
      · rw [List.lookup_cons, beq_eq_false_iff_ne.mpr hx]
        exact ih h
      · exact ih h

theorem becomes_intern (disk : Disk) (spec : FileSpec) (stack : DirectoryStack)
    (formats : List String) : t.Becomes (t.intern disk spec stack formats).2 := by
  have he := ht.coherent.intern disk spec stack formats
  have hfiled := ht.of_filing he.coherent (filing_intern ht.coherent disk spec stack formats)
  have hplaces := places_intern t disk spec stack formats
  have hw : (t.intern disk spec stack formats).2.workingDir = t.workingDir := by
    rcases intern_eq t disk spec stack formats with ⟨_, -, h⟩ | ⟨_, -, -, h⟩ | ⟨_, -, -, -, h⟩
    · rw [h]
    · rw [h]
    · rw [h]
  refine he.becomes hfiled hw (fun key id hkey => ?_) fun q p hp => ⟨p, ?_, rfl, rfl, id⟩
  · have hlive : (t.intern disk spec stack formats).2.Live id := by
      obtain ⟨f, hf⟩ := Option.isSome_iff_exists.mp (bySpec?_live hkey)
      obtain ⟨g, hg, -⟩ := he.file id f hf
      rw [Live, hg]
      rfl
    have hold := (Option.filter_eq_some_iff.mp hkey).1
    -- a name is given a file only if it has none
    have hlookup : (t.intern disk spec stack formats).2.bySpec.lookup key = some id := by
      have hother : t.bySpec? (t.key spec stack) = none → key ≠ t.key spec stack := by
        rintro hnone rfl
        rw [hkey] at hnone
        cases hnone
      rcases intern_eq t disk spec stack formats with
        ⟨_, -, h⟩ | ⟨_, hnone, -, h⟩ | ⟨_, hnone, -, -, h⟩
      · rw [h]
        exact hold
      · rw [h]
        dsimp only
        rw [lookup_assign, if_neg (hother hnone), hold]
      · rw [h]
        dsimp only
        rw [lookup_assign, if_neg (hother hnone), hold]
    exact Option.filter_eq_some_iff.mpr ⟨hlookup, hlive⟩
  · rw [place?, hplaces]
    exact hp

omit ht in
/-- The places are those that there were, and perhaps a new one. -/
theorem Coherent.place?_placeAt (ht : t.Coherent) {file : FileId} {p : Position} {q : PlaceId}
    (h : t.placeAt file p = .ok (q, u)) (r : PlaceId) :
    u.place? r = t.place? r
      ∨ r = q ∧ t.place? r = none ∧ u.place? r = some { file, position := p } := by
  obtain ⟨f, -, ⟨-, rfl⟩ | ⟨-, rfl, rfl⟩⟩ := placeAt_eq_ok h
  · exact .inl rfl
  · have hinsert := Slots.get?_insert ht.places { file, position := p } r.handle
    have hnone := Slots.get?_fst_insert ht.places { file, position := p }
    split at hinsert
    · rename_i hr
      refine .inr ⟨place_handle_eq_iff.mp hr, ?_, hinsert⟩
      rw [place?, hr]
      exact hnone
    · exact .inl hinsert

/-- A place that is there stays as it is when another one is made. -/
theorem place?_of_placeAt {file : FileId} {p : Position} {q r : PlaceId} {x : Place}
    (h : t.placeAt file p = .ok (q, u)) (hr : t.place? r = some x) : u.place? r = some x := by
  rcases ht.coherent.place?_placeAt h r with heq | ⟨-, hnone, -⟩
  · rw [heq, hr]
  · rw [hr] at hnone
    cases hnone

theorem becomes_placeAt {file : FileId} {p : Position} {q : PlaceId}
    (h : t.placeAt file p = .ok (q, u)) : t.Becomes u := by
  obtain ⟨he, -⟩ := ht.coherent.placeAt h
  have hfiled := ht.of_filing he.coherent (filing_placeAt ht.coherent h)
  have hnames := sameNames_placeAt h
  refine he.becomes hfiled hnames.workingDir (fun key id hkey => ?_)
    fun r x hx => ⟨x, place?_of_placeAt ht h hx, rfl, rfl, id⟩
  rw [bySpec?, Option.filter_eq_some_iff] at hkey ⊢
  rw [hnames.bySpec]
  exact ⟨hkey.1, live_iff.mpr (by rw [hnames.path]; exact live_iff.mp hkey.2)⟩

/-- No file or place came or went, and no name changed. -/
theorem becomes_of_alike (ha : t.Alike u) (hu : u.Coherent) (hg : t.Grows u)
    (hw : u.workingDir = t.workingDir) (hspec : u.bySpec = t.bySpec)
    (hvisited : ∀ q p x, t.place? q = some p → u.place? q = some x → p.visited → x.visited) :
    t.Becomes u := by
  have hlive : ∀ id, u.Live id ↔ t.Live id := by
    intro id
    have hlisting := congrArg Option.isSome (ha.listing id)
    rw [listing, listing, Option.isSome_map, Option.isSome_map] at hlisting
    rw [Live, Live, hlisting]
  refine ⟨ht.of_filing hu (.alike ha), hg, hw, fun _ id _ h => (hlive id).mp h,
    fun _ key id hkey _ => ?_, fun _ q p hp _ => ?_⟩
  · rw [bySpec?, Option.filter_eq_some_iff] at hkey ⊢
    rw [hspec]
    exact ⟨hkey.1, (hlive id).mpr hkey.2⟩
  · have hspot := ha.spot q
    rw [show t.spot q = some (p.file, p.position) by rw [spot, hp]; rfl] at hspot
    obtain ⟨x, hx, hfile, hpos⟩ := spot_eq_some.mp hspot
    exact ⟨x, hx, hfile, hpos, hvisited q p x hp hx⟩

theorem becomes_modifyFile (id : FileId) {g : FileEntry → FileEntry}
    (hg : ∀ f, (g f).places = f.places) :
    t.Becomes { t with files := t.files.modify id.handle g } := by
  refine becomes_of_alike ht ((Alike.refl t).modifyFile id hg)
    (Accounts.coherent_modify ht.coherent id hg) (Accounts.grows_modify t id g) rfl rfl
    fun q p x hp hx hvisited => ?_
  change t.place? q = some x at hx
  rw [hp] at hx
  exact Option.some.inj hx ▸ hvisited

theorem becomes_retain (id : FileId) : t.Becomes (t.retain id) :=
  becomes_modifyFile ht id fun _ => rfl

theorem becomes_release (id : FileId) : t.Becomes (t.release id) :=
  becomes_modifyFile ht id fun _ => rfl

theorem becomes_markVisited {q : PlaceId} (h : t.markVisited q = .ok u) : t.Becomes u := by
  have he := ht.coherent.markVisited h
  have hplace := place?_markVisited h
  rw [markVisited_eq_ok h] at he hplace ⊢
  refine becomes_of_alike ht ((Alike.refl t).modifyPlace q fun _ => rfl) he.coherent he.grows rfl rfl
    fun r p x hp hx hvisited => ?_
  rw [hplace, hp] at hx
  split at hx
  · cases hx
    rfl
  · cases hx
    exact hvisited

omit ht in
/-- Going to a place visits none: that is for the one who arrives. -/
theorem visited_locate (t : FileTable) (disk : Disk) (sources : Sources) (q : PlaceId)
    (screen : Bool) (r : PlaceId) : ((t.locate disk sources q screen).2.1.place? r).map (·.visited)
      = (t.place? r).map (·.visited) := by
  refine locate_of_changes (I := fun u => (u.place? r).map (·.visited) = (t.place? r).map (·.visited))
    (fun _ _ _ _ _ _ h => h) (fun u q m h => ?_) rfl disk sources q screen
  rw [← h]
  show ((u.places.modify _ _).get? _).map _ = (u.places.get? _).map _
  rw [Slots.get?_modify]
  split
  · rw [Option.map_map]
    rfl
  · rfl

theorem becomes_locate (disk : Disk) (sources : Sources) (q : PlaceId) (screen : Bool) :
    t.Becomes (t.locate disk sources q screen).2.1 := by
  have he := ht.coherent.locate disk sources q screen
  -- opening a file and marking a place change no name
  obtain ⟨hw, hspec⟩ : (t.locate disk sources q screen).2.1.workingDir = t.workingDir
      ∧ (t.locate disk sources q screen).2.1.bySpec = t.bySpec :=
    locate_of_changes (I := fun u => u.workingDir = t.workingDir ∧ u.bySpec = t.bySpec)
      (fun _ _ _ _ _ _ h => h) (fun _ _ _ h => h) ⟨rfl, rfl⟩ disk sources q screen
  refine becomes_of_alike ht (t.alike_locate disk sources q screen) he.coherent he.grows hw hspec
    fun r p x hp hx h => ?_
  have heq := t.visited_locate disk sources q screen r
  rw [hp, hx] at heq
  exact (Option.some.inj heq).trans h

theorem becomes_dropFile (k : FileId) : t.Becomes (t.dropFile k).2 := by
  obtain ⟨hcoherent, hgrows⟩ := ht.coherent.dropFile k
  have hlive : ∀ {id}, (t.dropFile k).2.Live id → id ≠ k ∧ t.Live id := by
    intro id h
    rw [Live, file?_dropFile] at h
    split at h
    · cases h
    · exact ⟨‹_›, h⟩
  have hnames : (t.dropFile k).2.workingDir = t.workingDir
      ∧ ∀ key id, t.bySpec.lookup key = some id → id ≠ k →
        (t.dropFile k).2.bySpec.lookup key = some id := by
    unfold dropFile
    split
    · exact ⟨rfl, fun _ _ h _ => h⟩
    · refine ⟨rfl, fun key id h hid => ?_⟩
      exact lookup_filter_snd (fun id => decide (id ≠ k)) h (decide_eq_true hid)
  refine ⟨ht.of_filing hcoherent (filing_dropAll ht.coherent [k]), hgrows, hnames.1,
    fun _ id _ h => (hlive h).2, fun _ key id hkey h => ?_, fun _ q p hp h => ⟨p, ?_, rfl, rfl, id⟩⟩
  · exact Option.filter_eq_some_iff.mpr
      ⟨hnames.2 key id (Option.filter_eq_some_iff.mp hkey).1 (hlive h).1, h⟩
  · rw [ht.coherent.place?_dropFile, hp, Option.filter_some,
      if_pos (decide_eq_true (hlive h).1)]

end

/-- Whatever is done to a table, it becomes another one. -/
theorem keptByGoing_becomes {t : FileTable} (ht : t.Filed) :
    KeptByGoing (fun _ => True) (fun _ => True) fun u _ => t.Becomes u where
  reading _ :=
    { intern := fun h _ _ spec stack _ _ => h.trans ht (becomes_intern h.filed _ spec stack _)
      placeAt := fun h hplace => h.trans ht (becomes_placeAt h.filed hplace)
      retain := fun h id => h.trans ht (becomes_retain h.filed id)
      dropFile := fun h id => h.trans ht (becomes_dropFile h.filed id)
      release := fun h id => h.trans ht (becomes_release h.filed id) }
  locate h _ _ q screen := h.trans ht (becomes_locate h.filed _ _ q screen)
  markVisited h hvisit := h.trans ht (becomes_markVisited h.filed hvisit)

/-! ## 3. Messages that a table finds -/

/-- The file of a message is found by the name that the message gives, and its place is where the
message says. -/
structure Finds (t : FileTable) (m : Message) : Prop where
  file : t.bySpec? (t.key m.location.spec .root) = some m.file
  place : t.spot m.place = some (m.file, m.location.position)

section

variable {t u : FileTable} {m m' : Message}

/-- A message is found as long as its file is there. -/
theorem Finds.becomes (h : t.Finds m) (hb : t.Becomes u) (hfew : u.Few) (hlive : u.Live m.file) :
    u.Finds m := by
  refine ⟨?_, ?_⟩
  · rw [key_congr hb.workingDir]
    exact hb.bySpec hfew _ _ h.file hlive
  · obtain ⟨p, hp, hfile, hpos⟩ := spot_eq_some.mp h.place
    obtain ⟨x, hx, hfile', hpos', -⟩ := hb.place hfew _ p hp (hfile ▸ hlive)
    exact spot_eq_some.mpr ⟨x, hx, hfile'.trans hfile, hpos'.trans hpos⟩

/-- Two messages with one location are found at one place. -/
theorem Finds.eq (ht : t.Filed) (h : t.Finds m) (h' : t.Finds m')
    (hlocation : m'.location = m.location) : m'.file = m.file ∧ m'.place = m.place := by
  have hfile : m'.file = m.file := by
    have hspec := h'.file
    rw [hlocation, h.file] at hspec
    exact (Option.some.inj hspec).symm
  refine ⟨hfile, ?_⟩
  have hplace := h'.place
  rw [hfile, hlocation] at hplace
  -- a file lists one place for a position
  obtain ⟨ps, hps, hmem⟩ := ht.spot_iff.mp h.place
  obtain ⟨ps', hps', hmem'⟩ := ht.spot_iff.mp hplace
  cases hps.symm.trans hps'
  have hsorted := ht.sorted _ ps hps
  have hlookup := hsorted.lookup_eq_some_iff.mpr hmem'
  rw [hsorted.lookup_eq_some_iff.mpr hmem] at hlookup
  exact (Option.some.inj hlookup).symm

theorem Filed.spot_of_placeAt (ht : t.Filed) {file : FileId} {p : Position} {q : PlaceId}
    (h : t.placeAt file p = .ok (q, u)) : u.spot q = some (file, p) := by
  obtain ⟨ps, hps, hmem⟩ := ht.mem_of_placeAt h
  exact (becomes_placeAt ht h).filed.spot file ps hps p q hmem

/-- A place stays where it is when another is made. -/
theorem spot_placeAt (ht : t.Filed) {file file' : FileId} {p p' : Position} {q r : PlaceId}
    (h : t.placeAt file p = .ok (q, u)) (hr : t.spot r = some (file', p')) :
    u.spot r = some (file', p') := by
  obtain ⟨x, hx, hrest⟩ := spot_eq_some.mp hr
  exact spot_eq_some.mpr ⟨x, place?_of_placeAt ht h hx, hrest⟩

/-- A name in the directory that a build is in is one that gives the directory itself. -/
theorem key_directory (t : FileTable) (filename : String) (stack : DirectoryStack) :
    t.key ⟨filename, stack.directory?⟩ .root = t.key ⟨filename, none⟩ stack := by
  unfold key baseDirectory
  cases stack.directory? <;> rfl

/-- A name that was interned leads to its file. -/
theorem bySpec?_intern (ht : t.Sound) (disk : Disk) (spec : FileSpec) (stack : DirectoryStack)
    (formats : List String) :
    (t.intern disk spec stack formats).2.bySpec? (t.key spec stack)
      = some (t.intern disk spec stack formats).1 := by
  refine Option.filter_eq_some_iff.mpr ⟨?_, live_intern ht disk spec stack formats⟩
  rcases intern_eq t disk spec stack formats with ⟨_, hs, h⟩ | ⟨_, -, -, h⟩ | ⟨_, -, -, -, h⟩
  · rw [h]
    exact (Option.filter_eq_some_iff.mp hs).1
  · rw [h]
    dsimp only
    rw [lookup_assign, if_pos rfl]
  · rw [h]
    dsimp only
    rw [lookup_assign, if_pos rfl]

end

end FileTable

open FileTable

section Scan

/-- The file that a match without a file of its own inherits is found by the name it inherits. -/
def FileTable.FindsInherited (t : FileTable) (p : Inherited) : Prop :=
  t.Live p.file → t.bySpec? (t.key ⟨p.filename, p.directory⟩ .root) = some p.file

variable {cfg : ScanSettings} {disk : Disk} {s s' : ScanState} (hs : s.table.Filed)
include hs

/-- The file that is chosen for a match is found by the name that the message will give. -/
theorem bySpec?_chooseFile {rule : Rule} {f : Found} {offset : Nat} {previous : Option Inherited}
    (hprev : ∀ p ∈ previous, s.table.FindsInherited p) {choice : FileChoice}
    (hc : chooseFile cfg disk rule f offset previous s = some choice) :
    choice.state.table.bySpec?
        (choice.state.table.key ⟨choice.filename, choice.directory⟩ .root) = some choice.file := by
  have hintern : ∀ {t : FileTable} (spec : FileSpec) (stack : DirectoryStack), t.Filed →
      (t.intern disk spec stack rule.formats).2.bySpec?
          ((t.intern disk spec stack rule.formats).2.key spec stack)
        = some (t.intern disk spec stack rule.formats).1 := by
    intro t spec stack ht
    rw [key_congr (becomes_intern ht disk spec stack rule.formats).workingDir]
    exact bySpec?_intern ht.coherent.files disk spec stack rule.formats
  unfold chooseFile at hc
  split at hc
  · obtain ⟨name, -, rfl⟩ := Option.map_eq_some_iff.mp hc
    -- the name is taken in the directory that the build is in, and the message gives both
    unfold namedFile
    dsimp only
    rw [key_directory]
    refine hintern { filename := String.ofList name } _ ?_
    split
    · split
      · exact (becomes_dropFile hs _).filed
      · exact hs
    · exact hs
  · obtain ⟨p, hp, rfl⟩ := Option.map_eq_some_iff.mp hc
    unfold inheritedFile
    split
    · rename_i hlive
      exact hprev p hp hlive
    · exact hintern ⟨p.filename, p.directory⟩ .root hs

omit hs in
/-- The place of a location is in the file that it was asked for, at the position of the location. -/
theorem spot_placesOf {t u : FileTable} (ht : t.Filed) {file : FileId} {l : TextLocation}
    {place : PlaceId} {endPlace : Option PlaceId}
    (h : placesOf t file l = .ok (place, endPlace, u)) : u.spot place = some (file, l.position) := by
  obtain ⟨v, hp, ⟨-, rfl⟩ | ⟨p, e, -, -, hp'⟩⟩ := placesOf_eq_ok h
  · exact ht.spot_of_placeAt hp
  · exact spot_placeAt (becomes_placeAt ht hp).filed hp' (ht.spot_of_placeAt hp)

theorem becomes_message? {c : Candidate} {input : Array Char} {base : Nat}
    {previous : Option Inherited} {m : Message}
    (hm : c.message? cfg disk input base previous s = some (m, s')) :
    s.table.Becomes s'.table :=
  have hkept := (keptByGoing_becomes hs).reading {}
  hkept.toKeptByAdding.message? trivial cfg trivial (fun _ _ ht => hkept.dropFile ht) (.refl hs) hm

/-- A message is found when it has been made. -/
theorem finds_message? {c : Candidate} {input : Array Char} {base : Nat}
    {previous : Option Inherited} (hprev : ∀ p ∈ previous, s.table.FindsInherited p) {m : Message}
    (hm : c.message? cfg disk input base previous s = some (m, s')) (hfew : s'.table.Few) :
    s'.table.Finds m := by
  obtain ⟨choice, u, hchoice, hplaces, -, hfile, hspec, rfl⟩ := Candidate.of_message? hm
  have hkept := (keptByGoing_becomes hs).reading {}
  have hc : choice.state.table.Filed :=
    (hkept.toKeptByAdding.chooseFile (D := fun _ => True) (F := fun _ => True) trivial cfg trivial
      (fun _ _ ht => hkept.dropFile ht) (.refl hs) hchoice).filed
  have hkey := bySpec?_chooseFile hs hprev hchoice
  have hkept' := (keptByGoing_becomes hc).reading {}
  have hu : choice.state.table.Becomes (u.retain choice.file) :=
    hkept'.retain (hkept'.toKeptByAdding.placesOf (.refl hc) hplaces) choice.file
  have hspot : (u.retain choice.file).spot m.place = some (choice.file, m.location.position) :=
    spot_placesOf (u := u) hc hplaces
  have hlive : (u.retain choice.file).Live choice.file := by
    obtain ⟨x, hx, hxfile, -⟩ := spot_eq_some.mp hspot
    exact hxfile ▸ hu.filed.coherent.live_of_place hx
  refine ⟨?_, hfile ▸ hspot⟩
  rw [key_congr hu.workingDir, hspec, hfile]
  exact hu.bySpec hfew _ _ hkey hlive

omit hs in
theorem FileTable.Finds.inherited {t : FileTable} {m : Message} (h : t.Finds m) :
    t.FindsInherited (.ofMessage m) := fun _ => h.file

variable (cfg disk) in
/-- Each message of a scan is found when it is made; and what is known of it then lasts as long as
its file. -/
theorem finds_scanCandidates (text : Text) (input : Array Char) (base claimed : Nat)
    {previous : Option Inherited} (hprev : s.table.Few → ∀ p ∈ previous, s.table.FindsInherited p)
    (cs : List Candidate) :
    let r := scanCandidates cfg disk text input base claimed previous s cs
    s.table.Becomes r.2.table ∧ (r.2.table.Few → ∀ m ∈ r.1,
      ∃ u, s.table.Becomes u ∧ u.Finds m ∧ u.Becomes r.2.table) := by
  induction cs generalizing claimed previous s with
  | nil => exact ⟨.refl hs, fun _ _ hm => absurd hm List.not_mem_nil⟩
  | cons c cs ih =>
    intro r
    have hr : r = scanCandidates cfg disk text input base claimed previous s (c :: cs) := rfl
    rw [scanCandidates] at hr
    split at hr
    · rw [hr]
      exact ih hs claimed hprev
    · cases hm : c.message? cfg disk input base previous s with
      | none =>
        rw [hm] at hr
        rw [hr]
        exact ih hs claimed hprev
      | some r' =>
        obtain ⟨m, s'⟩ := r'
        rw [hm] at hr
        dsimp only at hr
        have hb := becomes_message? hs hm
        have hfinds : s'.table.Few → s'.table.Finds m := fun hfew =>
          finds_message? hs (hprev (hfew.of_grows hb.grows)) hm hfew
        -- the next match may inherit the file of this message
        obtain ⟨hrest, hfound⟩ := ih hb.filed (text.lineEndAfter c.found.span.stop)
          fun hfew p (hp : p ∈ some (Inherited.ofMessage m)) =>
            Option.mem_some.mp hp ▸ (hfinds hfew).inherited
        rw [hr]
        refine ⟨hb.trans hs hrest, fun hfew m' hm' => ?_⟩
        rcases List.mem_cons.mp hm' with rfl | hm'
        · exact ⟨s'.table, hb, hfinds (hfew.of_grows hrest.grows), hrest⟩
        · obtain ⟨u, hu, hrest⟩ := hfound hfew m' hm'
          exact ⟨u, hb.trans hs hu, hrest⟩

end Scan

/-! ## 4. States -/

namespace Parse

/-- Every message whose file is there is found. -/
structure State.Known (s : State) : Prop where
  balanced : s.Balanced
  filed : s.table.Filed
  finds : s.table.Few → ∀ m ∈ s.parse.messages, s.table.Live m.file → s.table.Finds m

/-- Where a message of a later state comes from: it was there before, or was found in between. -/
def State.Source (s : State) (later : FileTable) (m : Message) : Prop :=
  (∃ old ∈ s.parse.messages, m.reference = old.reference ∧ m.location = old.location)
    ∨ ∃ u, s.table.Becomes u ∧ u.Finds m ∧ u.Becomes later

section

variable {s s' : State} (h : s.Known)
include h

/-- A message whose file is there still is found still. -/
theorem State.Known.finds_later {u : FileTable} (hb : s.table.Becomes u) (hfew : u.Few) {m : Message}
    (hm : m ∈ s.parse.messages) (hlive : u.Live m.file) : u.Finds m := by
  have hissued := (h.balanced.accounted.issued m.reference (List.mem_map_of_mem hm)).file
  have hold := h.finds (hfew.of_grows hb.grows) m hm (hb.file hfew m.file hissued hlive)
  exact hold.becomes hb hfew hlive

theorem State.Known.of_sources (hbalanced : s'.Balanced) (hb : s.table.Becomes s'.table)
    (hm : s'.table.Few → ∀ m ∈ s'.parse.messages, s.Source s'.table m) : s'.Known := by
  refine ⟨hbalanced, hb.filed, fun hfew m hmem hlive => ?_⟩
  rcases hm hfew m hmem with ⟨old, hold, href, hlocation⟩ | ⟨u, -, hu, hb'⟩
  · have hfile : m.file = old.file := congrArg Reference.file href
    have hplace : m.place = old.place := congrArg Reference.place href
    obtain ⟨h₁, h₂⟩ := h.finds_later hb hfew hold (hfile ▸ hlive)
    refine ⟨?_, ?_⟩
    · rw [hlocation, hfile]
      exact h₁
    · rw [hlocation, hfile, hplace]
      exact h₂
  · exact hu.becomes hb' hfew hlive

omit h in
theorem State.source_of_mem {u : FileTable} {m : Message} (hm : m ∈ s.parse.messages) :
    s.Source u m := .inl ⟨m, hm, rfl, rfl⟩

/-- A reading keeps messages as they are, and finds others at the cursor or behind it. -/
theorem State.Known.advance_cases (disk : Disk) (upto : Nat)
    (hfew : (advance disk upto s).2.table.Few) {m : Message}
    (hm : m ∈ (advance disk upto s).2.parse.messages) :
    m ∈ s.parse.messages ∨ (snap (settle s)).parse.cursor ≤ m.start
      ∧ ∃ u, s.table.Becomes u ∧ u.Finds m ∧ u.Becomes (advance disk upto s).2.table := by
  have hrelease : ∀ {t}, s.table.Becomes t → ∀ id, s.table.Becomes (t.release id) :=
    ((keptByGoing_becomes h.filed).reading {}).release
  have hsnap : s.table.Becomes (snap (settle s)).table :=
    snap_settle_of_changes hrelease (.refl h.filed)
  have hmessages : ∀ k ∈ (snap (settle s)).parse.messages, k ∈ s.parse.messages := by
    unfold snap
    split
    · exact fun k hk => (List.mem_filter.mp hk).1
    · exact fun _ => id
  have hsound : (snap (settle s)).Sound := h.balanced.sound.settle.snap
  rw [advance_eq] at hfew hm ⊢
  split at hfew
  · rename_i hnil
    rw [if_pos hnil] at hm
    exact .inl (hmessages m hm)
  · rename_i hnil
    rw [if_neg hnil] at hm ⊢
    generalize snap (settle s) = v at *
    have hdrop : s.table.Becomes (v.scanState (v.view.readable upto)).table :=
      releaseAll_of_changes hrelease hsnap _
    -- the first match may inherit the file of the last message that is kept
    have hprev : (v.scanState (v.view.readable upto)).table.Few →
        ∀ p ∈ (v.parse.messages.filter (·.start < v.parse.cursor)).getLast?.map .ofMessage,
          (v.scanState (v.view.readable upto)).table.FindsInherited p := by
      intro hfew p hp
      obtain ⟨k, hk, rfl⟩ := Option.map_eq_some_iff.mp hp
      have hold := hmessages k (List.mem_filter.mp (List.mem_of_getLast? hk)).1
      exact fun hlive => (h.finds_later hdrop hfew hold hlive).file
    obtain ⟨hb, hfound⟩ := finds_scanCandidates v.parse.settings disk hdrop.filed
      (v.view.readable upto) (v.view.readable upto).toArray v.parse.cursor 0 hprev
      (Candidate.all v.parse.settings.rules (v.view.readable upto).toArray)
    rcases List.mem_append.mp hm with hm | hm
    · exact .inl (hmessages m (List.mem_filter.mp hm).1)
    · obtain ⟨u, hu, hfinds, hb'⟩ := hfound hfew m hm
      exact .inr ⟨start_of_mem_scan hsound hm, u, hdrop.trans h.filed hu, hfinds, hb'⟩

theorem State.Known.becomes_advance (disk : Disk) (upto : Nat) :
    s.table.Becomes (advance disk upto s).2.table :=
  have hkept := (keptByGoing_becomes h.filed).reading {}
  advance_of_changes hkept.toKeptByAdding hkept.release disk trivial (fun _ _ => trivial) upto
    (fun _ _ _ _ _ ht => hkept.dropFile ht) h.balanced.sound (.refl h.filed)

theorem State.Known.advance (disk : Disk) (upto : Nat) : (advance disk upto s).2.Known :=
  h.of_sources (h.balanced.read disk upto) (h.becomes_advance disk upto) fun hfew _ hm =>
    (h.advance_cases disk upto hfew hm).elim State.source_of_mem fun hfound => .inr hfound.2

end

/-- A message with the entries that were made for it is found. -/
theorem finds_reintern {t v : FileTable} (ht : t.Filed) (disk : Disk) (rules : RuleSet) {m : Message}
    {file : FileId} {place : PlaceId} {endPlace : Option PlaceId}
    (h : Navigation.reintern disk rules t m = (.ok (file, place, endPlace), v)) :
    t.Becomes v ∧ (v.Few → v.Finds { m with file, place, endPlace }) := by
  have hb : t.Becomes v := by
    have hkept := Navigation.reintern_of_changes (D := fun _ => True) (F := fun _ => True) disk
      trivial ((keptByGoing_becomes ht).reading {}).toKeptByAdding rules trivial (fun _ _ => trivial)
      (.refl ht) m
    rw [h] at hkept
    exact hkept
  refine ⟨hb, fun hfew => ?_⟩
  have hname := bySpec?_intern ht.coherent.files disk m.location.spec .root
    (((rules.lookup m.rule).map (·.formats)).getD [])
  have h₁ := becomes_intern ht disk m.location.spec .root
    (((rules.lookup m.rule).map (·.formats)).getD [])
  rcases Navigation.reintern_cases disk rules t m with
    ⟨e, -, heq⟩ | ⟨place', u, hp, ⟨p, e, -, -, heq⟩ | ⟨endPlace', w, hend, heq⟩⟩
  · cases h.symm.trans heq
  · cases h.symm.trans heq
  · cases h.symm.trans heq
    have h₂ := becomes_placeAt h₁.filed hp
    have hspot := h₁.filed.spot_of_placeAt hp
    -- the place is in the file still once the second one is made
    obtain ⟨h₃, hspot'⟩ : u.Becomes w ∧ w.spot place = u.spot place := by
      rcases hend with ⟨-, -, rfl⟩ | ⟨p, q, -, -, hq⟩
      · exact ⟨.refl h₂.filed, rfl⟩
      · exact ⟨becomes_placeAt h₂.filed hq, (spot_placeAt h₂.filed hq hspot).trans hspot.symm⟩
    rw [hspot] at hspot'
    obtain ⟨x, hx, hxfile, -⟩ := spot_eq_some.mp hspot'
    have hlater := (h₂.trans h₁.filed h₃).trans h₁.filed
      (becomes_retain h₃.filed (t.intern disk m.location.spec .root
        (((rules.lookup m.rule).map (·.formats)).getD [])).1)
    refine ⟨?_, hspot'⟩
    rw [key_congr hb.workingDir]
    exact hlater.bySpec hfew _ _ hname (hxfile ▸ hb.filed.coherent.live_of_place hx)

theorem State.Known.jump {s : State} (h : s.Known) (disk : Disk) (start : Nat) (nav : Navigation)
    (sources : Sources) : (s.act (.jump disk start nav sources)).Known := by
  have hgoes := keptByGoing_becomes h.filed
  have hb : s.table.Becomes (s.act (.jump disk start nav sources)).table :=
    Navigation.jump_of_changes (D := fun _ => True) (F := fun _ => True) disk trivial hgoes
      trivial (s := ⟨nav, s.parse, s.table, sources⟩) (fun _ _ => trivial) (.refl h.filed) start
  refine h.of_sources (h.balanced.jump disk start nav sources) hb fun hfew m' hm' => ?_
  have hstarts := h.balanced.starts
  revert hfew hm'
  unfold State.act Navigation.jump
  dsimp only
  cases hm : s.parse.messageAtStart? start with
  | none => exact fun _ => State.source_of_mem
  | some m =>
    dsimp only
    split
    · intro _ hm'
      rw [Navigation.parse_jumpTo] at hm'
      exact State.source_of_mem hm'
    · generalize hre : Navigation.reintern disk s.parse.settings.rules s.table m = r
      obtain ⟨e | ⟨file, place, endPlace⟩, v⟩ := r
      · exact fun _ => State.source_of_mem
      · dsimp only
        intro hfew hm'
        obtain ⟨hv, hfinds⟩ := finds_reintern h.filed disk _ hre
        have hgo := Navigation.jumpTo_of_changes (D := fun _ => True) (F := fun _ => True)
          disk trivial (keptByGoing_becomes hv.filed) start file place endPlace
          (s := ⟨nav, s.parse.relocate start file place endPlace, v, sources⟩) (.refl hv.filed)
        rw [Navigation.parse_jumpTo] at hm'
        obtain ⟨k, hk, rfl⟩ := List.mem_map.mp hm'
        by_cases hks : k.start = start
        · -- it is the message that was jumped to
          obtain rfl : k = m := by
            have hfind := (find?_key Message.start hstarts).mpr ⟨hk, hks⟩
            exact Option.some.inj (hfind.symm.trans hm)
          rw [if_pos hks]
          exact .inr ⟨v, hv, hfinds (hfew.of_grows hgo.grows), hgo⟩
        · rw [if_neg hks]
          exact State.source_of_mem hk

end Parse

/-! ## 5. Sessions -/

namespace Session

theorem becomes_serve {s : Session} (h : s.parseState.Known) (r : Request) :
    s.table.Becomes (s.serve r).table :=
  serve_of_changes (D := fun _ => True) (F := fun _ => True) (keptByGoing_becomes h.filed) trivial
    (fun _ _ => trivial) h.balanced.sound (.refl h.filed) (by cases r <;> trivial)
    fun _ _ => .refl h.filed

theorem known_serve {s : Session} (h : s.parseState.Known) (r : Request) :
    (s.serve r).parseState.Known := by
  -- what is neither read nor jumped to was there before
  have hkeep : (∀ m ∈ (s.serve r).parse.messages, ∃ old ∈ s.parse.messages,
      m.reference = old.reference ∧ m.location = old.location) → (s.serve r).parseState.Known :=
    fun hm => h.of_sources (balanced_serve h.balanced r) (becomes_serve h r)
      fun _ m hmem => .inl (hm m hmem)
  have hsame : (∀ m ∈ (s.serve r).parse.messages, m ∈ s.parse.messages) →
      (s.serve r).parseState.Known := fun hm => hkeep fun m hmem => ⟨m, hm m hmem, rfl, rfl⟩
  have hedit : ∀ offset, ∀ m ∈ (s.onEdit offset).parse.messages, m ∈ s.parse.messages := by
    intro offset
    unfold onEdit Parse.flushFrom
    dsimp only
    split
    · exact fun _ => id
    · split <;> exact fun m hm => (List.mem_filter.mp hm).1
  have hstep : ∀ move disk, (s.stepWith move disk).2.parseState.Known := by
    intro move disk
    rw [parseState_stepWith]
    exact h.advance disk _
  cases r with
  | attach => exact hsame fun _ hm => absurd hm List.not_mem_nil
  | clear => exact hsame fun _ hm => absurd hm List.not_mem_nil
  | insert offset t => exact hsame (hedit offset)
  | delete span => exact hsame (hedit span.start)
  | edited offset => exact hsame (hedit offset)
  | read disk upto => exact h.advance disk upto
  | trim length =>
    refine hkeep fun m hm => ?_
    obtain ⟨old, hold, rfl⟩ := List.mem_map.mp hm
    exact ⟨old, (List.mem_filter.mp (List.mem_filter.mp hold).1).1, rfl, rfl⟩
  | nextMessage disk n => exact hstep _ disk
  | nextFile disk n => exact hstep _ disk
  | firstMessage disk => exact hstep _ disk
  | jump disk start => exact h.jump disk start s.navigation s.sources
  | nextError disk n =>
    have hnext : (s.nextMessage disk n).2.parseState.Known := hstep _ disk
    show (s.nextError disk n).2.parseState.Known
    unfold nextError
    revert hnext
    generalize s.nextMessage disk n = r
    obtain ⟨e | m, s'⟩ := r
    · exact id
    · exact fun hnext => hnext.jump disk m.start s'.navigation s'.sources
  | _ => exact hsame fun _ => id

theorem known_serveAll {s : Session} (h : s.parseState.Known) (rs : List Request) :
    (s.serveAll rs).parseState.Known := by
  induction rs generalizing s with
  | nil => exact h
  | cons r rs ih => exact ih (known_serve h r)

theorem known_start (cfg : ScanSettings) (p : Option DirectoryPattern) (workingDir : Path)
    (searchPath : List (Option Path)) (nav : NavigationSettings) (sources : Sources)
    (log : Transcript) :
    (start cfg { pattern := p } { workingDir, searchPath } nav sources log).parseState.Known :=
  ⟨balanced_start cfg p workingDir searchPath nav sources log,
    filed_empty searchPath workingDir, fun _ _ hm => absurd hm List.not_mem_nil⟩

end Session

end BuildLog
