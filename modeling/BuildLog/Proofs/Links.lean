import BuildLog.Proofs.Buffers
import BuildLog.Proofs.Going
import BuildLog.Proofs.Lasting

/-!
# Links — the marker of a place is in the buffer of its file

A file that was opened keeps its path and its buffer, and its places have their markers in this
buffer.  A marker is not used for another place, nor a number for another buffer, so whatever is
closed or dropped, what is there still belongs together.
-/

namespace BuildLog

/-! ## 1. Sources later on -/

namespace Sources

/-- Sources that `s` may become: of what was there, nothing changes its path or its buffer. -/
structure Later (s u : Sources) : Prop where
  nextBuffer : s.nextBuffer ≤ u.nextBuffer
  nextMarker : s.nextMarker ≤ u.nextMarker
  buffer : ∀ b buffer, b.number < s.nextBuffer → u.buffer? b = some buffer →
    ∃ old, s.buffer? b = some old ∧ old.path = buffer.path
  marker : ∀ k m, k.number < s.nextMarker → (k, m) ∈ u.markers →
    ∃ old, (k, old) ∈ s.markers ∧ old.buffer = m.buffer

theorem Later.refl (s : Sources) : s.Later s :=
  ⟨Nat.le_refl _, Nat.le_refl _, fun _ buffer _ hb => ⟨buffer, hb, rfl⟩, fun _ m _ hm => ⟨m, hm, rfl⟩⟩

theorem Later.trans {s u v : Sources} (h : s.Later u) (h' : u.Later v) : s.Later v := by
  refine ⟨Nat.le_trans h.nextBuffer h'.nextBuffer, Nat.le_trans h.nextMarker h'.nextMarker,
    fun b buffer hlt hb => ?_, fun k m hlt hm => ?_⟩
  · obtain ⟨mid, hmid, hpath⟩ := h'.buffer b buffer (Nat.lt_of_lt_of_le hlt h.nextBuffer) hb
    obtain ⟨old, hold, hpath'⟩ := h.buffer b mid hlt hmid
    exact ⟨old, hold, hpath'.trans hpath⟩
  · obtain ⟨mid, hmid, hbuffer⟩ := h'.marker k m (Nat.lt_of_lt_of_le hlt h.nextMarker) hm
    obtain ⟨old, hold, hbuffer'⟩ := h.marker k mid hlt hmid
    exact ⟨old, hold, hbuffer'.trans hbuffer⟩

theorem later_consult (s : Sources) (guide : Option Guide) : s.Later { s with guide } :=
  ⟨Nat.le_refl _, Nat.le_refl _, fun _ buffer _ hb => ⟨buffer, hb, rfl⟩, fun _ m _ hm => ⟨m, hm, rfl⟩⟩

theorem later_close (s : Sources) (b : BufferId) : s.Later (s.close b) := by
  refine ⟨Nat.le_refl _, Nat.le_refl _, fun c buffer _ hc => ?_, fun k m _ hm => ?_⟩
  · rw [buffer?_close] at hc
    split at hc
    · cases hc
    · exact ⟨buffer, hc, rfl⟩
  · exact ⟨m, (List.mem_filter.mp hm).1, rfl⟩

theorem later_edit (s : Sources) (b : BufferId) (text : Text) (move : Nat → Nat) :
    s.Later (s.edit b text move) := by
  refine ⟨Nat.le_refl _, Nat.le_refl _, fun c buffer _ hc => ?_, fun k m _ hm => ?_⟩
  · rw [buffer?_edit] at hc
    obtain ⟨old, hold, rfl⟩ := Option.map_eq_some_iff.mp hc
    refine ⟨old, hold, ?_⟩
    split <;> rfl
  · obtain ⟨⟨k', m'⟩, hmem, heq⟩ := List.mem_map.mp hm
    dsimp only at heq
    split at heq
    · cases heq
      exact ⟨m', hmem, rfl⟩
    · cases heq
      exact ⟨m, hmem, rfl⟩

theorem later_addMarker (s : Sources) (b : BufferId) (position : Nat) :
    s.Later (s.addMarker b position).2 := by
  refine ⟨Nat.le_refl _, Nat.le_succ _, fun _ buffer _ hb => ⟨buffer, hb, rfl⟩, fun k m hlt hm => ?_⟩
  rcases List.mem_cons.mp hm with heq | hm
  · cases heq
    exact absurd hlt (Nat.lt_irrefl _)
  · exact ⟨m, hm, rfl⟩

section

variable {s : Sources} (h : s.Orderly)
include h

theorem Orderly.later_openText (p : Path) (t : Text) : s.Later (s.openText p t).2 := by
  have hwithout : s.Later (s.without p) := without_of_close (.refl s) s.later_close p
  refine hwithout.trans ⟨Nat.le_succ _, Nat.le_refl _, fun b buffer hlt hb => ?_,
    fun k m _ hm => ⟨m, hm, rfl⟩⟩
  rw [h.buffer?_openText, if_neg] at hb
  · exact ⟨buffer, hb, rfl⟩
  · rintro rfl
    exact Nat.lt_irrefl _ hlt

theorem Orderly.later_openFile (disk : Disk) (p : Path) : s.Later (s.openFile disk p).2 :=
  openFile_of_openText (.refl s) (h.later_openText p) disk

theorem Orderly.later_change (c : Change) : s.Later (s.change c) :=
  change_of_steps (.refl s) h.later_openText s.later_close
    (fun b _ text move _ _ => s.later_edit b text move) s.later_consult c

end

theorem later_ask (s : Sources) (filename : String) (p : Path) : s.Later (s.ask filename p).2 := by
  unfold ask
  split
  · exact .refl s
  · exact s.later_consult _

end Sources

namespace FileTable

/-! ## 2. Linked tables -/

/-- The buffer of a file is open at the path of the file, and the markers of its places are in this
buffer, as long as they are there. -/
structure Linked (t : FileTable) (s : Sources) : Prop where
  buffer : ∀ id f b, t.file? id = some f → f.buffer = some b → b.number < s.nextBuffer
    ∧ ∀ buffer, s.buffer? b = some buffer → buffer.path.same f.path
  marker : ∀ q p k, t.place? q = some p → p.marker = some k → k.number < s.nextMarker
    ∧ ∀ m, (k, m) ∈ s.markers → ∃ f, t.file? p.file = some f ∧ f.buffer = some m.buffer

/-- The markers of the places are in open buffers, as long as they are there. -/
def Moored (t : FileTable) (s : Sources) : Prop :=
  ∀ q p k, t.place? q = some p → p.marker = some k → s.Moored k

theorem linked_empty (searchPath : List (Option Path)) (workingDir : Path) (s : Sources) :
    Linked { searchPath, workingDir } s := ⟨nofun, nofun⟩

section

variable {t u : FileTable} {s s' : Sources} (h : t.Linked s)
include h

theorem Linked.of_later (hl : s.Later s') : t.Linked s' := by
  refine ⟨fun id f b hf hb => ?_, fun q p k hp hk => ?_⟩
  · obtain ⟨hlt, hopen⟩ := h.buffer id f b hf hb
    refine ⟨Nat.lt_of_lt_of_le hlt hl.nextBuffer, fun buffer hbuffer => ?_⟩
    obtain ⟨old, hold, hpath⟩ := hl.buffer b buffer hlt hbuffer
    rw [← hpath]
    exact hopen old hold
  · obtain ⟨hlt, hin⟩ := h.marker q p k hp hk
    refine ⟨Nat.lt_of_lt_of_le hlt hl.nextMarker, fun m hm => ?_⟩
    obtain ⟨old, hold, hbuffer⟩ := hl.marker k m hlt hm
    rw [← hbuffer]
    exact hin old hold

end

/-- A table that `t` may become while no file is opened and no place is given a marker. -/
structure Unopened (t u : FileTable) : Prop where
  coherent : u.Coherent
  file : ∀ id g, u.file? id = some g →
    (∃ f, t.file? id = some f ∧ g.buffer = f.buffer ∧ g.path = f.path)
      ∨ (t.file? id = none ∧ g.buffer = none)
  place : ∀ q x, u.place? q = some x →
    (∃ p, t.place? q = some p ∧ x.marker = p.marker ∧ x.file = p.file) ∨ x.marker = none

section

variable {t u : FileTable} {s : Sources}

theorem Linked.of_unopened (h : t.Linked s) (hu : t.Unopened u) : u.Linked s := by
  refine ⟨fun id g b hg hb => ?_, fun q x k hx hk => ?_⟩
  · rcases hu.file id g hg with ⟨f, hf, hbuffer, hpath⟩ | ⟨-, hnone⟩
    · rw [hpath]
      exact h.buffer id f b hf (hbuffer.symm.trans hb)
    · rw [hnone] at hb
      cases hb
  · rcases hu.place q x hx with ⟨p, hp, hmarker, hpfile⟩ | hnone
    · -- the marker was there before, and so was the file, in the buffer of the marker
      obtain ⟨hlt, hin⟩ := h.marker q p k hp (hmarker.symm.trans hk)
      refine ⟨hlt, fun m hm => ?_⟩
      obtain ⟨f, hf, hbuffer⟩ := hin m hm
      obtain ⟨g, hg, -⟩ := hu.coherent.owned q x hx
      refine ⟨g, hg, ?_⟩
      rcases hu.file _ g hg with ⟨f', hf', hsame, -⟩ | ⟨hgone, -⟩
      · rw [hpfile, hf] at hf'
        cases hf'
        exact hsame.trans hbuffer
      · rw [hpfile, hf] at hgone
        cases hgone
    · rw [hnone] at hk
      cases hk

theorem Moored.of_unopened (h : t.Moored s) (hu : t.Unopened u) : u.Moored s := by
  intro q x k hx hk
  rcases hu.place q x hx with ⟨p, hp, hmarker, -⟩ | hnone
  · exact h q p k hp (hmarker.symm.trans hk)
  · rw [hnone] at hk
    cases hk

end

section

variable {t u : FileTable} (ht : t.Coherent)
include ht

theorem Coherent.unopened_modify (id : FileId) {g : FileEntry → FileEntry}
    (hplaces : ∀ f, (g f).places = f.places) (hbuffer : ∀ f, (g f).buffer = f.buffer)
    (hpath : ∀ f, (g f).path = f.path) :
    t.Unopened { t with files := t.files.modify id.handle g } := by
  refine ⟨Accounts.coherent_modify ht id hplaces, fun k f hf => ?_,
    fun q x hx => .inl ⟨x, hx, rfl, rfl⟩⟩
  rw [Accounts.file?_modify] at hf
  split at hf
  · obtain ⟨f', hf', rfl⟩ := Option.map_eq_some_iff.mp hf
    exact .inl ⟨f', hf', hbuffer f', hpath f'⟩
  · exact .inl ⟨f, hf, rfl, rfl⟩

theorem Coherent.unopened_intern (disk : Disk) (spec : FileSpec) (stack : DirectoryStack)
    (formats : List String) : t.Unopened (t.intern disk spec stack formats).2 := by
  refine ⟨(ht.intern disk spec stack formats).coherent, fun id g hg => ?_, fun q x hx => ?_⟩
  · rcases file?_intern ht.files disk spec stack formats hg with hg | ⟨hnone, rfl⟩
    · exact .inl ⟨g, hg, rfl, rfl⟩
    · exact .inr ⟨hnone, rfl⟩
  · rw [place?, places_intern] at hx
    exact .inl ⟨x, hx, rfl, rfl⟩

theorem Coherent.unopened_placeAt {file : FileId} {p : Position} {q : PlaceId}
    (hplace : t.placeAt file p = .ok (q, u)) : t.Unopened u := by
  refine ⟨(ht.placeAt hplace).1.coherent, fun id g hg => .inl ?_, fun r x hx => ?_⟩
  · obtain ⟨f, -, ⟨-, rfl⟩ | ⟨-, -, rfl⟩⟩ := placeAt_eq_ok hplace
    · exact ⟨g, hg, rfl, rfl⟩
    · change (t.files.modify _ _).get? _ = _ at hg
      rw [Slots.get?_modify] at hg
      split at hg
      · obtain ⟨f, hf, rfl⟩ := Option.map_eq_some_iff.mp hg
        exact ⟨f, hf, rfl, rfl⟩
      · exact ⟨g, hg, rfl, rfl⟩
  · rcases ht.place?_placeAt hplace r with heq | ⟨-, -, hnew⟩
    · exact .inl ⟨x, heq ▸ hx, rfl, rfl⟩
    · rw [hnew] at hx
      cases hx
      exact .inr rfl

theorem Coherent.unopened_dropFile (k : FileId) : t.Unopened (t.dropFile k).2 := by
  refine ⟨(ht.dropFile k).1, fun id g hg => .inl ?_, fun q x hx => .inl ?_⟩
  · rw [file?_dropFile] at hg
    split at hg
    · cases hg
    · exact ⟨g, hg, rfl, rfl⟩
  · rw [ht.place?_dropFile, Option.filter_eq_some_iff] at hx
    exact ⟨x, hx.1, rfl, rfl⟩

theorem Coherent.unopened_markVisited {q : PlaceId} (hvisit : t.markVisited q = .ok u) :
    t.Unopened u := by
  refine ⟨(ht.markVisited hvisit).coherent, fun id g hg => .inl ⟨g, ?_, rfl, rfl⟩,
    fun r x hx => .inl ?_⟩
  · rw [markVisited_eq_ok hvisit] at hg
    exact hg
  · rw [place?_markVisited hvisit] at hx
    split at hx
    · obtain ⟨p, hp, rfl⟩ := Option.map_eq_some_iff.mp hx
      exact ⟨p, hp, rfl, rfl⟩
    · exact ⟨x, hx, rfl, rfl⟩

theorem Coherent.unopened_clear : t.Unopened t.clear := by
  refine ⟨ht.clear, fun id g hg => ?_, fun q x hx => ?_⟩
  · rw [file?_clear] at hg
    cases hg
  · rw [place?_clear] at hx
    cases hx

end

/-! ## 3. Going to a place -/

section

variable {t : FileTable} {s : Sources} (h : t.Linked s)
include h

/-- A file that is not open is opened in a buffer at its path. -/
theorem Linked.setBuffer (hs : s.Orderly) (hmoored : t.Moored s) {id : FileId} {f : FileEntry} (hf : t.file? id = some f)
    (hclosed : f.buffer.filter s.isOpen = none) {b : BufferId} {buffer : SourceBuffer} {p : Path}
    (hb : s.buffer? b = some buffer) (hpath : buffer.path.same p) : (t.setBuffer id f b p).Linked s := by
  have hfile : ∀ k, (t.setBuffer id f b p).file? k = if k = id
      then (t.file? k).map fun f => { f with path := p, found := true, buffer := some b }
      else t.file? k := Accounts.file?_modify t id _
  refine ⟨fun k g c hg hc => ?_, fun q x k hx hk => ?_⟩
  · rw [hfile] at hg
    split at hg
    · obtain ⟨g', -, rfl⟩ := Option.map_eq_some_iff.mp hg
      cases hc
      refine ⟨hs.number_lt hb, fun buffer' hb' => ?_⟩
      rw [hb] at hb'
      cases hb'
      exact hpath
    · exact h.buffer k g c hg hc
  · obtain ⟨hlt, hin⟩ := h.marker q x k hx hk
    refine ⟨hlt, fun m hm => ?_⟩
    obtain ⟨g, hg, hbuffer⟩ := hin m hm
    refine ⟨g, ?_, hbuffer⟩
    rw [hfile, if_neg]
    · exact hg
    · -- a marker that is there is in an open buffer, and that of this file is closed
      intro hid
      rw [hid, hf] at hg
      cases hg
      rw [hbuffer, Option.filter_some, if_pos (hmoored q x k hx hk m hm)] at hclosed
      cases hclosed

/-- A place is given a marker in the buffer of its file. -/
theorem Linked.mark (hs : s.Orderly) {q : PlaceId} {p : Place} {g : FileEntry} {b : BufferId}
    (hp : t.place? q = some p) (hg : t.file? p.file = some g) (hb : g.buffer = some b) (offset : Nat) :
    (t.mark q (s.addMarker b offset).1).Linked (s.addMarker b offset).2 := by
  have hlater := h.of_later (s.later_addMarker b offset)
  refine ⟨hlater.buffer, fun r x k hx hk => ?_⟩
  rw [place?_mark] at hx
  split at hx
  · rename_i hr
    rw [hr, hp] at hx
    cases hx
    cases hk
    refine ⟨Nat.lt_succ_self _, fun m hm => ⟨g, hg, ?_⟩⟩
    -- the number of the marker is new, so no other marker has it
    rcases List.mem_cons.mp hm with heq | hm
    · cases heq
      exact hb
    · exact absurd (hs.markers _ hm) (Nat.lt_irrefl _)
  · exact hlater.marker r x k hx hk

end

/-- The buffer that a file had, if it is closed, is not opened again. -/
theorem Linked.closed_of_later {t : FileTable} {s s' : Sources} (h : t.Linked s) (hl : s.Later s')
    {id : FileId} {f : FileEntry} (hf : t.file? id = some f)
    (hclosed : f.buffer.filter s.isOpen = none) : f.buffer.filter s'.isOpen = none := by
  rw [Option.filter_eq_none_iff] at hclosed ⊢
  intro c hc hopen
  obtain ⟨old, hold⟩ := Option.isSome_iff_exists.mp hopen
  obtain ⟨first, hfirst, -⟩ := hl.buffer c old (h.buffer id f c hf hc).1 hold
  exact hclosed c hc (Sources.isOpen_of_buffer hfirst)

/-! ## 4. Tables and sources that are used together -/

/-- The places of a table have their markers in sources that are its own. -/
structure Joined (t : FileTable) (s : Sources) : Prop where
  coherent : t.Coherent
  orderly : s.Orderly
  moored : t.Moored s
  linked : t.Linked s

theorem joined_empty (searchPath : List (Option Path)) (workingDir : Path) (tabWidth : Nat)
    (guide : Option Guide) : Joined { searchPath, workingDir } { tabWidth, guide } :=
  ⟨coherent_empty searchPath workingDir, Sources.orderly_empty tabWidth guide, nofun,
    linked_empty searchPath workingDir _⟩

section

variable {t u : FileTable} {s : Sources} (h : t.Joined s)
include h

theorem Joined.of_unopened (hu : t.Unopened u) : u.Joined s :=
  ⟨hu.coherent, h.orderly, h.moored.of_unopened hu, h.linked.of_unopened hu⟩

theorem Joined.dropFile (k : FileId) : (t.dropFile k).2.Joined s :=
  h.of_unopened (h.coherent.unopened_dropFile k)

theorem Joined.change (c : Sources.Change) : t.Joined (s.change c) :=
  ⟨h.coherent, h.orderly.change c,
    fun q p k hp hk => (h.moored q p k hp hk).change h.orderly c,
    h.linked.of_later (h.orderly.later_change c)⟩

theorem Joined.ask (filename : String) (p : Path) : t.Joined (s.ask filename p).2 :=
  ⟨h.coherent, h.orderly.ask filename p, fun q x k hx hk => (h.moored q x k hx hk).ask filename p,
    h.linked.of_later (s.later_ask filename p)⟩

/-- A marker that is put anywhere by someone else is none of a place. -/
theorem Joined.addMarker (b : BufferId) (offset : Nat) : t.Joined (s.addMarker b offset).2 :=
  ⟨h.coherent, h.orderly.addMarker b offset,
    fun q p k hp hk => (h.moored q p k hp hk).addMarker (h.linked.marker q p k hp hk).1 b offset,
    h.linked.of_later (s.later_addMarker b offset)⟩

theorem Joined.setBuffer {id : FileId} {f : FileEntry} (hf : t.file? id = some f)
    (hclosed : f.buffer.filter s.isOpen = none) {b : BufferId} {buffer : SourceBuffer} {p : Path}
    (hb : s.buffer? b = some buffer) (hpath : buffer.path.same p) :
    (t.setBuffer id f b p).Joined s := by
  have hmod := h.coherent.modifyFile id (g := fun f =>
    { f with path := p, found := true, buffer := some b }) (fun _ => rfl) fun _ => rfl
  exact ⟨(hmod.of_files_places (v := t.setBuffer id f b p) rfl rfl).coherent, h.orderly, h.moored,
    h.linked.setBuffer h.orderly h.moored hf hclosed hb hpath⟩

theorem Joined.mark {q : PlaceId} {p : Place} {g : FileEntry} {b : BufferId}
    (hp : t.place? q = some p) (hg : t.file? p.file = some g) (hb : g.buffer = some b)
    (hopen : s.isOpen b) (offset : Nat) :
    (t.mark q (s.addMarker b offset).1).Joined (s.addMarker b offset).2 := by
  have hmod := h.coherent.modifyPlace q
    (g := fun p => { p with marker := some (s.addMarker b offset).1 }) fun _ => rfl
  refine ⟨hmod.coherent, h.orderly.addMarker b offset,
    fun r x k hx hk => ?_, h.linked.mark h.orderly hp hg hb offset⟩
  rw [place?_mark] at hx
  split at hx
  · obtain ⟨x', -, rfl⟩ := Option.map_eq_some_iff.mp hx
    cases hk
    exact h.orderly.moored_addMarker hopen offset
  · exact (h.addMarker b offset).moored r x k hx hk

/-- A file is opened in sources in which nothing else was done. -/
theorem Joined.openOrAsk (disk : Disk) (filename : String) (p : Path) :
    let r := t.openOrAsk disk s filename p
    t.Joined r.2 ∧ s.Later r.2 ∧ ∀ b path, r.1 = some (b, path) →
      ∃ buffer, r.2.buffer? b = some buffer ∧ buffer.path.same path := by
  obtain ⟨⟨hjoined, hlater⟩, hopened⟩ := t.openOrAsk_of_steps disk
    (J := fun s' => t.Joined s' ∧ s.Later s')
    (fun s' p hJ => ⟨hJ.1.change (.openFile disk p),
      hJ.2.trans (hJ.1.orderly.later_openFile disk p)⟩)
    (fun s' name p hJ => ⟨hJ.1.ask name p, hJ.2.trans (s'.later_ask name p)⟩) ⟨h, .refl s⟩
    filename p
  refine ⟨hjoined, hlater, fun b path heq => ?_⟩
  obtain ⟨s', ⟨hjoined', -⟩, hopen⟩ := hopened b path heq
  exact hjoined'.orderly.buffer?_openFile hopen

theorem Joined.openClosed (disk : Disk) {id : FileId} {f : FileEntry} (hf : t.file? id = some f)
    (hclosed : f.buffer.filter s.isOpen = none) :
    let r := t.openOrAsk disk s f.spec.filename (t.lookedFor disk f)
    (r.1 = none → t.Joined r.2) ∧ ∀ b p, r.1 = some (b, p) → (t.setBuffer id f b p).Joined r.2 := by
  obtain ⟨hjoined, hlater, hopened⟩ := h.openOrAsk disk f.spec.filename (t.lookedFor disk f)
  refine ⟨fun _ => hjoined, fun b p heq => ?_⟩
  obtain ⟨buffer, hb, hpath⟩ := hopened b p heq
  exact hjoined.setBuffer hf (h.linked.closed_of_later hlater hf hclosed) hb hpath

theorem Joined.locate (disk : Disk) (q : PlaceId) (screen : Bool) :
    (t.locate disk s q screen).2.1.Joined (t.locate disk s q screen).2.2 :=
  h.coherent.locate_of_steps (I := Joined) q screen (fun _ _ => h.openClosed disk)
    (fun _ _ _ _ offset hp hg hgb _ hoffset hI =>
      hI.mark hp hg hgb (Sources.isOpen_of_offset? hoffset) offset) h

end

end FileTable

end BuildLog
