import BuildLog.Proofs.Links

/-!
# Locating — a place is gone to with all of its file, or nothing is done

When a place is gone to whose marker is not there, the file of the place is opened, and all places in
it that have no marker are given one.  Markers that are there stay, and so does all that belongs to
other files.  If the place cannot be found, then nothing has changed but what was asked.
-/

namespace BuildLog

/-! ## 1. Sources in which more is opened and marked -/

namespace Sources

/-- Sources that `s` may become while nothing of it is closed or edited. -/
structure Keeps (s v : Sources) : Prop where
  buffer : ∀ b buffer, s.buffer? b = some buffer → v.buffer? b = some buffer
  marker : ∀ k m, s.markers.lookup k = some m → v.markers.lookup k = some m
  nextMarker : s.nextMarker ≤ v.nextMarker
  /-- Markers that are new have new numbers. -/
  old : ∀ k m, k.number < s.nextMarker → v.markers.lookup k = some m → s.markers.lookup k = some m

section

variable {s v w : Sources}

theorem Keeps.refl (s : Sources) : s.Keeps s :=
  ⟨fun _ _ h => h, fun _ _ h => h, Nat.le_refl _, fun _ _ _ h => h⟩

theorem Keeps.trans (h : s.Keeps v) (h' : v.Keeps w) : s.Keeps w :=
  ⟨fun b buffer hb => h'.buffer b buffer (h.buffer b buffer hb),
    fun k m hk => h'.marker k m (h.marker k m hk), Nat.le_trans h.nextMarker h'.nextMarker,
    fun k m hlt hk => h.old k m hlt (h'.old k m (Nat.lt_of_lt_of_le hlt h.nextMarker) hk)⟩

theorem Keeps.isOpen (h : s.Keeps v) {b : BufferId} (hb : s.isOpen b) : v.isOpen b := by
  obtain ⟨buffer, hbuffer⟩ := Option.isSome_iff_exists.mp hb
  exact isOpen_of_buffer (h.buffer b buffer hbuffer)

theorem Keeps.position (h : s.Keeps v) {k : MarkerId} {n : Nat} (hk : s.position? k = some n) :
    v.position? k = some n := by
  obtain ⟨b, hlookup, hopen⟩ := position?_eq_some_iff.mp hk
  exact position?_eq_some_iff.mpr ⟨b, h.marker k _ hlookup, h.isOpen hopen⟩

theorem keeps_ask (s : Sources) (filename : String) (p : Path) : s.Keeps (s.ask filename p).2 := by
  unfold ask
  split
  · exact .refl s
  · exact ⟨fun _ _ h => h, fun _ _ h => h, Nat.le_refl _, fun _ _ _ h => h⟩

theorem Orderly.keeps_openFile (h : s.Orderly) (disk : Disk) (p : Path) :
    s.Keeps (s.openFile disk p).2 := by
  rcases s.openFile_cases disk p with ⟨b, -, heq⟩ | ⟨t, hwithout, heq⟩ | heq
  · rw [heq]
    exact .refl s
  · -- no buffer was open for the path, so none is closed
    have hmarkers : (s.openText p t).2.markers = s.markers := by
      show (s.without p).markers = s.markers
      rw [hwithout]
    have hnext : (s.openText p t).2.nextMarker = s.nextMarker := by
      show (s.without p).nextMarker = s.nextMarker
      rw [hwithout]
    rw [heq]
    refine ⟨fun b buffer hb => ?_, fun k m hk => ?_, Nat.le_of_eq hnext.symm, fun k m _ hk => ?_⟩
    · rw [← hwithout] at hb
      exact h.buffer?_openText_of_some t hb
    · rw [hmarkers]
      exact hk
    · rw [← hmarkers]
      exact hk
  · rw [heq]
    exact .refl s

theorem Orderly.keeps_addMarker (h : s.Orderly) (b : BufferId) (offset : Nat) :
    s.Keeps (s.addMarker b offset).2 := by
  have hlookup : ∀ k : MarkerId, k.number < s.nextMarker →
      (s.addMarker b offset).2.markers.lookup k = s.markers.lookup k := by
    intro k hlt
    show ((_, _) :: s.markers).lookup k = _
    rw [List.lookup_cons, beq_eq_false_iff_ne.mpr]
    rintro rfl
    exact Nat.lt_irrefl _ hlt
  refine ⟨fun _ _ hb => hb, fun k m hk => ?_, Nat.le_succ _, fun k m hlt hk => ?_⟩
  · rw [hlookup k (h.markers _ (FileTable.mem_of_lookup hk))]
    exact hk
  · rw [← hlookup k hlt]
    exact hk

end

end Sources

namespace FileTable

/-! ## 2. Live markers -/

/-- The marker of a place, if it is there and its buffer is open. -/
def liveMarker? (t : FileTable) (s : Sources) (q : PlaceId) : Option (MarkerId × Marker) := do
  let p ← t.place? q
  let k ← p.marker
  let m ← s.markers.lookup k
  if s.isOpen m.buffer then some (k, m) else none

section

variable {t : FileTable} {s : Sources} {q : PlaceId}

theorem liveMarker?_eq_some {k : MarkerId} {m : Marker} : t.liveMarker? s q = some (k, m)
    ↔ ∃ p, t.place? q = some p ∧ p.marker = some k ∧ s.markers.lookup k = some m
      ∧ s.isOpen m.buffer := by
  unfold liveMarker?
  simp only [Option.bind_eq_bind, Option.bind_eq_some_iff, Option.ite_none_right_eq_some]
  constructor
  · rintro ⟨p, hp, k', hk, m', hm, hopen, heq⟩
    cases heq
    exact ⟨p, hp, hk, hm, hopen⟩
  · rintro ⟨p, hp, hk, hm, hopen⟩
    exact ⟨p, hp, k, hk, m, hm, hopen, rfl⟩

/-- A place has a live marker just if its marker has a position. -/
theorem position_eq_some_iff {p : Place} (hp : t.place? q = some p) {n : Nat} :
    p.marker.bind s.position? = some n ↔ ∃ k b, t.liveMarker? s q = some (k, ⟨b, n⟩) := by
  simp only [Option.bind_eq_some_iff, Sources.position?_eq_some_iff, liveMarker?_eq_some]
  constructor
  · rintro ⟨k, hk, b, hlookup, hopen⟩
    exact ⟨k, b, p, hp, hk, hlookup, hopen⟩
  · rintro ⟨k, b, p', hp', hk, hlookup, hopen⟩
    rw [hp] at hp'
    cases hp'
    exact ⟨k, hk, b, hlookup, hopen⟩

theorem position_eq_none_iff {p : Place} (hp : t.place? q = some p) :
    p.marker.bind s.position? = none ↔ t.liveMarker? s q = none := by
  rw [Option.eq_none_iff_forall_ne_some, Option.eq_none_iff_forall_ne_some]
  constructor
  · rintro h ⟨k, b, n⟩ hlive
    exact h n ((position_eq_some_iff hp).mpr ⟨k, b, hlive⟩)
  · intro h n hn
    obtain ⟨k, b, hlive⟩ := (position_eq_some_iff hp).mp hn
    exact h _ hlive

/-- A live marker is in the buffer of the file of its place. -/
theorem Linked.buffer_of_live (h : t.Linked s) {k : MarkerId} {m : Marker}
    (hlive : t.liveMarker? s q = some (k, m)) {file : FileId}
    (hfile : (t.place? q).map (·.file) = some file) :
    ∃ f, t.file? file = some f ∧ f.buffer = some m.buffer := by
  obtain ⟨p, hp, hk, hlookup, -⟩ := liveMarker?_eq_some.mp hlive
  rw [hp, Option.map_some, Option.some.injEq] at hfile
  rw [← hfile]
  exact (h.marker q p k hp hk).2 m (mem_of_lookup hlookup)

end

/-! ## 3. What is spared -/

/-- What going to a place of one file spares: all that belongs to other files, and in the file all but
where it is and the markers that are not there. -/
structure Spares (id : FileId) (t : FileTable) (s : Sources) (u : FileTable) (v : Sources) :
    Prop where
  sources : s.Keeps v
  file : ∀ k, k ≠ id → u.file? k = t.file? k
  entry : (u.file? id).map (fun g => (g.spec, g.formats, g.places, g.refs))
    = (t.file? id).map fun f => (f.spec, f.formats, f.places, f.refs)
  place : ∀ r, u.place? r = t.place? r ∨ ∃ p k, t.place? r = some p ∧ p.file = id
    ∧ t.liveMarker? s r = none ∧ u.place? r = some { p with marker := some k }

section

variable {id : FileId} {t u w : FileTable} {s v x : Sources}

theorem Spares.of_sources (h : s.Keeps v) : Spares id t s t v :=
  ⟨h, fun _ _ => rfl, rfl, fun _ => .inl rfl⟩

theorem Spares.live (h : Spares id t s u v) {r : PlaceId} {k : MarkerId} {m : Marker}
    (hlive : t.liveMarker? s r = some (k, m)) : u.liveMarker? v r = some (k, m) := by
  obtain ⟨p, hp, hk, hlookup, hopen⟩ := liveMarker?_eq_some.mp hlive
  rcases h.place r with heq | ⟨-, -, -, -, hnone, -⟩
  · exact liveMarker?_eq_some.mpr
      ⟨p, heq.trans hp, hk, h.sources.marker k m hlookup, h.sources.isOpen hopen⟩
  · rw [hlive] at hnone
    cases hnone

/-- Of a place, at most the marker changes. -/
theorem Spares.map_place (h : Spares id t s u v) {α : Type} {g : Place → α}
    (hg : ∀ p k, g { p with marker := k } = g p) (r : PlaceId) :
    (u.place? r).map g = (t.place? r).map g := by
  rcases h.place r with heq | ⟨p, k, hp, -, -, hmarked⟩
  · rw [heq]
  · rw [hmarked, hp, Option.map_some, Option.map_some, hg]

theorem Spares.trans (h : Spares id t s u v) (h' : Spares id u v w x) : Spares id t s w x := by
  refine ⟨h.sources.trans h'.sources, fun k hk => (h'.file k hk).trans (h.file k hk),
    h'.entry.trans h.entry, fun r => ?_⟩
  rcases h.place r with heq | ⟨p, k, hp, hfile, hnone, hmarked⟩
  · rcases h'.place r with heq' | ⟨p, k, hp, hfile, hnone, hmarked⟩
    · exact .inl (heq'.trans heq)
    · -- a marker that was live at first would be live still
      refine .inr ⟨p, k, heq ▸ hp, hfile, ?_, hmarked⟩
      rw [Option.eq_none_iff_forall_ne_some]
      rintro ⟨k', m⟩ hlive
      rw [h.live hlive] at hnone
      cases hnone
  · rcases h'.place r with heq' | ⟨p', k', hp', -, -, hmarked'⟩
    · exact .inr ⟨p, k, hp, hfile, hnone, heq'.trans hmarked⟩
    · rw [hmarked] at hp'
      cases hp'
      exact .inr ⟨p, k', hp, hfile, hnone, hmarked'⟩

theorem Spares.setBuffer (h : s.Keeps v) (f : FileEntry) (b : BufferId) (p : Path) :
    Spares id t s (t.setBuffer id f b p) v := by
  have hfile : ∀ k, (t.setBuffer id f b p).file? k = if k = id
      then (t.file? k).map fun f => { f with path := p, found := true, buffer := some b }
      else t.file? k := Accounts.file?_modify t id _
  refine ⟨h, fun k hk => (hfile k).trans (if_neg hk), ?_, fun _ => .inl rfl⟩
  rw [hfile, if_pos rfl, Option.map_map]
  rfl

theorem Spares.mark (h : s.Orderly) {q : PlaceId} {p : Place} (hp : t.place? q = some p)
    (hfile : p.file = id) (hnone : p.marker.bind s.position? = none) (b : BufferId)
    (offset : Nat) :
    Spares id t s (t.mark q (s.addMarker b offset).1) (s.addMarker b offset).2 := by
  refine ⟨h.keeps_addMarker b offset, fun _ _ => rfl, rfl, fun r => ?_⟩
  rw [place?_mark]
  split
  · rename_i hr
    rw [hr, hp]
    exact .inr ⟨p, _, rfl, hfile, (position_eq_none_iff hp).mp hnone, rfl⟩
  · exact .inl rfl

end

/-! ## 4. Going to a place -/

/-- If nothing is opened, nothing has changed but what was asked. -/
theorem openOrAsk_eq_none {t : FileTable} {disk : Disk} {s v : Sources} {filename : String}
    {p : Path} (h : t.openOrAsk disk s filename p = (none, v)) : v = { s with guide := v.guide } := by
  have hclosed : ∀ {s v : Sources} {p}, s.openFile disk p = (none, v) → v = s := by
    intro s v p hopen
    rcases s.openFile_cases disk p with ⟨b, -, heq⟩ | ⟨t, -, heq⟩ | heq
    · rw [heq] at hopen
      cases hopen
    · rw [heq] at hopen
      cases hopen
    · rw [heq] at hopen
      cases hopen
      rfl
  have hask : ∀ {s v : Sources} {o}, s.ask filename p = (o, v) →
      v = { s with guide := v.guide } := by
    intro s v o hanswer
    unfold Sources.ask at hanswer
    split at hanswer
    · cases hanswer
      rfl
    · cases hanswer
      rfl
  unfold openOrAsk at h
  split at h
  · cases h
  · rename_i s₁ hfirst
    obtain rfl := hclosed hfirst
    split at h
    · rename_i hanswer
      cases h
      exact hask hanswer
    · rename_i hanswer
      dsimp only at h
      split at h
      · cases h
      · rename_i hsecond
        cases h
        rw [hclosed hsecond]
        exact hask hanswer

theorem openBuffer_of_closed {t : FileTable} {disk : Disk} {s : Sources} {id : FileId}
    {f : FileEntry} (hf : t.file? id = some f) (hclosed : f.buffer.filter s.isOpen = none) :
    t.openBuffer disk s id
      = match t.openOrAsk disk s f.spec.filename (t.lookedFor disk f) with
        | (some (b, opened), v) => (.ok b, t.setBuffer id f b opened, v)
        | (none, v) => (.error (.unresolved f.spec.filename (t.lookedFor disk f)), t, v) := by
  unfold openBuffer
  rw [hf]
  dsimp only
  rw [hclosed]
  rfl

theorem placeMarker_of_dead {t : FileTable} {s : Sources} {b : BufferId} {screen : Bool}
    {q : PlaceId} {p : Place} {offset : Nat} (hp : t.place? q = some p)
    (hnone : p.marker.bind s.position? = none)
    (hoffset : s.offset? b (p.position.line.getD 1) p.position.column screen = some offset) :
    placeMarker b screen (t, s) q
      = (t.mark q (s.addMarker b offset).1, (s.addMarker b offset).2) := by
  unfold placeMarker
  dsimp only
  rw [hp]
  dsimp only
  rw [hnone, hoffset]
  rfl

section

variable {t : FileTable} {s : Sources} (h : t.Joined s)
include h

/-- A file that is there is opened, or nothing has changed but what was asked. -/
theorem Joined.openBuffer {id : FileId} {f : FileEntry} (hf : t.file? id = some f) (disk : Disk) :
    (∃ e v, t.openBuffer disk s id = (.error e, t, v) ∧ v = { s with guide := v.guide })
      ∨ ∃ b u v g, t.openBuffer disk s id = (.ok b, u, v) ∧ u.Joined v ∧ Spares id t s u v
        ∧ u.file? id = some g ∧ g.buffer = some b ∧ v.isOpen b := by
  have hfile : ∀ b p, (t.setBuffer id f b p).file? id
      = some { f with path := p, found := true, buffer := some b } := by
    intro b p
    refine (Accounts.file?_modify t id _ id).trans ?_
    rw [if_pos rfl, hf]
    rfl
  cases hclosed : f.buffer.filter s.isOpen with
  | some b =>
    obtain ⟨hb, hopen⟩ := Option.filter_eq_some_iff.mp hclosed
    refine .inr ⟨b, t, s, f, ?_, h, .of_sources (.refl s), hf, hb, hopen⟩
    unfold FileTable.openBuffer
    rw [hf]
    dsimp only
    rw [hclosed]
  | none =>
    have hjoined := (h.openClosed disk hf hclosed).2
    have hkeeps := (t.openOrAsk_of_steps disk (J := fun v => v.Orderly ∧ s.Keeps v)
      (fun v p hJ => ⟨hJ.1.openFile disk p, hJ.2.trans (hJ.1.keeps_openFile disk p)⟩)
      (fun v name p hJ => ⟨hJ.1.ask name p, hJ.2.trans (v.keeps_ask name p)⟩)
      ⟨h.orderly, .refl s⟩ f.spec.filename (t.lookedFor disk f)).1.2
    have hopened := (h.openOrAsk disk f.spec.filename (t.lookedFor disk f)).2.2
    rw [openBuffer_of_closed hf hclosed]
    cases hrun : t.openOrAsk disk s f.spec.filename (t.lookedFor disk f) with
    | mk o v =>
      rw [hrun] at hjoined hkeeps hopened
      cases o with
      | none => exact .inl ⟨_, v, rfl, openOrAsk_eq_none hrun⟩
      | some bp =>
        obtain ⟨b, p⟩ := bp
        obtain ⟨buffer, hb, -⟩ := hopened b p rfl
        exact .inr ⟨b, _, v, _, rfl, hjoined b p rfl, .setBuffer hkeeps f b p, hfile b p, rfl,
          Sources.isOpen_of_buffer hb⟩

/-- A place of a file that is open has a live marker in the end. -/
theorem Joined.placeMarker {q : PlaceId} {p : Place} {g : FileEntry} {b : BufferId}
    (hp : t.place? q = some p) (hg : t.file? p.file = some g) (hb : g.buffer = some b)
    (hopen : s.isOpen b) (screen : Bool) :
    let r := FileTable.placeMarker b screen (t, s) q
    r.1.Joined r.2 ∧ Spares p.file t s r.1 r.2 ∧ r.1.file? p.file = some g
      ∧ (r.1.liveMarker? r.2 q).isSome := by
  cases hposition : p.marker.bind s.position? with
  | some n =>
    have hrun : FileTable.placeMarker b screen (t, s) q = (t, s) := by
      unfold FileTable.placeMarker
      dsimp only
      rw [hp]
      dsimp only
      rw [hposition]
      rfl
    obtain ⟨k, c, hlive⟩ := (position_eq_some_iff hp).mp hposition
    rw [hrun]
    exact ⟨h, .of_sources (.refl s), hg, Option.isSome_iff_exists.mpr ⟨_, hlive⟩⟩
  | none =>
    obtain ⟨offset, hoffset⟩ : ∃ offset,
        s.offset? b (p.position.line.getD 1) p.position.column screen = some offset := by
      obtain ⟨buffer, hbuffer⟩ := Option.isSome_iff_exists.mp hopen
      rw [Sources.offset?, Sources.text?, hbuffer]
      exact ⟨_, rfl⟩
    rw [placeMarker_of_dead hp hposition hoffset]
    refine ⟨h.mark hp hg hb hopen offset, .mark h.orderly hp rfl hposition b offset, hg, ?_⟩
    -- the new marker is the first of the sources
    have hplace : (t.mark q (s.addMarker b offset).1).place? q
        = some { p with marker := some (s.addMarker b offset).1 } := by
      rw [place?_mark, if_pos rfl, hp]
      rfl
    have hlookup : (s.addMarker b offset).2.markers.lookup (s.addMarker b offset).1
        = some ⟨b, offset⟩ := List.lookup_cons_self
    exact Option.isSome_iff_exists.mpr
      ⟨_, liveMarker?_eq_some.mpr ⟨_, hplace, rfl, hlookup, hopen⟩⟩

/-- All places of a file that is open have live markers in the end. -/
theorem Joined.placeMarkers {id : FileId} {g : FileEntry} {b : BufferId}
    (hg : t.file? id = some g) (hb : g.buffer = some b) (hopen : s.isOpen b) (screen : Bool) :
    let r := t.placeMarkers s id b screen
    r.1.Joined r.2 ∧ Spares id t s r.1 r.2 ∧ r.1.file? id = some g
      ∧ ∀ q, (r.1.place? q).map (·.file) = some id → (r.1.liveMarker? r.2 q).isSome := by
  -- place by place; what comes after a place leaves its marker
  have hall : ∀ (qs : List PlaceId) (t : FileTable) (s : Sources), t.Joined s →
      t.file? id = some g → s.isOpen b → (∀ q ∈ qs, (t.place? q).map (·.file) = some id) →
      let r := qs.foldl (FileTable.placeMarker b screen) (t, s)
      r.1.Joined r.2 ∧ Spares id t s r.1 r.2 ∧ r.1.file? id = some g
        ∧ ∀ q ∈ qs, (r.1.liveMarker? r.2 q).isSome := by
    intro qs
    induction qs with
    | nil => exact fun t s h hg _ _ => ⟨h, .of_sources (.refl s), hg, nofun⟩
    | cons q qs ih =>
      intro t s h hg hopen hfiles
      obtain ⟨p, hp, rfl⟩ := Option.map_eq_some_iff.mp (hfiles q List.mem_cons_self)
      obtain ⟨hjoined, hspares, hg', hlive⟩ := h.placeMarker hp hg hb hopen screen
      rw [List.foldl_cons]
      generalize FileTable.placeMarker b screen (t, s) q = r at hjoined hspares hg' hlive
      obtain ⟨u, v⟩ := r
      have hrest : ∀ q' ∈ qs, (u.place? q').map (·.file) = some p.file := by
        intro q' hq'
        rw [← hfiles q' (List.mem_cons_of_mem q hq')]
        exact hspares.map_place (fun _ _ => rfl) q'
      obtain ⟨hjoined', hspares', hg'', hlive'⟩ :=
        ih u v hjoined hg' (hspares.sources.isOpen hopen) hrest
      refine ⟨hjoined', hspares.trans hspares', hg'', fun q' hq' => ?_⟩
      rcases List.mem_cons.mp hq' with rfl | hq'
      · obtain ⟨⟨k, m⟩, hkm⟩ := Option.isSome_iff_exists.mp hlive
        rw [hspares'.live hkm]
        rfl
      · exact hlive' q' hq'
  have hlisted : ∀ q ∈ g.places.map (·.2), (t.place? q).map (·.file) = some id :=
    fun q => (h.coherent.mem_places hg).mp
  obtain ⟨hjoined, hspares, hg', hlive⟩ := hall (g.places.map (·.2)) t s h hg hopen hlisted
  unfold FileTable.placeMarkers
  rw [hg]
  exact ⟨hjoined, hspares, hg', fun q hq => hlive q ((hjoined.coherent.mem_places hg').mpr hq)⟩

end

/-- A place of a file was gone to, and is at an offset. -/
structure Located (t : FileTable) (s : Sources) (u : FileTable) (v : Sources) (q : PlaceId)
    (file : FileId) (n : Nat) : Prop where
  inFile : (t.place? q).map (·.file) = some file
  position : ∃ k b, u.liveMarker? v q = some (k, ⟨b, n⟩)
  /-- If its marker was not there, all places of the file have theirs in the buffer of the file. -/
  marked : t.liveMarker? s q = none → ∃ f b, u.file? file = some f ∧ f.buffer = some b
    ∧ ∀ r, (u.place? r).map (·.file) = some file → ∃ k i, u.liveMarker? v r = some (k, ⟨b, i⟩)
  kept : ∀ r x, t.liveMarker? s r = some x → u.liveMarker? v r = some x
  otherFiles : ∀ id, id ≠ file → u.file? id = t.file? id
  otherPlaces : ∀ r, (t.place? r).map (·.file) ≠ some file →
    u.place? r = t.place? r ∧ u.liveMarker? v r = t.liveMarker? s r
  buffers : ∀ b buffer, s.buffer? b = some buffer → v.buffer? b = some buffer
  positions : ∀ k i, s.position? k = some i → v.position? k = some i
  alike : t.Alike u
  visited : ∀ r, (u.place? r).map (·.visited) = (t.place? r).map (·.visited)
  refs : ∀ id, (u.file? id).map (·.refs) = (t.file? id).map (·.refs)

section

variable {t : FileTable} {s : Sources} (h : t.Joined s)
include h

/-- Of a place of another file, the marker is live just if it was. -/
theorem Joined.liveMarker?_of_spares {u : FileTable} {v : Sources} {file : FileId}
    (hspares : Spares file t s u v) {r : PlaceId} (hr : (t.place? r).map (·.file) ≠ some file) :
    u.place? r = t.place? r ∧ u.liveMarker? v r = t.liveMarker? s r := by
  have hplace : u.place? r = t.place? r := by
    rcases hspares.place r with heq | ⟨p, k, hp, rfl, -⟩
    · exact heq
    · rw [hp] at hr
      exact absurd rfl hr
  refine ⟨hplace, Option.ext fun x => ⟨fun hx => ?_, hspares.live⟩⟩
  obtain ⟨k, m⟩ := x
  obtain ⟨p, hp, hk, hlookup, -⟩ := liveMarker?_eq_some.mp hx
  rw [hplace] at hp
  have hold := hspares.sources.old k m (h.linked.marker r p k hp hk).1 hlookup
  exact liveMarker?_eq_some.mpr
    ⟨p, hp, hk, hold, h.moored r p k hp hk m (mem_of_lookup hold)⟩

/-- What there is to show of a place that was gone to. -/
theorem Joined.located {u : FileTable} {v : Sources} {q : PlaceId} {file : FileId} {n : Nat}
    (hfile : (t.place? q).map (·.file) = some file) (hspares : Spares file t s u v)
    (halike : t.Alike u) (hposition : ∃ k b, u.liveMarker? v q = some (k, ⟨b, n⟩))
    (hmarked : t.liveMarker? s q = none → ∃ f b, u.file? file = some f ∧ f.buffer = some b
      ∧ ∀ r, (u.place? r).map (·.file) = some file → ∃ k i, u.liveMarker? v r = some (k, ⟨b, i⟩)) :
    Located t s u v q file n where
  inFile := hfile
  position := hposition
  marked := hmarked
  kept _ _ := hspares.live
  otherFiles := hspares.file
  otherPlaces _ := h.liveMarker?_of_spares hspares
  buffers := hspares.sources.buffer
  positions _ _ := hspares.sources.position
  alike := halike
  visited r := hspares.map_place (fun _ _ => rfl) r
  refs id := by
    by_cases hid : id = file
    · have hrefs := congrArg (Option.map fun e => e.2.2.2) hspares.entry
      rw [Option.map_map, Option.map_map] at hrefs
      rw [hid]
      exact hrefs
    · rw [hspares.file id hid]

/-- A place is gone to with its file, or nothing has changed but what was asked. -/
theorem Joined.locate_cases (disk : Disk) (q : PlaceId) (screen : Bool) :
    let r := t.locate disk s q screen
    (∃ n file, r.1 = .ok n ∧ Located t s r.2.1 r.2.2 q file n)
      ∨ ∃ e, r.1 = .error e ∧ r.2.1 = t ∧ r.2.2 = { s with guide := r.2.2.guide } := by
  have halike := t.alike_locate disk s q screen
  revert halike
  unfold FileTable.locate
  cases hp : t.place? q with
  | none => exact fun _ => .inr ⟨_, rfl, rfl, rfl⟩
  | some p =>
    have hfile : (t.place? q).map (·.file) = some p.file := by
      rw [hp]
      rfl
    dsimp only
    cases hposition : p.marker.bind s.position? with
    | some n =>
      have hlive := (position_eq_some_iff hp).mp hposition
      refine fun halike => .inl ⟨n, p.file, rfl,
        h.located hfile (.of_sources (.refl s)) halike hlive fun hnone => ?_⟩
      obtain ⟨k, b, hlive⟩ := hlive
      rw [hlive] at hnone
      cases hnone
    | none =>
      dsimp only
      obtain ⟨f, hf, -⟩ := h.coherent.owned q p hp
      rcases h.openBuffer hf disk with ⟨e, v, hrun, hasked⟩ | ⟨b, u, v, g, hrun, hjoined,
        hspares, hg, hb, hopen⟩
      · rw [hrun]
        exact fun _ => .inr ⟨e, rfl, rfl, hasked⟩
      · obtain ⟨hjoined', hspares', hg', hlive⟩ := hjoined.placeMarkers hg hb hopen screen
        rw [hrun]
        dsimp only
        generalize u.placeMarkers v p.file b screen = r at hjoined' hspares' hg' hlive
        obtain ⟨w, x⟩ := r
        have hspared := hspares.trans hspares'
        -- the place is there still, and its marker is in the buffer of the file
        have hfile' : (w.place? q).map (·.file) = some p.file := by
          rw [hspared.map_place (fun _ _ => rfl), hfile]
        have hmarkers : ∀ r, (w.place? r).map (·.file) = some p.file →
            ∃ k i, w.liveMarker? x r = some (k, ⟨b, i⟩) := by
          intro r hr
          obtain ⟨⟨k, m⟩, hkm⟩ := Option.isSome_iff_exists.mp (hlive r hr)
          obtain ⟨g', hfile, hbuffer⟩ := hjoined'.linked.buffer_of_live hkm hr
          rw [hg'] at hfile
          cases hfile
          rw [hb, Option.some.injEq] at hbuffer
          exact ⟨k, m.position, by rw [hkm, hbuffer]⟩
        obtain ⟨k, i, hki⟩ := hmarkers q hfile'
        obtain ⟨placed, hplaced, -⟩ := Option.map_eq_some_iff.mp hfile'
        rw [hplaced]
        dsimp only
        rw [(position_eq_some_iff hplaced).mpr ⟨k, b, hki⟩]
        exact fun halike => .inl ⟨i, p.file, rfl,
          h.located hfile hspared halike ⟨k, b, hki⟩ fun _ => ⟨g, b, hg', hb, hmarkers⟩⟩

end

/-! ## 5. Whatever was done before -/

/-- A step that needs no sources. -/
def Step.Alone : Step → Prop
  | .operate (.locate ..) => False
  | _ => True

/-- What is done to a table and to the sources that its places are marked in. -/
inductive Deed
  /-- A step of the table alone. -/
  | step (s : Step) (alone : s.Alone)
  | goTo (disk : Disk) (q : PlaceId) (screen : Bool)
  /-- Someone else does something to the buffers. -/
  | change (c : Sources.Change)
  /-- Someone else puts a marker where they like. -/
  | addMarker (b : BufferId) (offset : Nat)
  /-- Files are looked for elsewhere from now on. -/
  | searchIn (searchPath : List (Option Path))
  | setTabWidth (n : Nat)

def perform (x : FileTable × Sources) : Deed → FileTable × Sources
  | .step s _ => (x.1.step s, x.2)
  | .goTo disk q screen => (x.1.locate disk x.2 q screen).2
  | .change c => (x.1, x.2.change c)
  | .addMarker b offset => (x.1, (x.2.addMarker b offset).2)
  | .searchIn searchPath => ({ x.1 with searchPath }, x.2)
  | .setTabWidth n => (x.1, x.2.withTabWidth n)

def performAll (x : FileTable × Sources) (ds : List Deed) : FileTable × Sources :=
  ds.foldl perform x

theorem Joined.step {t : FileTable} {s : Sources} (h : t.Joined s) {st : Step} (alone : st.Alone) :
    (t.step st).Joined s := by
  cases st with
  | operate op =>
    cases op with
    | intern disk spec stack formats =>
      exact h.of_unopened (h.coherent.unopened_intern disk spec stack formats)
    | placeAt file p =>
      unfold FileTable.step operate
      dsimp only
      split
      · rename_i hplace
        exact h.of_unopened (h.coherent.unopened_placeAt hplace)
      · exact h
    | locate disk sources id screen => exact alone.elim
    | retain id =>
      exact h.of_unopened
        (h.coherent.unopened_modify id (fun _ => rfl) (fun _ => rfl) fun _ => rfl)
    | release id =>
      exact h.of_unopened
        (h.coherent.unopened_modify id (fun _ => rfl) (fun _ => rfl) fun _ => rfl)
    | flush disk spec =>
      exact flush_of_dropFile (I := fun u => u.Joined s) (fun _ id h => h.dropFile id) h disk spec
    | dropFile id => exact h.dropFile id
    | sweep => exact sweep_of_dropFile (I := fun u => u.Joined s) (fun _ id h => h.dropFile id) h
  | markVisited id =>
    unfold FileTable.step
    dsimp only
    split
    · rename_i hvisited
      exact h.of_unopened (h.coherent.unopened_markVisited hvisited)
    · exact h
  | clear => exact h.of_unopened h.coherent.unopened_clear

theorem Joined.perform {x : FileTable × Sources} (h : x.1.Joined x.2) (d : Deed) :
    (FileTable.perform x d).1.Joined (FileTable.perform x d).2 := by
  cases d with
  | step s alone => exact h.step alone
  | goTo disk q screen => exact h.locate disk q screen
  | change c => exact h.change c
  | addMarker b offset => exact h.addMarker b offset
  | searchIn searchPath =>
    obtain ⟨⟨hfiles, hplaces, hlisted, howned⟩, horderly, hmoored, hbuffer, hmarker⟩ := h
    exact ⟨⟨hfiles, hplaces, hlisted, howned⟩, horderly, hmoored, hbuffer, hmarker⟩
  | setTabWidth n =>
    obtain ⟨hcoherent, ⟨hbuffers, hmarkers, hindexed⟩, hmoored, hbuffer, hmarker⟩ := h
    exact ⟨hcoherent, ⟨hbuffers, hmarkers, hindexed⟩, hmoored, hbuffer, hmarker⟩

theorem Joined.performAll {x : FileTable × Sources} (h : x.1.Joined x.2) (ds : List Deed) :
    (FileTable.performAll x ds).1.Joined (FileTable.performAll x ds).2 := by
  induction ds generalizing x with
  | nil => exact h
  | cons d ds ih => exact ih (h.perform d)

/-- Whatever was done to a table and its sources, going to a place either gives an offset, which is
that of the live marker of the place, or fails.  If it fails, the table is as it was, and so are all
buffers and markers.  If it does not, then markers that were live are where they were, the other files
and their places are as they were, and so are all marks of visits and counts of references; and if the
place had no live marker, all places of its file have one now, in the buffer of the file. -/
theorem locate_performAll (searchPath : List (Option Path)) (workingDir : Path) (tabWidth : Nat)
    (guide : Option Guide) (ds : List Deed) (disk : Disk) (q : PlaceId) (screen : Bool) :
    let x := performAll ({ searchPath, workingDir }, { tabWidth, guide }) ds
    let r := x.1.locate disk x.2 q screen
    (∃ n file, r.1 = .ok n ∧ Located x.1 x.2 r.2.1 r.2.2 q file n)
      ∨ ∃ e, r.1 = .error e ∧ r.2.1 = x.1 ∧ r.2.2 = { x.2 with guide := r.2.2.guide } := by
  intro x r
  have hjoined : x.1.Joined x.2 :=
    Joined.performAll (x := (_, _)) (joined_empty searchPath workingDir tabWidth guide) ds
  exact hjoined.locate_cases disk q screen

/-- Of two files one is open, so its place is gone to, and the other is nowhere. -/
example :
    let x := performAll ({ workingDir := ⟨['/']⟩ }, {})
      [.change (.openText ⟨"/a".toList⟩ "x\ny\n".toList),
        .step (.operate (.intern .empty ⟨"a", none⟩ .root [])) trivial,
        .step (.operate (.intern .empty ⟨"b", none⟩ .root [])) trivial,
        .step (.operate (.placeAt ⟨0, 0⟩ ⟨some 2, none⟩)) trivial,
        .step (.operate (.placeAt ⟨1, 0⟩ ⟨some 1, none⟩)) trivial]
    (x.1.locate .empty x.2 ⟨0, 0⟩ false).1.toOption = some 2
      ∧ (x.1.locate .empty x.2 ⟨1, 0⟩ false).1.toOption = none := by
  decide +kernel

end FileTable

end BuildLog
