import BuildLog.Proofs.Changes

/-!
# Going — what going to a place does, step by step

Going to a place opens the file of the place if it is not open, and then puts a marker at each place
of the file that has none.  So what these two steps keep is kept; and where someone got, there is a
marker.
-/

namespace BuildLog.FileTable

/-! ## 1. Opening a file -/

/-- What opening a file and asking for one keep is kept, whichever is done; and a file that was
opened was opened last. -/
theorem openOrAsk_of_steps {J : Sources → Prop} (disk : Disk)
    (hfile : ∀ s p, J s → J (s.openFile disk p).2) (hask : ∀ s name p, J s → J (s.ask name p).2)
    (t : FileTable) {sources : Sources} (h : J sources) (filename : String) (p : Path) :
    let r := t.openOrAsk disk sources filename p
    J r.2 ∧ ∀ b path, r.1 = some (b, path) → ∃ s, J s ∧ s.openFile disk path = (some b, r.2) := by
  unfold openOrAsk
  have hfirst := hfile sources p h
  cases hopen : sources.openFile disk p with
  | mk o s₁ =>
    rw [hopen] at hfirst
    cases o with
    | some b =>
      refine ⟨hfirst, fun _ _ heq => ?_⟩
      cases heq
      exact ⟨sources, h, hopen⟩
    | none =>
      -- the guide is asked, and what it answers is opened instead
      dsimp only
      have hsecond := hask s₁ filename p hfirst
      cases hanswer : s₁.ask filename p with
      | mk o s₂ =>
        rw [hanswer] at hsecond
        cases o with
        | none => exact ⟨hsecond, nofun⟩
        | some answer =>
          dsimp only
          have hthird := hfile s₂ (t.absolutize answer) hsecond
          cases hopen' : s₂.openFile disk (t.absolutize answer) with
          | mk o s₃ =>
            rw [hopen'] at hthird
            cases o with
            | none => exact ⟨hthird, nofun⟩
            | some b =>
              refine ⟨hthird, fun _ _ heq => ?_⟩
              cases heq
              exact ⟨s₂, hsecond, hopen'⟩

section

variable {I : FileTable → Sources → Prop} {disk : Disk} {t : FileTable} {sources : Sources}

/-- A file that is not open is opened, if that works out. -/
theorem openBuffer_of_steps {id : FileId} (h : I t sources)
    (hopen : ∀ f, t.file? id = some f → f.buffer.filter sources.isOpen = none →
      let r := t.openOrAsk disk sources f.spec.filename (t.lookedFor disk f)
      (r.1 = none → I t r.2) ∧ ∀ b p, r.1 = some (b, p) → I (t.setBuffer id f b p) r.2) :
    I (t.openBuffer disk sources id).2.1 (t.openBuffer disk sources id).2.2 := by
  unfold openBuffer
  split
  · exact h
  · rename_i f hf
    split
    · exact h
    · rename_i hclosed
      have hstep := hopen f hf hclosed
      dsimp only at hstep ⊢
      split
      · rename_i b p s hrun
        change t.openOrAsk disk sources f.spec.filename (t.lookedFor disk f) = _ at hrun
        rw [hrun] at hstep
        exact hstep.2 b p rfl
      · rename_i s hrun
        change t.openOrAsk disk sources f.spec.filename (t.lookedFor disk f) = _ at hrun
        rw [hrun] at hstep
        exact hstep.1 rfl

/-- The buffer that is answered is that of the file. -/
theorem buffer_of_openBuffer {id : FileId} {b : BufferId} {u : FileTable} {s : Sources}
    (h : t.openBuffer disk sources id = (.ok b, u, s)) :
    ∃ f, u.file? id = some f ∧ f.buffer = some b := by
  unfold openBuffer at h
  split at h
  · cases h
  · rename_i f hf
    split at h
    · rename_i hb
      cases h
      exact ⟨f, hf, (Option.filter_eq_some_iff.mp hb).1⟩
    · dsimp only at h
      split at h
      · rename_i b' p s' _
        cases h
        refine ⟨{ f with path := p, found := true, buffer := some b }, ?_, rfl⟩
        change (t.files.modify _ _).get? _ = _
        rw [Slots.get?_modify, if_pos rfl]
        change Option.map _ (t.file? id) = _
        rw [hf]
        rfl
      · cases h

/-! ## 2. Placing markers -/

/-- A place with a new marker. -/
def mark (t : FileTable) (q : PlaceId) (k : MarkerId) : FileTable :=
  { t with places := t.places.modify q.handle fun p => { p with marker := some k } }

theorem place?_mark (t : FileTable) (q : PlaceId) (k : MarkerId) (r : PlaceId) :
    (t.mark q k).place? r
      = if r = q then (t.place? r).map fun p => { p with marker := some k } else t.place? r := by
  show (t.places.modify _ _).get? _ = _
  rw [Slots.get?_modify]
  simp only [place_handle_eq_iff]
  rfl

/-- Each place of the file that has no marker in an open buffer is given one in the buffer of the
file. -/
theorem Coherent.placeMarkers_of_steps (ht : t.Coherent) {id : FileId} {f : FileEntry} {b : BufferId}
    (hf : t.file? id = some f) (hb : f.buffer = some b) {screen : Bool}
    (hmark : ∀ {u s} q p g offset, u.place? q = some p → u.file? p.file = some g →
      g.buffer = some b → p.marker.bind s.position? = none →
      s.offset? b (p.position.line.getD 1) p.position.column screen = some offset → I u s →
      I (u.mark q (s.addMarker b offset).1) (s.addMarker b offset).2)
    (h : I t sources) :
    I (t.placeMarkers sources id b screen).1 (t.placeMarkers sources id b screen).2 := by
  unfold placeMarkers
  rw [hf]
  have hlisted := ht.listed id f hf
  dsimp only
  -- the files stay as they are, and the places in them
  suffices hall : ∀ (qs : List PlaceId) (acc : FileTable × Sources), acc.1.file? id = some f →
      (∀ q ∈ qs, (acc.1.place? q).map (·.file) = some id) → I acc.1 acc.2 →
      I (qs.foldl (placeMarker b screen) acc).1 (qs.foldl (placeMarker b screen) acc).2 by
    refine hall _ (t, sources) hf (fun q hq => ?_) h
    obtain ⟨e, he, rfl⟩ := List.mem_map.mp hq
    exact hlisted e he
  intro qs
  induction qs with
  | nil => exact fun _ _ _ hacc => hacc
  | cons q qs ih =>
    rintro ⟨u, s⟩ hfile hplaces hacc
    obtain ⟨p, hp, hpfile⟩ := Option.map_eq_some_iff.mp (hplaces q List.mem_cons_self)
    rw [List.foldl_cons]
    have hrest := fun r hr => hplaces r (List.mem_cons_of_mem q hr)
    unfold placeMarker
    dsimp only at hp ⊢
    rw [hp]
    dsimp only
    split
    · exact ih (u, s) hfile hrest hacc
    · rename_i hnone
      rw [Bool.not_eq_true, Option.isSome_eq_false_iff, Option.isNone_iff_eq_none] at hnone
      split
      · exact ih (u, s) hfile hrest hacc
      · rename_i offset hoffset
        refine ih (u.mark q (s.addMarker b offset).1, (s.addMarker b offset).2) hfile
          (fun r hr => ?_) (hmark q p f offset hp (hpfile ▸ hfile) hb hnone hoffset hacc)
        rw [← hrest r hr, place?_mark]
        split
        · rw [Option.map_map]
          rfl
        · rfl

/-! ## 3. Going to a place -/

theorem Coherent.openBuffer (ht : t.Coherent) (disk : Disk) (sources : Sources) (id : FileId) :
    (t.openBuffer disk sources id).2.1.Coherent := by
  refine openBuffer_of_changes (I := Coherent) (fun u k f b p _ hu => ?_) ht disk sources id
  have hmod := hu.modifyFile k (g := fun f => { f with path := p, found := true, buffer := some b })
    (fun _ => rfl) fun _ => rfl
  exact (hmod.of_files_places (v := u.setBuffer k f b p) rfl rfl).coherent

/-- What the opening of a file and a new marker in the buffer of a file keep, going to a place
keeps. -/
theorem Coherent.locate_of_steps (ht : t.Coherent) (q : PlaceId) (screen : Bool)
    (hopen : ∀ id f, t.file? id = some f → f.buffer.filter sources.isOpen = none →
      let r := t.openOrAsk disk sources f.spec.filename (t.lookedFor disk f)
      (r.1 = none → I t r.2) ∧ ∀ b p, r.1 = some (b, p) → I (t.setBuffer id f b p) r.2)
    (hmark : ∀ {u s} q p g b offset, u.place? q = some p → u.file? p.file = some g →
      g.buffer = some b → p.marker.bind s.position? = none →
      s.offset? b (p.position.line.getD 1) p.position.column screen = some offset → I u s →
      I (u.mark q (s.addMarker b offset).1) (s.addMarker b offset).2)
    (h : I t sources) :
    I (t.locate disk sources q screen).2.1 (t.locate disk sources q screen).2.2 := by
  unfold FileTable.locate
  split
  · exact h
  · rename_i p _
    split
    · exact h
    · -- whatever is answered, the file was opened and markers were placed
      have hbuffer := openBuffer_of_steps h (hopen p.file)
      have hcoherent := ht.openBuffer disk sources p.file
      split
      · rename_i hrun
        rw [hrun] at hbuffer
        exact hbuffer
      · rename_i b u s hrun
        obtain ⟨f, hf, hb⟩ := buffer_of_openBuffer hrun
        rw [hrun] at hbuffer hcoherent
        have hmarks := hcoherent.placeMarkers_of_steps hf hb
          (fun q p g offset hp hg hgb => hmark q p g b offset hp hg hgb) hbuffer
        dsimp only
        repeat' split
        all_goals exact hmarks

/-- Where someone got, there is a marker. -/
theorem locate_eq_ok {q : PlaceId} {screen : Bool} {position : Nat}
    (h : (t.locate disk sources q screen).1 = .ok position) :
    ∃ p, (t.locate disk sources q screen).2.1.place? q = some p
      ∧ p.marker.bind (t.locate disk sources q screen).2.2.position? = some position := by
  revert h
  unfold locate
  cases hp : t.place? q with
  | none => exact nofun
  | some p =>
    dsimp only
    cases hposition : p.marker.bind sources.position? with
    | some x => exact fun h => ⟨p, hp, hposition.trans (congrArg some (Except.ok.inj h))⟩
    | none =>
      -- markers were placed in the buffer of the file, and then the place was looked at again
      dsimp only
      generalize t.openBuffer disk sources p.file = r
      obtain ⟨e | b, u, s⟩ := r
      · exact nofun
      · dsimp only
        generalize u.placeMarkers s p.file b screen = r
        obtain ⟨v, s'⟩ := r
        dsimp only
        cases hplaced : v.place? q with
        | none => exact nofun
        | some placed =>
          dsimp only
          cases hat : placed.marker.bind s'.position? with
          | none => exact nofun
          | some x => exact fun h => ⟨placed, hplaced, hat.trans (congrArg some (Except.ok.inj h))⟩

end

/-! ## 4. Coherent tables -/

theorem keptByGoing_coherent (D : Disk → Prop) (F : List String → Prop) :
    KeptByGoing D F fun t _ => t.Coherent where
  reading _ :=
    { intern := fun h disk _ spec stack formats _ => (h.intern disk spec stack formats).coherent
      placeAt := fun h hplace => (h.placeAt hplace).1.coherent
      retain := fun h id => Accounts.coherent_modify h id fun _ => rfl
      dropFile := fun h id => (h.dropFile id).1
      release := fun h id => Accounts.coherent_modify h id fun _ => rfl }
  locate h disk _ q screen := (h.locate disk _ q screen).coherent
  markVisited h hvisit := (h.markVisited hvisit).coherent

end BuildLog.FileTable
