import BuildLog.Proofs.Breaks
import BuildLog.Proofs.Indexes

/-!
# Buffers — a marker stays in the text of an open buffer

Whatever is opened, closed or edited, every marker is in the text of a buffer that is open, and the
buffer that is found for a path is open at this path.
-/

namespace BuildLog

/-! ## 1. Offsets in a text -/

namespace Text

theorem offsetOfCellIn_le (tabWidth cell x n : Nat) (gs : List Text) :
    offsetOfCellIn tabWidth cell x n gs ≤ n + gs.flatten.length := by
  induction gs generalizing x n with
  | nil => exact Nat.le_refl _
  | cons g gs ih =>
    rw [offsetOfCellIn, List.flatten_cons, List.length_append]
    split
    · omega
    · have := ih (wrappingAdd x (clusterCells tabWidth x g)) (n + g.length)
      omega

theorem offsetOfCell_le (tabWidth : Nat) (t : Text) (cell : Nat) :
    offsetOfCell tabWidth t cell ≤ t.length := by
  have := offsetOfCellIn_le tabWidth cell 0 0 (graphemes t)
  rwa [flatten_graphemes, Nat.zero_add] at this

end Text

namespace Sources

/-- Every line and column is somewhere in the text. -/
theorem offsetIn_le (t : Text) (tabWidth line : Nat) (column : Option Nat) (screen : Bool) :
    offsetIn t tabWidth line column screen ≤ t.length := by
  unfold offsetIn
  dsimp only
  generalize min (line - 1) (t.lineCount - 1) = k
  have hline := t.lineStart_add_line_le k
  have hbody := (t.line k).length_dropLineEnd_le
  cases column with
  | none => exact t.lineStart_le k
  | some column =>
    dsimp only
    split
    · have := Text.offsetOfCell_le tabWidth (t.line k).dropLineEnd (column - 1)
      omega
    · omega

theorem offset?_le {s : Sources} {b : BufferId} {line : Nat} {column : Option Nat} {screen : Bool}
    {offset : Nat} (h : s.offset? b line column screen = some offset) :
    ∃ buffer, s.buffer? b = some buffer ∧ offset ≤ buffer.text.length := by
  obtain ⟨t, ht, rfl⟩ := Option.map_eq_some_iff.mp h
  obtain ⟨buffer, hb, rfl⟩ := Option.map_eq_some_iff.mp ht
  exact ⟨buffer, hb, offsetIn_le _ _ _ _ _⟩

/-! ## 2. Orderly sources -/

/-- Numbers are not given out again, and the buffer that is found for a path is open at this path.
So it is even if someone else puts markers where they like. -/
structure Orderly (s : Sources) : Prop where
  buffers : ∀ e ∈ s.buffers, e.1.number < s.nextBuffer
  markers : ∀ e ∈ s.markers, e.1.number < s.nextMarker
  indexed : ∀ cs b, s.byPath.lookup cs = some b →
    ∃ buffer, s.buffer? b = some buffer ∧ buffer.path.components = cs

/-- A marker is in an open buffer, as long as it is there. -/
def Moored (s : Sources) (k : MarkerId) : Prop := ∀ m, (k, m) ∈ s.markers → s.isOpen m.buffer

theorem orderly_empty (tabWidth : Nat) (guide : Option Guide) : Orderly { tabWidth, guide } :=
  ⟨nofun, nofun, nofun⟩

theorem isOpen_of_buffer {s : Sources} {b : BufferId} {buffer : SourceBuffer}
    (h : s.buffer? b = some buffer) : s.isOpen b := by
  rw [isOpen, h]
  rfl

theorem isOpen_of_offset? {s : Sources} {b : BufferId} {line : Nat} {column : Option Nat}
    {screen : Bool} {offset : Nat} (h : s.offset? b line column screen = some offset) :
    s.isOpen b := by
  obtain ⟨buffer, hb, -⟩ := offset?_le h
  exact isOpen_of_buffer hb

theorem position?_eq_some_iff {s : Sources} {k : MarkerId} {n : Nat} : s.position? k = some n
    ↔ ∃ b, s.markers.lookup k = some ⟨b, n⟩ ∧ s.isOpen b := by
  unfold position?
  cases s.markers.lookup k with
  | none => exact ⟨nofun, nofun⟩
  | some m =>
    dsimp only
    constructor
    · intro h
      obtain ⟨hopen, hn⟩ := Option.ite_none_right_eq_some.mp h
      cases hn
      exact ⟨m.buffer, rfl, hopen⟩
    · rintro ⟨b, hm, hopen⟩
      cases hm
      exact if_pos hopen

theorem buffer?_close (s : Sources) (b c : BufferId) :
    (s.close b).buffer? c = if c = b then none else s.buffer? c :=
  FileTable.lookup_filter_ne b c s.buffers

/-- The sources with no buffer open for a path. -/
def without (s : Sources) (p : Path) : Sources :=
  match s.byPath.lookup p.components with
  | some old => s.close old
  | none => s

/-- What closing a buffer keeps, closing the one of a path keeps. -/
theorem without_of_close {I : Sources → Prop} {s : Sources} (h : I s)
    (hclose : ∀ b, I (s.close b)) (p : Path) : I (s.without p) := by
  unfold without
  split
  · exact hclose _
  · exact h

section

variable {s : Sources} (h : s.Orderly)
include h

/-- What is at a number is there still when something is put at the next one. -/
theorem Orderly.number_lt {b : BufferId} {buffer : SourceBuffer}
    (hb : s.buffer? b = some buffer) : b.number < s.nextBuffer :=
  h.buffers _ (FileTable.mem_of_lookup hb)

theorem Orderly.close (b : BufferId) : (s.close b).Orderly := by
  refine ⟨fun e he => h.buffers e (List.mem_filter.mp he).1,
    fun e he => h.markers e (List.mem_filter.mp he).1, fun cs c hc => ?_⟩
  -- the buffer that is closed is not found by its path any more
  have hother : c ≠ b ∧ s.byPath.lookup cs = some c := by
    unfold Sources.close at hc
    dsimp only at hc
    cases hb : s.buffer? b with
    | none =>
      rw [hb] at hc
      refine ⟨?_, hc⟩
      rintro rfl
      obtain ⟨buffer, hopen, -⟩ := h.indexed cs c hc
      rw [hb] at hopen
      cases hopen
    | some closed =>
      rw [hb] at hc
      dsimp only at hc
      rw [FileTable.lookup_filter_ne] at hc
      split at hc
      · cases hc
      · rename_i hne
        refine ⟨?_, hc⟩
        rintro rfl
        obtain ⟨buffer, hopen, hcs⟩ := h.indexed cs c hc
        rw [hb] at hopen
        cases hopen
        exact hne hcs.symm
  rw [buffer?_close, if_neg hother.1]
  exact h.indexed cs c hother.2

theorem Orderly.without (p : Path) : (s.without p).Orderly := without_of_close h h.close p

theorem Orderly.buffer?_openText (p : Path) (t : Text) (c : BufferId) :
    (s.openText p t).2.buffer? c
      = if c = (s.openText p t).1 then some ⟨p, t.unifyLineEnds⟩ else (s.without p).buffer? c := by
  have hfresh : (s.without p).buffer? ⟨(s.without p).nextBuffer⟩ = none := by
    rw [Option.eq_none_iff_forall_ne_some]
    exact fun buffer hb => Nat.lt_irrefl _ ((h.without p).number_lt hb)
  show ((s.without p).buffers
      ++ [((⟨(s.without p).nextBuffer⟩ : BufferId), (⟨p, t.unifyLineEnds⟩ : SourceBuffer))]).lookup c
    = if c = ⟨(s.without p).nextBuffer⟩ then _ else _
  rw [List.lookup_append]
  split
  · rename_i hc
    rw [hc]
    change ((s.without p).buffer? _).or _ = _
    rw [hfresh, Option.none_or, List.lookup_cons, beq_self_eq_true]
  · rename_i hc
    rw [List.lookup_cons, beq_eq_false_iff_ne.mpr hc]
    exact Option.or_none

/-- The buffers that were open are at other numbers than a new one. -/
theorem Orderly.buffer?_openText_of_some {p : Path} (t : Text) {c : BufferId}
    {buffer : SourceBuffer} (hc : (s.without p).buffer? c = some buffer) :
    (s.openText p t).2.buffer? c = some buffer := by
  rw [h.buffer?_openText, if_neg]
  · exact hc
  · rintro rfl
    exact Nat.lt_irrefl _ ((h.without p).number_lt hc)

theorem Orderly.openText (p : Path) (t : Text) : (s.openText p t).2.Orderly := by
  have hs := h.without p
  refine ⟨fun e he => ?_, hs.markers, fun cs c hc => ?_⟩
  · rcases List.mem_append.mp he with he | he
    · exact Nat.lt_succ_of_lt (hs.buffers e he)
    · rw [List.mem_singleton.mp he]
      exact Nat.lt_succ_self _
  · change ((p.components, _) :: (s.without p).byPath.filter _).lookup cs = some c at hc
    rw [List.lookup_cons] at hc
    cases hcs : cs == p.components with
    | true =>
      rw [hcs] at hc
      cases hc
      exact ⟨_, (h.buffer?_openText p t _).trans (if_pos rfl), (beq_iff_eq.mp hcs).symm⟩
    | false =>
      rw [hcs] at hc
      dsimp only at hc
      rw [FileTable.lookup_filter_ne, if_neg (beq_eq_false_iff_ne.mp hcs)] at hc
      obtain ⟨buffer, hb, hpath⟩ := hs.indexed cs c hc
      exact ⟨buffer, h.buffer?_openText_of_some t hb, hpath⟩

omit h in
/-- What is opened is open already, or is opened anew where nothing was open. -/
theorem openFile_cases (s : Sources) (disk : Disk) (p : Path) :
    (∃ b, s.byPath.lookup p.components = some b ∧ s.openFile disk p = (some b, s))
      ∨ (∃ t, s.without p = s ∧ s.openFile disk p = (some (s.openText p t).1, (s.openText p t).2))
      ∨ s.openFile disk p = (none, s) := by
  unfold openFile Sources.without
  cases hb : s.byPath.lookup p.components with
  | some b => exact .inl ⟨b, rfl, rfl⟩
  | none =>
    dsimp only
    cases disk.read? p with
    | some t => exact .inr (.inl ⟨t.toList, rfl, rfl⟩)
    | none => exact .inr (.inr rfl)

omit h in
/-- What opening a text keeps, opening a file keeps. -/
theorem openFile_of_openText {I : Sources → Prop} (h : I s) {p : Path}
    (hopen : ∀ t, I (s.openText p t).2) (disk : Disk) : I (s.openFile disk p).2 := by
  rcases s.openFile_cases disk p with ⟨b, -, heq⟩ | ⟨t, -, heq⟩ | heq
  · rw [heq]
    exact h
  · rw [heq]
    exact hopen t
  · rw [heq]
    exact h

theorem Orderly.openFile (disk : Disk) (p : Path) : (s.openFile disk p).2.Orderly :=
  openFile_of_openText h (h.openText p) disk

/-- The buffer that is opened for a path is open at this path. -/
theorem Orderly.buffer?_openFile {disk : Disk} {p : Path} {b : BufferId} {u : Sources}
    (hopen : s.openFile disk p = (some b, u)) :
    ∃ buffer, u.buffer? b = some buffer ∧ buffer.path.same p := by
  rcases s.openFile_cases disk p with ⟨c, hc, heq⟩ | ⟨t, -, heq⟩ | heq
  · rw [heq] at hopen
    cases hopen
    obtain ⟨buffer, hb, hpath⟩ := h.indexed _ b hc
    exact ⟨buffer, hb, Path.same_iff.mpr hpath⟩
  · rw [heq] at hopen
    cases hopen
    exact ⟨_, (h.buffer?_openText p t _).trans (if_pos rfl), Path.same_iff.mpr rfl⟩
  · rw [heq] at hopen
    cases hopen

theorem Orderly.addMarker (b : BufferId) (offset : Nat) : (s.addMarker b offset).2.Orderly := by
  refine ⟨h.buffers, fun e he => ?_, h.indexed⟩
  rcases List.mem_cons.mp he with rfl | he
  · exact Nat.lt_succ_self _
  · exact Nat.lt_succ_of_lt (h.markers e he)

omit h in
theorem buffer?_edit (s : Sources) (b : BufferId) (text : Text) (move : Nat → Nat) (c : BufferId) :
    (s.edit b text move).buffer? c
      = (s.buffer? c).map fun buffer => if c = b then { buffer with text } else buffer := by
  refine (FileTable.lookup_map_of_fst (fun e => ?_) c s.buffers).trans ?_
  · split <;> rfl
  · congr 1
    funext buffer
    split <;> rfl

omit h in
theorem lookup_markers_edit (s : Sources) (b : BufferId) (text : Text) (move : Nat → Nat)
    (k : MarkerId) : (s.edit b text move).markers.lookup k = (s.markers.lookup k).map fun m =>
      if m.buffer = b then { m with position := move m.position } else m := by
  refine (FileTable.lookup_map_of_fst (fun e => ?_) k s.markers).trans ?_
  · split <;> rfl
  · congr 1
    funext m
    split <;> rfl

theorem Orderly.edit (b : BufferId) (text : Text) (move : Nat → Nat) :
    (s.edit b text move).Orderly := by
  refine ⟨fun e he => ?_, fun e he => ?_, fun cs c hc => ?_⟩
  · obtain ⟨e', he', rfl⟩ := List.mem_map.mp he
    have hlt := h.buffers e' he'
    split <;> exact hlt
  · obtain ⟨e', he', rfl⟩ := List.mem_map.mp he
    have hlt := h.markers e' he'
    split <;> exact hlt
  · obtain ⟨buffer, hbuffer, hpath⟩ := h.indexed cs c hc
    rw [buffer?_edit, hbuffer]
    refine ⟨_, rfl, ?_⟩
    split <;> exact hpath

theorem Orderly.ask (filename : String) (p : Path) : (s.ask filename p).2.Orderly := by
  unfold Sources.ask
  split
  · exact h
  · exact ⟨h.buffers, h.markers, h.indexed⟩

end

/-! ## 3. Changes -/

/-- What is done to buffers by others than a session. -/
inductive Change
  | openText (p : Path) (t : Text)
  | openFile (disk : Disk) (p : Path)
  | close (b : BufferId)
  | insert (b : BufferId) (offset : Nat) (t : Text)
  | delete (b : BufferId) (span : Span)
  /-- Someone else can be asked from now on. -/
  | consult (guide : Option Guide)

def change (s : Sources) : Change → Sources
  | .openText p t => (s.openText p t).2
  | .openFile disk p => (s.openFile disk p).2
  | .close b => s.close b
  | .insert b offset t => s.insert b offset t
  | .delete b span => s.delete b span
  | .consult guide => { s with guide }

/-- Text is put in by an edit that moves no marker beyond the end. -/
theorem insert_of_edit {I : Sources → Prop} {s : Sources} (h : I s) {b : BufferId}
    (hedit : ∀ old text move, s.text? b = some old →
      (∀ n ≤ old.length, move n ≤ text.length) → I (s.edit b text move))
    (offset : Nat) (t : Text) : I (s.insert b offset t) := by
  unfold insert
  cases hb : s.text? b with
  | none => exact h
  | some old =>
    refine hedit old _ _ hb fun n hn => ?_
    rw [List.length_append, List.length_append, List.length_take, List.length_drop]
    split <;> omega

theorem delete_of_edit {I : Sources → Prop} {s : Sources} (h : I s) {b : BufferId}
    (hedit : ∀ old text move, s.text? b = some old →
      (∀ n ≤ old.length, move n ≤ text.length) → I (s.edit b text move))
    (span : Span) : I (s.delete b span) := by
  unfold delete
  cases hb : s.text? b with
  | none => exact h
  | some old =>
    refine hedit old _ _ hb fun n hn => ?_
    rw [List.length_append, List.length_take, List.length_drop]
    split
    · omega
    · split <;> omega

/-- What opening, closing and editing keep, every change keeps. -/
theorem change_of_steps {I : Sources → Prop} {s : Sources} (h : I s)
    (hopen : ∀ p t, I (s.openText p t).2) (hclose : ∀ b, I (s.close b))
    (hedit : ∀ b old text move, s.text? b = some old →
      (∀ n ≤ old.length, move n ≤ text.length) → I (s.edit b text move))
    (hconsult : ∀ guide, I { s with guide }) (c : Change) : I (s.change c) := by
  cases c with
  | openText p t => exact hopen p t
  | openFile disk p => exact openFile_of_openText h (hopen p) disk
  | close b => exact hclose b
  | insert b offset t => exact insert_of_edit h (hedit b) offset t
  | delete b span => exact delete_of_edit h (hedit b) span
  | consult guide => exact hconsult guide

theorem Orderly.change {s : Sources} (h : s.Orderly) (c : Change) : (s.change c).Orderly :=
  change_of_steps h h.openText h.close (fun b _ text move _ _ => h.edit b text move)
    (fun _ => ⟨h.buffers, h.markers, h.indexed⟩) c

/-! ## 4. Moored markers -/

section

variable {s : Sources} {k : MarkerId} (hk : s.Moored k)
include hk

theorem Moored.close (b : BufferId) : (s.close b).Moored k := by
  intro m hm
  obtain ⟨hm, hne⟩ := List.mem_filter.mp hm
  rw [isOpen, buffer?_close, if_neg (of_decide_eq_true hne)]
  exact hk m hm

theorem Moored.openText (h : s.Orderly) (p : Path) (t : Text) : (s.openText p t).2.Moored k := by
  intro m hm
  have hopen := without_of_close (I := fun u => u.Moored k) hk hk.close p m hm
  obtain ⟨buffer, hb⟩ := Option.isSome_iff_exists.mp hopen
  exact isOpen_of_buffer (h.buffer?_openText_of_some t hb)

theorem Moored.edit (b : BufferId) (text : Text) (move : Nat → Nat) :
    (s.edit b text move).Moored k := by
  intro m hm
  obtain ⟨⟨k', m'⟩, hmem, heq⟩ := List.mem_map.mp hm
  have hbuffer : k' = k ∧ m'.buffer = m.buffer := by
    dsimp only at heq
    split at heq
    · cases heq
      exact ⟨rfl, rfl⟩
    · cases heq
      exact ⟨rfl, rfl⟩
  obtain ⟨rfl, hbuffer⟩ := hbuffer
  rw [isOpen, buffer?_edit, Option.isSome_map, ← hbuffer]
  exact hk m' hmem

theorem Moored.change (h : s.Orderly) (c : Change) : (s.change c).Moored k :=
  change_of_steps (I := fun u => u.Moored k) hk (hk.openText h) hk.close
    (fun b _ text move _ _ => hk.edit b text move) (fun _ => hk) c

theorem Moored.ask (filename : String) (p : Path) : (s.ask filename p).2.Moored k := by
  unfold Sources.ask
  split <;> exact hk

theorem Moored.addMarker (hlt : k.number < s.nextMarker) (b : BufferId) (offset : Nat) :
    (s.addMarker b offset).2.Moored k := by
  intro m hm
  rcases List.mem_cons.mp hm with heq | hm
  · cases heq
    exact absurd hlt (Nat.lt_irrefl _)
  · exact hk m hm

end

theorem Orderly.moored_addMarker {s : Sources} (h : s.Orderly) {b : BufferId} (hb : s.isOpen b)
    (offset : Nat) : (s.addMarker b offset).2.Moored (s.addMarker b offset).1 := by
  intro m hm
  rcases List.mem_cons.mp hm with heq | hm
  · cases heq
    exact hb
  · exact absurd (h.markers _ hm) (Nat.lt_irrefl _)

/-! ## 5. Sound sources -/

structure Sound (s : Sources) : Prop where
  buffers : ∀ e ∈ s.buffers, e.1.number < s.nextBuffer
  markers : ∀ e ∈ s.markers, e.1.number < s.nextMarker
  within : ∀ e ∈ s.markers, ∃ b, s.buffer? e.2.buffer = some b ∧ e.2.position ≤ b.text.length
  indexed : ∀ cs b, s.byPath.lookup cs = some b →
    ∃ buffer, s.buffer? b = some buffer ∧ buffer.path.components = cs

theorem Sound.orderly {s : Sources} (h : s.Sound) : s.Orderly := ⟨h.buffers, h.markers, h.indexed⟩

theorem Orderly.sound {s : Sources} (h : s.Orderly)
    (hwithin : ∀ e ∈ s.markers, ∃ b, s.buffer? e.2.buffer = some b ∧ e.2.position ≤ b.text.length) :
    s.Sound := ⟨h.buffers, h.markers, hwithin, h.indexed⟩

theorem sound_empty (tabWidth : Nat) (guide : Option Guide) : Sound { tabWidth, guide } :=
  (orderly_empty tabWidth guide).sound nofun

section

variable {s : Sources} (h : s.Sound)
include h

theorem Sound.moored (k : MarkerId) : s.Moored k := by
  intro m hm
  obtain ⟨buffer, hb, -⟩ := h.within _ hm
  exact isOpen_of_buffer hb

theorem Sound.close (b : BufferId) : (s.close b).Sound := by
  refine (h.orderly.close b).sound fun e he => ?_
  obtain ⟨he, hne⟩ := List.mem_filter.mp he
  rw [buffer?_close, if_neg (of_decide_eq_true hne)]
  exact h.within e he

theorem Sound.openText (p : Path) (t : Text) : (s.openText p t).2.Sound := by
  refine (h.orderly.openText p t).sound fun e he => ?_
  obtain ⟨buffer, hb, hle⟩ := (without_of_close h h.close p).within e he
  exact ⟨buffer, h.orderly.buffer?_openText_of_some t hb, hle⟩

theorem Sound.openFile (disk : Disk) (p : Path) : (s.openFile disk p).2.Sound :=
  openFile_of_openText h (h.openText p) disk

/-- A marker is put into the text of an open buffer. -/
theorem Sound.addMarker {b : BufferId} {buffer : SourceBuffer} (hb : s.buffer? b = some buffer)
    {offset : Nat} (hle : offset ≤ buffer.text.length) : (s.addMarker b offset).2.Sound := by
  refine (h.orderly.addMarker b offset).sound fun e he => ?_
  rcases List.mem_cons.mp he with rfl | he
  · exact ⟨buffer, hb, hle⟩
  · exact h.within e he

/-- Markers that stay in the text of their buffer may move. -/
theorem Sound.edit {b : BufferId} {old : Text} (hb : s.text? b = some old) {text : Text}
    {move : Nat → Nat} (hmove : ∀ n ≤ old.length, move n ≤ text.length) :
    (s.edit b text move).Sound := by
  obtain ⟨edited, hedited, rfl⟩ := Option.map_eq_some_iff.mp hb
  refine (h.orderly.edit b text move).sound fun e he => ?_
  obtain ⟨e', he', rfl⟩ := List.mem_map.mp he
  obtain ⟨buffer, hbuffer, hle⟩ := h.within e' he'
  -- a marker of the text that is edited moves along, and any other stays where it is
  split
  · rename_i hin
    rw [hin, hedited] at hbuffer
    cases hbuffer
    refine ⟨{ edited with text }, ?_, hmove _ hle⟩
    rw [buffer?_edit, hin, hedited, Option.map_some, if_pos rfl]
  · rename_i hin
    refine ⟨buffer, ?_, hle⟩
    rw [buffer?_edit, hbuffer, Option.map_some, if_neg hin]

theorem Sound.change (c : Change) : (s.change c).Sound :=
  change_of_steps h h.openText h.close (fun _ _ _ _ hb hmove => h.edit hb hmove)
    (fun _ => ⟨h.buffers, h.markers, h.within, h.indexed⟩) c

theorem Sound.ask (filename : String) (p : Path) : (s.ask filename p).2.Sound := by
  unfold Sources.ask
  split
  · exact h
  · exact ⟨h.buffers, h.markers, h.within, h.indexed⟩

end

end Sources

end BuildLog
