import BuildLog.Proofs.Buffers
import BuildLog.Proofs.Edits

/-!
# Markers — a marker stays before its character

Each edit of a buffer moves the markers in it, those of one place together.  A marker points at the
character that it pointed at, as long as this is there and nothing is put in between the two.
-/

namespace BuildLog

/-! ## 1. Characters and where they come from -/

namespace Edit

/-- The characters of a text, each with its offset. -/
def numbered (t : Text) : List (Char × Option Nat) := t.zipIdx.map fun e => (e.1, some e.2)

/-- Edits of characters that have offsets beside them.  A character that is put in has none. -/
def trace (xs : List (Char × Option Nat)) (es : List Edit) : List (Char × Option Nat) :=
  es.foldl (onList fun c => (c, none)) xs

/-- No two characters come from the same place. -/
def Distinct (xs : List (Char × Option Nat)) : Prop := (xs.filterMap (·.2)).Nodup

section

variable {xs : List (Char × Option Nat)} {e : Edit} {es : List Edit}

theorem getElem?_numbered (t : Text) (i : Nat) :
    (numbered t)[i]? = t[i]?.map fun c => (c, some i) := by
  rw [numbered, List.getElem?_map, List.getElem?_zipIdx, Option.map_map, Nat.zero_add]
  rfl

theorem getElem?_numbered_of_mem {t : Text} {c : Char} {n : Nat} (h : (c, some n) ∈ numbered t) :
    (numbered t)[n]? = some (c, some n) := by
  obtain ⟨i, hi⟩ := List.mem_iff_getElem?.mp h
  have hin : i = n := by
    rw [getElem?_numbered, Option.map_eq_some_iff] at hi
    obtain ⟨d, -, heq⟩ := hi
    cases heq
    rfl
  rwa [← hin] at hi ⊢

theorem map_fst_numbered (t : Text) : (numbered t).map (·.1) = t := by
  rw [numbered, List.map_map]
  exact List.zipIdx_map_fst 0 t

theorem distinct_numbered (t : Text) : Distinct (numbered t) := by
  rw [Distinct, numbered, List.filterMap_map]
  show (t.zipIdx.filterMap (some ∘ Prod.snd)).Nodup
  rw [List.filterMap_eq_map, List.zipIdx_map_snd]
  exact List.nodup_range' 1

/-- The offsets beside the characters make no difference to these. -/
theorem map_fst_trace (xs : List (Char × Option Nat)) (es : List Edit) :
    (trace xs es).map (·.1) = es.foldl (onList id) (xs.map (·.1)) := by
  induction es generalizing xs with
  | nil => rfl
  | cons e es ih =>
    show (trace (e.onList _ xs) es).map (·.1) = es.foldl (onList id) (e.onList id (xs.map (·.1)))
    rw [ih, map_onList]
    rfl

theorem Distinct.onList (h : Distinct xs) (e : Edit) :
    Distinct (e.onList (fun c => (c, none)) xs) := by
  cases e with
  | insert offset t =>
    have hnew : (t.map fun c => (c, (none : Option Nat))).filterMap (·.2) = [] := by
      rw [List.filterMap_map]
      exact List.filterMap_eq_nil_iff.mpr fun _ _ => rfl
    rw [Distinct, onList_insert, List.filterMap_append, List.filterMap_append, hnew, List.append_nil,
      ← List.filterMap_append, List.take_append_drop]
    exact h
  | delete span =>
    have hsublist : ((Edit.delete span).onList (fun c => (c, none)) xs).Sublist xs := by
      conv_rhs => rw [← List.take_append_drop (min span.start xs.length) xs]
      rw [onList_delete]
      exact (List.Sublist.refl _).append (List.drop_sublist_drop_left xs (Nat.le_max_left _ _))
    exact List.Nodup.sublist (hsublist.filterMap _) h

/-- A character is in one place only. -/
theorem Distinct.index_unique (h : Distinct xs) {i j n : Nat} {c d : Char}
    (hi : xs[i]? = some (c, some n)) (hj : xs[j]? = some (d, some n)) : i = j := by
  have hpair : ∀ {i j : Nat} {c d : Char}, xs[i]? = some (c, some n) → xs[j]? = some (d, some n) →
      ¬ i < j := by
    intro i j c d hi hj hlt
    obtain ⟨hi, hxi⟩ := List.getElem?_eq_some_iff.mp hi
    obtain ⟨hj, hxj⟩ := List.getElem?_eq_some_iff.mp hj
    -- of two places in order the origins differ
    have hne := List.pairwise_iff_getElem.mp (List.pairwise_filterMap.mp h) i j hi hj hlt
    rw [hxi, hxj] at hne
    exact hne n rfl n rfl rfl
  exact Nat.le_antisymm (Nat.le_of_not_lt (hpair hj hi)) (Nat.le_of_not_lt (hpair hi hj))

/-- What comes from a text was in it. -/
theorem mem_onList {c : Char} {n : Nat} (h : (c, some n) ∈ e.onList (fun c => (c, none)) xs) :
    (c, some n) ∈ xs := by
  cases e with
  | insert offset t =>
    rw [onList_insert, List.append_assoc, List.mem_append, List.mem_append] at h
    rcases h with h | h | h
    · exact List.mem_of_mem_take h
    · obtain ⟨d, -, hd⟩ := List.mem_map.mp h
      cases hd
    · exact List.mem_of_mem_drop h
  | delete span =>
    rw [onList_delete, List.mem_append] at h
    exact h.elim List.mem_of_mem_take List.mem_of_mem_drop

theorem mem_trace {c : Char} {n : Nat} (h : (c, some n) ∈ trace xs es) : (c, some n) ∈ xs := by
  induction es generalizing xs with
  | nil => exact h
  | cons e es ih => exact mem_onList (ih h)

/-- A character that is there after an edit was not deleted by it. -/
theorem Distinct.not_deletes (h : Distinct xs) {c d : Char} {i n : Nat}
    (hi : xs[i]? = some (c, some n)) (hmem : (d, some n) ∈ e.onList (fun c => (c, none)) xs) :
    ¬ e.Deletes i := by
  cases e with
  | insert offset t => exact id
  | delete span =>
    have hlen := (List.getElem?_eq_some_iff.mp hi).1
    rw [onList_delete, List.mem_append] at hmem
    rintro ⟨hstart, hstop⟩
    -- it is before or behind what was deleted, and in no other place
    rcases hmem with hmem | hmem
    · obtain ⟨j, hj⟩ := List.mem_iff_getElem?.mp hmem
      rw [List.getElem?_take] at hj
      split at hj
      · have := h.index_unique hi hj
        omega
      · cases hj
    · obtain ⟨j, hj⟩ := List.mem_iff_getElem?.mp hmem
      rw [List.getElem?_drop] at hj
      have := h.index_unique hi hj
      omega

end

/-! ## 2. Offsets -/

/-- Where an edit of a text of some length moves a marker. -/
def moveMarker (length : Nat) : Edit → Nat → Nat
  | .insert offset t, p => if min offset length < p then p + t.length else p
  | .delete span, p =>
    let start := min span.start length
    let stop := max start (min span.stop length)
    if stop ≤ p then p - (stop - start) else if start < p then start else p

/-- An edit puts text in at an offset of a text of some length. -/
def PutsAt (length : Nat) : Edit → Nat → Prop
  | .insert offset t, p => min offset length = p ∧ t ≠ []
  | .delete _, _ => False

section

variable {α : Type} {f : Char → α} {xs : List α} {length p q : Nat} {e : Edit}

theorem moveMarker_insert (offset : Nat) (t : Text) : (Edit.insert offset t).moveMarker length p
    = if min offset length < p then p + t.length else p := rfl

/-- A marker in the text that is taken out goes to where this was. -/
theorem moveMarker_delete (span : Span) : (Edit.delete span).moveMarker length p
    = min p (min span.start length) + (p - max (min span.start length) (min span.stop length)) := by
  unfold moveMarker
  dsimp only
  split
  · omega
  · split <;> omega

/-- Markers do not change places. -/
theorem moveMarker_mono (hpq : p ≤ q) (e : Edit) :
    e.moveMarker length p ≤ e.moveMarker length q := by
  cases e with
  | insert offset t =>
    rw [moveMarker_insert, moveMarker_insert]
    split <;> split <;> omega
  | delete span =>
    rw [moveMarker_delete, moveMarker_delete]
    omega

/-- Markers stay in the text. -/
theorem moveMarker_le (hp : p ≤ xs.length) (e : Edit) :
    e.moveMarker xs.length p ≤ (e.onList f xs).length := by
  cases e with
  | insert offset t =>
    rw [moveMarker_insert, length_onList_insert]
    split <;> omega
  | delete span =>
    rw [moveMarker_delete, length_onList_delete]
    omega

/-- A marker goes with the character behind it, unless text is put in between. -/
theorem moveMarker_eq_move (hp : p < length) (hkept : ¬ e.Deletes p) (hputs : ¬ e.PutsAt length p) :
    e.moveMarker length p = e.move p := by
  cases e with
  | insert offset t =>
    rw [moveMarker_insert, move]
    have hplace : min offset length = p → t.length = 0 := by
      intro heq
      by_contra hne
      exact hputs ⟨heq, fun hnil => hne (List.length_eq_zero_iff.mpr hnil)⟩
    split <;> split <;> omega
  | delete span =>
    rw [moveMarker_delete, move]
    simp only [Deletes, not_and, Nat.not_lt] at hkept
    split <;> omega

/-- To take out what was put in brings markers back. -/
theorem moveMarker_delete_insert (offset p : Nat) (t : Text) :
    (Edit.delete ⟨min offset length, min offset length + t.length⟩).moveMarker (length + t.length)
      ((Edit.insert offset t).moveMarker length p) = p := by
  rw [moveMarker_delete, moveMarker_insert]
  dsimp only
  split <;> omega

end

end Edit

/-! ## 3. Buffers -/

namespace Sources

def editBuffer (s : Sources) (b : BufferId) : Edit → Sources
  | .insert offset t => s.insert b offset t
  | .delete span => s.delete b span

/-- The sources after some edits of a buffer in turn. -/
def editAll (s : Sources) (b : BufferId) (es : List Edit) : Sources :=
  es.foldl (fun s e => s.editBuffer b e) s

/-- A marker is at an offset of a buffer. -/
def MarkerAt (s : Sources) (k : MarkerId) (b : BufferId) (p : Nat) : Prop :=
  s.markers.lookup k = some ⟨b, p⟩

/-- No edit puts text in at a marker. -/
def Undisturbed (s : Sources) (b : BufferId) (k : MarkerId) : List Edit → Prop
  | [] => True
  | e :: es =>
    (∀ old p, s.text? b = some old → s.MarkerAt k b p → ¬ e.PutsAt old.length p)
      ∧ (s.editBuffer b e).Undisturbed b k es

theorem markerAt_addMarker (s : Sources) (b : BufferId) (p : Nat) :
    (s.addMarker b p).2.MarkerAt (s.addMarker b p).1 b p := by
  show (((⟨s.nextMarker⟩ : MarkerId), (⟨b, p⟩ : Marker)) :: s.markers).lookup ⟨s.nextMarker⟩ = _
  rw [List.lookup_cons, beq_self_eq_true]

section

variable {s : Sources} {b c : BufferId} {k : MarkerId} {p : Nat} {old text : Text}

theorem editBuffer_eq (h : s.text? b = some old) (e : Edit) :
    s.editBuffer b e = s.edit b (e.onList id old) (e.moveMarker old.length) := by
  cases e with
  | insert offset t =>
    show s.insert b offset t = _
    unfold Sources.insert
    rw [h, Edit.onList_insert, List.map_id]
    rfl
  | delete span =>
    show s.delete b span = _
    unfold Sources.delete
    rw [h]
    rfl

theorem editBuffer_of_closed (h : s.text? b = none) (e : Edit) : s.editBuffer b e = s := by
  cases e with
  | insert offset t =>
    show s.insert b offset t = s
    unfold Sources.insert
    rw [h]
  | delete span =>
    show s.delete b span = s
    unfold Sources.delete
    rw [h]

theorem text?_edit (h : s.text? b = some old) (text : Text) (move : Nat → Nat) :
    (s.edit b text move).text? b = some text := by
  obtain ⟨buffer, hb, -⟩ := Option.map_eq_some_iff.mp h
  rw [text?, buffer?_edit, hb, Option.map_some, if_pos rfl]
  rfl

/-- A marker of the buffer that is edited moves. -/
theorem MarkerAt.editBuffer (hk : s.MarkerAt k b p) (h : s.text? b = some old) (e : Edit) :
    (s.editBuffer b e).MarkerAt k b (e.moveMarker old.length p) := by
  rw [editBuffer_eq h, MarkerAt, lookup_markers_edit, hk, Option.map_some, if_pos rfl]

theorem text?_editBuffer (h : s.text? b = some old) (e : Edit) :
    (s.editBuffer b e).text? b = some (e.onList id old) := by
  rw [editBuffer_eq h, text?_edit h]

/-- What belongs to another buffer stays. -/
theorem buffer?_editBuffer_of_ne (s : Sources) (hne : c ≠ b) (e : Edit) :
    (s.editBuffer b e).buffer? c = s.buffer? c := by
  cases h : s.text? b with
  | none => rw [editBuffer_of_closed h]
  | some old =>
    rw [editBuffer_eq h, buffer?_edit]
    simp only [if_neg hne]
    exact Option.map_id'

theorem MarkerAt.editBuffer_of_ne (hk : s.MarkerAt k c p) (hne : c ≠ b) (e : Edit) :
    (s.editBuffer b e).MarkerAt k c p := by
  cases h : s.text? b with
  | none => rwa [editBuffer_of_closed h]
  | some old => rw [editBuffer_eq h, MarkerAt, lookup_markers_edit, hk, Option.map_some, if_neg hne]

theorem MarkerAt.position (hk : s.MarkerAt k b p) (h : s.text? b = some old) :
    s.position? k = some p := by
  obtain ⟨buffer, hb, -⟩ := Option.map_eq_some_iff.mp h
  exact position?_eq_some_iff.mpr ⟨b, hk, isOpen_of_buffer hb⟩

end

/-! ## 4. Runs of edits -/

section

variable {s : Sources} {b c : BufferId} {k j : MarkerId} {p q : Nat} {old : Text} {es : List Edit}

theorem text?_editAll (h : s.text? b = some old) (es : List Edit) :
    (s.editAll b es).text? b = some (es.foldl (Edit.onList id) old) := by
  induction es generalizing s old with
  | nil => exact h
  | cons e es ih => exact ih (text?_editBuffer h e)

theorem editAll_of_closed (h : s.text? b = none) (es : List Edit) : s.editAll b es = s := by
  induction es with
  | nil => rfl
  | cons e es ih =>
    show (s.editBuffer b e).editAll b es = s
    rw [editBuffer_of_closed h, ih]

theorem buffer?_editAll_of_ne (s : Sources) (hne : c ≠ b) (es : List Edit) :
    (s.editAll b es).buffer? c = s.buffer? c := by
  induction es generalizing s with
  | nil => rfl
  | cons e es ih => exact (ih _).trans (buffer?_editBuffer_of_ne s hne e)

theorem MarkerAt.editAll_of_ne (hk : s.MarkerAt k c p) (hne : c ≠ b) (es : List Edit) :
    (s.editAll b es).MarkerAt k c p := by
  induction es generalizing s with
  | nil => exact hk
  | cons e es ih => exact ih (hk.editBuffer_of_ne hne e)

/-- A marker in the text stays in it. -/
theorem MarkerAt.editAll_le (hk : s.MarkerAt k b p) (h : s.text? b = some old)
    (hp : p ≤ old.length) (es : List Edit) :
    ∃ q ≤ (es.foldl (Edit.onList id) old).length, (s.editAll b es).MarkerAt k b q := by
  induction es generalizing s old p with
  | nil => exact ⟨p, hp, hk⟩
  | cons e es ih =>
    exact ih (hk.editBuffer h e) (text?_editBuffer h e) (Edit.moveMarker_le hp e)

/-- Two markers stay in order. -/
theorem MarkerAt.editAll_mono (hk : s.MarkerAt k b p) (hj : s.MarkerAt j b q)
    (h : s.text? b = some old) (hpq : p ≤ q) (es : List Edit) :
    ∃ p' q', (s.editAll b es).MarkerAt k b p' ∧ (s.editAll b es).MarkerAt j b q' ∧ p' ≤ q' := by
  induction es generalizing s old p q with
  | nil => exact ⟨p, q, hk, hj, hpq⟩
  | cons e es ih =>
    exact ih (hk.editBuffer h e) (hj.editBuffer h e) (text?_editBuffer h e)
      (Edit.moveMarker_mono hpq e)

/-- A marker at which nothing is put in stays before the character that it is before, if this stays. -/
theorem MarkerAt.editAll_trace {xs : List (Char × Option Nat)} {n : Nat} {d d' : Char}
    (hk : s.MarkerAt k b p) (h : s.text? b = some (xs.map (·.1))) (hd : Edit.Distinct xs)
    (hp : xs[p]? = some (d, some n)) (hmem : (d', some n) ∈ Edit.trace xs es)
    (hu : s.Undisturbed b k es) :
    ∃ q, (s.editAll b es).MarkerAt k b q ∧ (Edit.trace xs es)[q]? = some (d, some n) := by
  induction es generalizing s xs p with
  | nil => exact ⟨p, hk, hp⟩
  | cons e es ih =>
    obtain ⟨hputs, hrest⟩ := hu
    -- the character is there in the end, so this edit does not delete it
    have hlt : p < xs.length := (List.getElem?_eq_some_iff.mp hp).1
    have hkept : ¬ e.Deletes p := hd.not_deletes hp (Edit.mem_trace hmem)
    have hmove : e.moveMarker (xs.map (·.1)).length p = e.move p :=
      Edit.moveMarker_eq_move (by rwa [List.length_map]) hkept (hputs _ p h hk)
    have htext : (s.editBuffer b e).text? b
        = some ((e.onList (fun c => (c, none)) xs).map (·.1)) := by
      rw [text?_editBuffer h, Edit.map_onList]
      rfl
    have hmoved : (e.onList (fun c => (c, none)) xs)[e.move p]? = some (d, some n) := by
      rw [Edit.getElem?_onList_move hlt hkept, hp]
    exact ih (hmove ▸ hk.editBuffer h e) htext (hd.onList e) hmoved hmem hrest

end

/-- To take out what was put in leaves all buffers and markers as they were. -/
theorem delete_insert_eq {s : Sources} {b : BufferId} {old : Text} (h : s.text? b = some old)
    (offset : Nat) (t : Text) :
    let v := (s.insert b offset t).delete b
      ⟨min offset old.length, min offset old.length + t.length⟩
    (∀ c, v.buffer? c = s.buffer? c) ∧ ∀ k, v.markers.lookup k = s.markers.lookup k := by
  intro v
  have hv : v = (s.edit b ((Edit.insert offset t).onList id old)
      ((Edit.insert offset t).moveMarker old.length)).edit b old
      ((Edit.delete ⟨min offset old.length, min offset old.length + t.length⟩).moveMarker
        (old.length + t.length)) := by
    show (s.editBuffer b (.insert offset t)).editBuffer b (.delete _) = _
    rw [editBuffer_eq (text?_editBuffer h _), editBuffer_eq h, Edit.length_onList_insert,
      Edit.onList_delete_insert]
  rw [hv]
  constructor
  · intro c
    rw [buffer?_edit, buffer?_edit, Option.map_map]
    obtain ⟨buffer, hb, rfl⟩ := Option.map_eq_some_iff.mp h
    by_cases hc : c = b
    · rw [hc, hb, Option.map_some, Function.comp_apply, if_pos rfl, if_pos rfl]
    · simp only [if_neg hc]
      exact Option.map_id'
  · intro k
    rw [lookup_markers_edit, lookup_markers_edit, Option.map_map]
    -- a marker is moved there and back, or not at all
    refine Eq.trans (Option.map_congr fun m _ => ?_) Option.map_id'
    by_cases hm : m.buffer = b
    · rw [Function.comp_apply, if_pos hm, if_pos hm, Edit.moveMarker_delete_insert]
    · rw [Function.comp_apply, if_neg hm, if_neg hm]

theorem position?_congr {s v : Sources} (hbuffers : ∀ c, v.buffer? c = s.buffer? c)
    (hmarkers : ∀ k, v.markers.lookup k = s.markers.lookup k) (k : MarkerId) :
    v.position? k = s.position? k := by
  unfold position? isOpen
  rw [hmarkers]
  cases s.markers.lookup k with
  | none => rfl
  | some m =>
    dsimp only
    rw [hbuffers]

/-- Edits of a buffer in turn change nothing of another buffer, and nothing at all if the buffer is not
open.  If it is, its markers in the text stay in the text and in order, and a marker at which nothing
is put in stays before the character that it is before, as long as this is there.  To take out what
was put in leaves all texts and all markers as they were. -/
theorem markers_editAll (s : Sources) (b : BufferId) (es : List Edit) :
    let u := s.editAll b es
    (s.text? b = none → u = s)
      ∧ (∀ c, c ≠ b → u.buffer? c = s.buffer? c
          ∧ ∀ k p, s.MarkerAt k c p → u.MarkerAt k c p ∧ u.position? k = s.position? k)
      ∧ ∀ old, s.text? b = some old →
        let chars := Edit.trace (Edit.numbered old) es
        u.text? b = some (chars.map (·.1))
          ∧ (∀ k p, s.MarkerAt k b p → p ≤ old.length →
              ∃ q ≤ chars.length, u.position? k = some q)
          ∧ (∀ k j p q, s.MarkerAt k b p → s.MarkerAt j b q → p ≤ q →
              ∃ p' q', u.position? k = some p' ∧ u.position? j = some q' ∧ p' ≤ q')
          ∧ (∀ k p d, s.MarkerAt k b p → (d, some p) ∈ chars → s.Undisturbed b k es →
              ∃ q, u.position? k = some q ∧ chars[q]? = some (d, some p))
          ∧ ∀ offset t,
              let v := (s.insert b offset t).delete b
                ⟨min offset old.length, min offset old.length + t.length⟩;
              (∀ c, v.text? c = s.text? c) ∧ ∀ k, v.position? k = s.position? k := by
  intro u
  refine ⟨fun hnone => editAll_of_closed hnone es,
    fun c hne => ⟨buffer?_editAll_of_ne s hne es, fun k p hk => ?_⟩, fun old h => ?_⟩
  · have hku : u.MarkerAt k c p := hk.editAll_of_ne hne es
    refine ⟨hku, ?_⟩
    unfold position? isOpen
    rw [hk, hku]
    dsimp only
    rw [buffer?_editAll_of_ne s hne es]
  intro chars
  have htext : u.text? b = some (es.foldl (Edit.onList id) old) := text?_editAll h es
  have hchars : chars.map (·.1) = es.foldl (Edit.onList id) old := by
    rw [Edit.map_fst_trace, Edit.map_fst_numbered]
  refine ⟨hchars ▸ htext, fun k p hk hp => ?_, fun k j p q hk hj hpq => ?_,
    fun k p d hk hmem hu => ?_, fun offset t => ?_⟩
  · obtain ⟨q, hq, hkq⟩ := hk.editAll_le h hp es
    rw [← hchars, List.length_map] at hq
    exact ⟨q, hq, hkq.position htext⟩
  · obtain ⟨p', q', hk', hj', hle⟩ := hk.editAll_mono hj h hpq es
    exact ⟨p', q', hk'.position htext, hj'.position htext, hle⟩
  · -- the marker starts before the character of its own offset
    have hp := Edit.getElem?_numbered_of_mem (Edit.mem_trace hmem)
    obtain ⟨q, hq, hdq⟩ := hk.editAll_trace (by rwa [Edit.map_fst_numbered])
      (Edit.distinct_numbered old) hp hmem hu
    exact ⟨q, hq.position htext, hdq⟩
  · obtain ⟨hbuffers, hmarkers⟩ := delete_insert_eq h offset t
    exact ⟨fun c => congrArg _ (hbuffers c), position?_congr hbuffers hmarkers⟩

/-- A marker is put before the second line.  It stays there when a header is put in and most of this
and of the first line is taken out. -/
theorem markers_editAll_header :
    let opened := empty.openText ⟨"/virtual/b.c".toList⟩ "one\ntwo\n".toList
    let marked := opened.2.addMarker opened.1 4
    let es := [Edit.insert 0 "// header\n".toList, .delete ⟨2, 13⟩]
    let chars := Edit.trace (Edit.numbered "one\ntwo\n".toList) es
    marked.2.MarkerAt marked.1 opened.1 4
      ∧ ('t', some 4) ∈ chars ∧ marked.2.Undisturbed opened.1 marked.1 es
      ∧ (marked.2.editAll opened.1 es).position? marked.1 = some 3
      ∧ ∃ q, (marked.2.editAll opened.1 es).position? marked.1 = some q
          ∧ chars[q]? = some ('t', some 4) := by
  intro opened marked es chars
  have hk : marked.2.MarkerAt marked.1 opened.1 4 := markerAt_addMarker opened.2 opened.1 4
  have hmem : ('t', some 4) ∈ chars := by decide
  have hu : marked.2.Undisturbed opened.1 marked.1 es := by
    refine ⟨fun old p _ hp => ?_, fun _ _ _ _ => id, trivial⟩
    rintro ⟨hzero, -⟩
    rw [Nat.zero_min] at hzero
    have heq := Option.some.inj (hk.symm.trans hp)
    rw [← hzero] at heq
    cases heq
  obtain ⟨-, -, -, hfollows, -⟩ :=
    (markers_editAll marked.2 opened.1 es).2.2 "one\ntwo\n".toList (by decide)
  exact ⟨hk, hmem, hu, by decide, hfollows marked.1 4 't' hk hmem hu⟩

end Sources

end BuildLog
