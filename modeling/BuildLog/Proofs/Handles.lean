import BuildLog.Slots
import Mathlib.Algebra.Group.Nat.Defs
import Mathlib.Data.List.Nodup
import Mathlib.Data.List.Perm.Basic

/-!
# Handles — what a change of a store means for each handle

A store is neat when the slots that it will fill again are its empty ones, each once.  In a neat
store a change is felt by one handle only: all others find what they found before.  A handle that
was given out once is not given out again, as long as no slot was emptied so often that its
generations begin anew.
-/

namespace BuildLog

variable {α : Type}

theorem Handle.ext_iff {h k : Handle} :
    h = k ↔ h.index = k.index ∧ h.generation = k.generation := by
  cases h
  cases k
  exact Handle.mk.injEq _ _ _ _ ▸ Iff.rfl

/-- Number of values that were put into a slot. -/
def Slot.fills (s : Slot α) : Nat := s.removals + s.value.toList.length

theorem Slot.fills_of_some {s : Slot α} (h : s.value.isSome) : s.fills = s.removals + 1 := by
  obtain ⟨a, ha⟩ := Option.isSome_iff_exists.mp h
  rw [fills, ha]
  rfl

namespace Slots

/-! ## 1. Reading -/

theorem slot?_eq_some {s : Slots α} {h : Handle} {slot : Slot α} :
    s.slot? h = some slot ↔ s.slots[h.index]? = some slot ∧ slot.generation = h.generation := by
  rw [slot?, Option.filter_eq_some_iff, decide_eq_true_iff]

theorem get?_eq_some {s : Slots α} {h : Handle} {a : α} :
    s.get? h = some a ↔ ∃ slot, s.slots[h.index]? = some slot
      ∧ slot.generation = h.generation ∧ slot.value = some a := by
  rw [get?, Option.bind_eq_some_iff]
  simp only [slot?_eq_some, and_assoc]

theorem get?_eq (s : Slots α) (h : Handle) : s.get? h = s.slots[h.index]?.bind fun slot =>
    if slot.generation = h.generation then slot.value else none := by
  rw [get?, slot?]
  cases s.slots[h.index]? with
  | none => rfl
  | some slot => by_cases hg : slot.generation = h.generation <;> simp [Option.filter, hg]

/-- Handles of a slot that two stores agree on find the same. -/
theorem get?_congr {s t : Slots α} {h : Handle} (hs : t.slots[h.index]? = s.slots[h.index]?) :
    t.get? h = s.get? h := by
  rw [get?_eq, get?_eq, hs]

theorem mem_entriesFrom {index : Nat} {ss : List (Slot α)} {h : Handle} {a : α} :
    (h, a) ∈ entriesFrom index ss ↔ ∃ i slot, h.index = index + i ∧ ss[i]? = some slot
      ∧ slot.generation = h.generation ∧ slot.value = some a := by
  induction ss generalizing index with
  | nil => simp [entriesFrom]
  | cons slot ss ih =>
    -- the entry is that of the first slot, or one of a slot behind it
    have hsplit : (h, a) ∈ entriesFrom index (slot :: ss) ↔
        (h = ⟨index, slot.generation⟩ ∧ slot.value = some a)
          ∨ (h, a) ∈ entriesFrom (index + 1) ss := by
      rw [entriesFrom]
      cases hv : slot.value with
      | none => simp
      | some b =>
        rw [List.mem_cons, Prod.mk.injEq, Option.some.injEq, eq_comm (a := b)]
    rw [hsplit, ih]
    constructor
    · rintro (⟨rfl, hv⟩ | ⟨i, u, hi, hu, hg, hv⟩)
      · exact ⟨0, slot, rfl, rfl, rfl, hv⟩
      · exact ⟨i + 1, u, by omega, hu, hg, hv⟩
    · rintro ⟨i, u, hi, hu, hg, hv⟩
      cases i with
      | zero =>
        cases hu
        obtain ⟨j, g⟩ := h
        cases hi
        cases hg
        exact .inl ⟨rfl, hv⟩
      | succ i => exact .inr ⟨i, u, by omega, hu, hg, hv⟩

/-- The values of a store are those that its handles find. -/
theorem mem_toList {s : Slots α} {h : Handle} {a : α} : (h, a) ∈ s.toList ↔ s.get? h = some a := by
  rw [toList, mem_entriesFrom, get?_eq_some]
  simp only [Array.getElem?_toList, Nat.zero_add]
  constructor
  · rintro ⟨i, slot, rfl, hrest⟩
    exact ⟨slot, hrest⟩
  · rintro ⟨slot, hrest⟩
    exact ⟨h.index, slot, rfl, hrest⟩

/-! ## 2. What each change does to the slots -/

/-- The slots to be filled again are the empty ones, each once. -/
structure Neat (s : Slots α) : Prop where
  nodup : s.free.Nodup
  mem_free : ∀ i, i ∈ s.free ↔ ∃ slot, s.slots[i]? = some slot ∧ slot.value = none

theorem neat_empty : Neat ({} : Slots α) := by
  refine ⟨List.nodup_nil, fun i => ?_⟩
  simp

/-- A value is put into a slot that was empty or is new, and no other slot changes. -/
theorem Neat.slots_insert {s : Slots α} (hs : s.Neat) (a : α) :
    ∃ i r, (s.insert a).1 = ⟨i, .ofNat r⟩
      ∧ (s.slots[i]? = some ⟨r, none⟩ ∧ s.free = i :: (s.insert a).2.free
          ∨ s.slots[i]? = none ∧ r = 0 ∧ s.free = (s.insert a).2.free)
      ∧ ∀ j, (s.insert a).2.slots[j]? = if j = i then some ⟨r, some a⟩ else s.slots[j]? := by
  unfold insert
  cases hf : s.free with
  | nil =>
    refine ⟨s.slots.size, 0, rfl, .inr ⟨Array.getElem?_size, rfl, rfl⟩, fun j => ?_⟩
    exact Array.getElem?_push
  | cons i free =>
    obtain ⟨⟨r, v⟩, hi, hv⟩ := (hs.mem_free i).mp (hf ▸ List.mem_cons_self)
    cases hv
    have hr : (s.slots[i]?.map (·.removals)).getD 0 = r := by
      rw [hi]
      rfl
    refine ⟨i, r, ?_, .inl ⟨hi, rfl⟩, fun j => ?_⟩
    · dsimp only
      rw [hr]
      rfl
    · have hlt : i < s.slots.size := (Array.getElem?_eq_some_iff.mp hi).1
      dsimp only
      rw [Array.getElem?_setIfInBounds, if_pos hlt, hr]
      simp only [eq_comm (a := i)]

theorem slots_modify (s : Slots α) (h : Handle) (f : α → α) (j : Nat) :
    (s.modify h f).slots[j]? = s.slots[j]?.map fun slot =>
      if j = h.index ∧ slot.generation = h.generation then { slot with value := slot.value.map f }
      else slot := by
  unfold modify
  cases hslot : s.slot? h with
  | none =>
    have hne : ∀ slot, s.slots[j]? = some slot →
        ¬ (j = h.index ∧ slot.generation = h.generation) := by
      rintro slot hj ⟨rfl, hg⟩
      rw [slot?_eq_some.mpr ⟨hj, hg⟩] at hslot
      cases hslot
    cases hj : s.slots[j]? with
    | none => rfl
    | some slot => rw [Option.map_some, if_neg (hne slot hj)]
  | some slot =>
    obtain ⟨hi, hg⟩ := slot?_eq_some.mp hslot
    have hlt : h.index < s.slots.size := (Array.getElem?_eq_some_iff.mp hi).1
    dsimp only
    rw [Array.getElem?_setIfInBounds, if_pos hlt]
    by_cases hj : j = h.index
    · subst hj
      rw [if_pos rfl, hi, Option.map_some, if_pos ⟨rfl, hg⟩]
    · simp [hj, Ne.symm hj]

@[simp] theorem free_modify (s : Slots α) (h : Handle) (f : α → α) :
    (s.modify h f).free = s.free := by
  unfold modify
  cases s.slot? h with
  | none => rfl
  | some slot => rfl

theorem fst_remove (s : Slots α) (h : Handle) : (s.remove h).1 = s.get? h := by
  unfold remove get?
  cases s.slot? h with
  | none => rfl
  | some slot =>
    obtain ⟨r, v⟩ := slot
    cases v with
    | none => rfl
    | some a => rfl

/-- Without a value there is nothing to remove. -/
theorem remove_of_none {s : Slots α} {h : Handle} (hn : s.get? h = none) :
    (s.remove h).2 = s := by
  unfold remove
  unfold get? at hn
  cases hslot : s.slot? h with
  | none => rfl
  | some slot =>
    obtain ⟨r, v⟩ := slot
    rw [hslot] at hn
    cases hn
    rfl

theorem remove_of_some {s : Slots α} {h : Handle} {a : α} (ha : s.get? h = some a) :
    ∃ r, s.slots[h.index]? = some ⟨r, some a⟩
      ∧ (s.remove h).2.free = h.index :: s.free
      ∧ ∀ j, (s.remove h).2.slots[j]? = if j = h.index then some ⟨r + 1, none⟩ else s.slots[j]? := by
  obtain ⟨⟨r, v⟩, hi, hg, hv⟩ := get?_eq_some.mp ha
  cases hv
  have hlt : h.index < s.slots.size := (Array.getElem?_eq_some_iff.mp hi).1
  have hremove : (s.remove h).2 = ⟨s.slots.setIfInBounds h.index ⟨r + 1, none⟩, h.index :: s.free⟩ := by
    unfold remove
    rw [slot?_eq_some.mpr ⟨hi, hg⟩]
  refine ⟨r, hi, congrArg Slots.free hremove, fun j => ?_⟩
  rw [hremove]
  dsimp only
  rw [Array.getElem?_setIfInBounds, if_pos hlt]
  simp only [eq_comm (a := h.index)]

/-! ## 3. What each change does to the handles -/

section Finds

variable {s : Slots α}

/-- No handle finds anything in the slot that is filled next. -/
theorem get?_of_index_insert (hs : s.Neat) (a : α) {k : Handle}
    (hk : k.index = (s.insert a).1.index) : s.get? k = none := by
  obtain ⟨i, r, hid, hold, -⟩ := hs.slots_insert a
  rw [hid] at hk
  have hindex : k.index = i := hk
  rw [get?_eq, hindex]
  rcases hold with ⟨hi, -⟩ | ⟨hi, -⟩
  · rw [hi, Option.bind_some, ite_self]
  · rw [hi, Option.bind_none]

theorem get?_fst_insert (hs : s.Neat) (a : α) : s.get? (s.insert a).1 = none :=
  get?_of_index_insert hs a rfl

theorem get?_insert (hs : s.Neat) (a : α) (k : Handle) :
    (s.insert a).2.get? k = if k = (s.insert a).1 then some a else s.get? k := by
  obtain ⟨i, r, hid, -, hslots⟩ := hs.slots_insert a
  have hfilled := fun hk => get?_of_index_insert hs a (k := k) hk
  rw [hid] at hfilled ⊢
  by_cases hk : k.index = i
  · -- a handle of the slot that was filled finds the new value or, if it is stale, none
    have hnew : (s.insert a).2.slots[k.index]? = some ⟨r, some a⟩ := by rw [hslots, if_pos hk]
    rw [hfilled hk, get?_eq, hnew, Option.bind_some]
    simp only [Handle.ext_iff (h := k), hk, true_and, eq_comm (a := k.generation)]
    rfl
  · have hne : k ≠ ⟨i, .ofNat r⟩ := fun h => hk (congrArg Handle.index h)
    rw [if_neg hne]
    exact get?_congr (by rw [hslots, if_neg hk])

theorem get?_insert_self (hs : s.Neat) (a : α) : (s.insert a).2.get? (s.insert a).1 = some a := by
  rw [get?_insert hs, if_pos rfl]

theorem get?_modify (s : Slots α) (h : Handle) (f : α → α) (k : Handle) :
    (s.modify h f).get? k = if k = h then (s.get? k).map f else s.get? k := by
  rw [get?_eq, get?_eq, slots_modify]
  cases s.slots[k.index]? with
  | none => simp
  | some slot =>
    simp only [Option.map_some, Option.bind_some]
    have hgen : ∀ v : Option α, Slot.generation { slot with value := v } = slot.generation :=
      fun _ => rfl
    by_cases hg : slot.generation = k.generation
    · -- the handle is that of the slot, so it is `h` if the slot is that of `h`
      have hk : (k.index = h.index ∧ slot.generation = h.generation) ↔ k = h := by
        rw [hg, Handle.ext_iff]
      simp only [hk]
      split
      · simp only [hgen, hg, if_true]
      · rfl
    · rw [if_neg hg, Option.map_none, ite_self]
      split
      · exact if_neg hg
      · rfl

theorem get?_remove (s : Slots α) (h k : Handle) :
    (s.remove h).2.get? k = if k = h then none else s.get? k := by
  cases ha : s.get? h with
  | none =>
    rw [remove_of_none ha]
    split
    · rename_i hk
      rw [hk, ha]
    · rfl
  | some a =>
    obtain ⟨r, hi, -, hslots⟩ := remove_of_some ha
    by_cases hk : k.index = h.index
    · -- no handle finds anything in the slot that was emptied, and only this one did before
      have hnone : (s.remove h).2.get? k = none := by
        rw [get?_eq, hslots, if_pos hk, Option.bind_some]
        split <;> rfl
      rw [hnone]
      split
      · rfl
      · rename_i hne
        rw [eq_comm, Option.eq_none_iff_forall_ne_some]
        intro b hb
        obtain ⟨slot, hslot, hg, -⟩ := get?_eq_some.mp hb
        obtain ⟨slot', hslot', hg', -⟩ := get?_eq_some.mp ha
        rw [hk, hslot'] at hslot
        cases hslot
        exact hne (Handle.ext_iff.mpr ⟨hk, hg.symm.trans hg'⟩)
    · have hne : k ≠ h := fun heq => hk (congrArg Handle.index heq)
      rw [if_neg hne]
      exact get?_congr (by rw [hslots, if_neg hk])

end Finds

/-! ## 4. Neat stores stay neat -/

namespace Neat

variable {s : Slots α}

theorem insert (hs : s.Neat) (a : α) : (s.insert a).2.Neat := by
  obtain ⟨i, r, -, hold, hslots⟩ := hs.slots_insert a
  -- the filled slot was the first to be filled, or is new
  have hfree : ∀ j, j ∈ (s.insert a).2.free ↔ j ∈ s.free ∧ j ≠ i := by
    intro j
    rcases hold with ⟨-, hf⟩ | ⟨hi, -, hf⟩
    · have hnd := hs.nodup
      rw [hf, List.nodup_cons] at hnd
      rw [hf, List.mem_cons]
      constructor
      · exact fun hj => ⟨.inr hj, fun h => hnd.1 (h ▸ hj)⟩
      · exact fun ⟨hj, hne⟩ => hj.resolve_left hne
    · rw [hf]
      refine ⟨fun hj => ⟨hj, ?_⟩, And.left⟩
      rintro rfl
      obtain ⟨slot, hslot, -⟩ := (hs.mem_free j).mp (hf ▸ hj)
      rw [hi] at hslot
      cases hslot
  constructor
  · have hnd := hs.nodup
    rcases hold with ⟨-, hf⟩ | ⟨-, -, hf⟩
    · rw [hf] at hnd
      exact (List.nodup_cons.mp hnd).2
    · rwa [hf] at hnd
  · intro j
    rw [hfree, hs.mem_free, hslots]
    by_cases hj : j = i
    · simp [hj]
    · simp [hj]

theorem modify (hs : s.Neat) (h : Handle) (f : α → α) : (s.modify h f).Neat := by
  refine ⟨by rw [free_modify]; exact hs.nodup, fun i => ?_⟩
  rw [free_modify, hs.mem_free, slots_modify]
  cases s.slots[i]? with
  | none => simp
  | some slot =>
    simp only [Option.map_some, Option.some.injEq, exists_eq_left']
    split
    · exact Option.map_eq_none_iff.symm
    · exact Iff.rfl

theorem remove (hs : s.Neat) (h : Handle) : (s.remove h).2.Neat := by
  cases ha : s.get? h with
  | none =>
    rw [remove_of_none ha]
    exact hs
  | some a =>
    obtain ⟨r, hi, hfree, hslots⟩ := remove_of_some ha
    have hnot : h.index ∉ s.free := by
      intro hmem
      obtain ⟨slot, hslot, hv⟩ := (hs.mem_free _).mp hmem
      rw [hi] at hslot
      cases hslot
      cases hv
    refine ⟨by rw [hfree]; exact List.nodup_cons.mpr ⟨hnot, hs.nodup⟩, fun j => ?_⟩
    rw [hfree, List.mem_cons, hs.mem_free, hslots]
    by_cases hj : j = h.index
    · simp [hj]
    · simp [hj]

end Neat

/-! ## 5. Handles that were given out -/

/-- The handle was given out for one of the values that its slot has held. -/
def Issued (s : Slots α) (h : Handle) : Prop :=
  ∃ slot n, s.slots[h.index]? = some slot ∧ n < slot.fills ∧ h.generation = .ofNat n

/-- No slot was emptied so often that its generations begin anew. -/
def Few (s : Slots α) : Prop := ∀ slot ∈ s.slots, slot.removals < 2 ^ 32

instance (s : Slots α) : Decidable s.Few :=
  inferInstanceAs (Decidable (∀ slot ∈ s.slots, slot.removals < 2 ^ 32))

theorem Few.modify {s : Slots α} (hs : s.Few) (h : Handle) (f : α → α) : (s.modify h f).Few := by
  intro slot hslot
  obtain ⟨i, hi⟩ := Array.getElem?_of_mem hslot
  rw [slots_modify, Option.map_eq_some_iff] at hi
  obtain ⟨old, hold, rfl⟩ := hi
  have hlt := hs old (Array.mem_of_getElem? hold)
  split <;> exact hlt

/-- A store that `s` may become: every slot is still there, and was used as often or more. -/
def Grows (s t : Slots α) : Prop :=
  ∀ (i : Nat) (slot : Slot α), s.slots[i]? = some slot →
    ∃ slot', t.slots[i]? = some slot' ∧ slot.removals ≤ slot'.removals ∧ slot.fills ≤ slot'.fills

section Grows

variable {s t u : Slots α}

theorem Grows.refl (s : Slots α) : s.Grows s :=
  fun _ slot hi => ⟨slot, hi, Nat.le_refl _, Nat.le_refl _⟩

theorem Grows.trans (h : s.Grows t) (h' : t.Grows u) : s.Grows u := by
  intro i slot hi
  obtain ⟨slot', hi', hr, hf⟩ := h i slot hi
  obtain ⟨slot'', hi'', hr', hf'⟩ := h' i slot' hi'
  exact ⟨slot'', hi'', Nat.le_trans hr hr', Nat.le_trans hf hf'⟩

theorem Issued.grows {h : Handle} (hi : s.Issued h) (hg : s.Grows t) : t.Issued h := by
  obtain ⟨slot, n, hslot, hn, hgen⟩ := hi
  obtain ⟨slot', hslot', -, hf⟩ := hg _ slot hslot
  exact ⟨slot', n, hslot', Nat.lt_of_lt_of_le hn hf, hgen⟩

theorem Few.of_grows (ht : t.Few) (hg : s.Grows t) : s.Few := by
  intro slot hslot
  obtain ⟨i, hi⟩ := Array.getElem?_of_mem hslot
  obtain ⟨slot', hi', hr, -⟩ := hg i slot hi
  exact Nat.lt_of_le_of_lt hr (ht slot' (Array.mem_of_getElem? hi'))

theorem grows_insert (hs : s.Neat) (a : α) : s.Grows (s.insert a).2 := by
  obtain ⟨i, r, -, hold, hslots⟩ := hs.slots_insert a
  intro j slot hj
  by_cases hij : j = i
  · subst hij
    rcases hold with ⟨hi, -⟩ | ⟨hi, -⟩
    · rw [hi] at hj
      cases hj
      exact ⟨⟨r, some a⟩, by rw [hslots, if_pos rfl], Nat.le_refl r, Nat.le_succ r⟩
    · rw [hi] at hj
      cases hj
  · exact ⟨slot, by rw [hslots, if_neg hij, hj], Nat.le_refl _, Nat.le_refl _⟩

theorem grows_modify (s : Slots α) (h : Handle) (f : α → α) : s.Grows (s.modify h f) := by
  intro j slot hj
  rw [slots_modify, hj]
  refine ⟨_, rfl, ?_, ?_⟩ <;> dsimp only
  · split <;> exact Nat.le_refl _
  · split
    · exact Nat.add_le_add_left (by cases slot.value <;> exact Nat.le_refl _) _
    · exact Nat.le_refl _

theorem grows_remove (s : Slots α) (h : Handle) : s.Grows (s.remove h).2 := by
  cases ha : s.get? h with
  | none =>
    rw [remove_of_none ha]
    exact .refl s
  | some a =>
    obtain ⟨r, hi, -, hslots⟩ := remove_of_some ha
    intro j slot hj
    by_cases hij : j = h.index
    · rw [hij, hi] at hj
      cases hj
      exact ⟨⟨r + 1, none⟩, by rw [hslots, if_pos hij], Nat.le_succ r, Nat.le_refl (r + 1)⟩
    · exact ⟨slot, by rw [hslots, if_neg hij, hj], Nat.le_refl _, Nat.le_refl _⟩

theorem grows_clear (s : Slots α) : s.Grows s.clear := by
  intro i slot hi
  refine ⟨if slot.value.isSome then ⟨slot.removals + 1, none⟩ else slot, ?_, ?_⟩
  · rw [clear, Array.getElem?_map, hi]
    rfl
  · by_cases hv : slot.value.isSome
    · rw [if_pos hv]
      exact ⟨Nat.le_succ _, Nat.le_of_eq (Slot.fills_of_some hv)⟩
    · rw [if_neg hv]
      exact ⟨Nat.le_refl _, Nat.le_refl _⟩

end Grows

theorem issued_of_get? {s : Slots α} {h : Handle} {a : α} (ha : s.get? h = some a) : s.Issued h := by
  obtain ⟨slot, hslot, hg, hv⟩ := get?_eq_some.mp ha
  refine ⟨slot, slot.removals, hslot, ?_, hg.symm⟩
  rw [Slot.fills_of_some (by rw [hv]; rfl)]
  exact Nat.lt_succ_self _

/-- A handle is not given out twice. -/
theorem not_issued_insert {s : Slots α} (hs : s.Neat) (hfew : s.Few) (a : α) :
    ¬ s.Issued (s.insert a).1 := by
  obtain ⟨i, r, hid, hold, -⟩ := hs.slots_insert a
  rw [hid]
  rintro ⟨slot, n, hslot, hn, hgen⟩
  rcases hold with ⟨hi, -⟩ | ⟨hi, -⟩
  · rw [hi] at hslot
    cases hslot
    have hr : r < 2 ^ 32 := hfew _ (Array.mem_of_getElem? hi)
    have hn : n < r := hn
    -- below 2 ^ 32, numbers are generations of their own
    have hmod : r % 2 ^ 32 = n % 2 ^ 32 := congrArg UInt32.toNat hgen
    rw [Nat.mod_eq_of_lt hr, Nat.mod_eq_of_lt (by omega)] at hmod
    omega
  · rw [hi] at hslot
    cases hslot

/-! ## 6. All values -/

theorem pairwise_entriesFrom (index : Nat) (ss : List (Slot α)) :
    (entriesFrom index ss).Pairwise fun e e' => e.1.index < e'.1.index := by
  induction ss generalizing index with
  | nil => exact List.Pairwise.nil
  | cons slot ss ih =>
    rw [entriesFrom]
    cases slot.value with
    | none => exact ih (index + 1)
    | some a =>
      refine List.Pairwise.cons (fun e he => ?_) (ih (index + 1))
      obtain ⟨i, -, hi, -⟩ := mem_entriesFrom.mp (show (e.1, e.2) ∈ _ from he)
      show index < e.1.index
      omega

/-- No two values of a store have one handle. -/
theorem nodup_handles (s : Slots α) : (s.toList.map (·.1)).Nodup := by
  refine List.Pairwise.map _ (fun e e' hlt heq => ?_) (pairwise_entriesFrom 0 s.slots.toList)
  rw [heq] at hlt
  exact Nat.lt_irrefl _ hlt

theorem mem_indexes {s : Slots α} {i : Nat} :
    i ∈ s.toList.map (·.1.index) ↔ ∃ slot, s.slots[i]? = some slot ∧ slot.value ≠ none := by
  rw [List.mem_map]
  constructor
  · rintro ⟨⟨h, a⟩, hmem, rfl⟩
    obtain ⟨slot, hslot, -, hv⟩ := get?_eq_some.mp (mem_toList.mp hmem)
    exact ⟨slot, hslot, by rw [hv]; exact Option.some_ne_none a⟩
  · rintro ⟨slot, hslot, hv⟩
    obtain ⟨a, ha⟩ := Option.ne_none_iff_exists'.mp hv
    exact ⟨(⟨i, slot.generation⟩, a), mem_toList.mpr (get?_eq_some.mpr ⟨slot, hslot, rfl, ha⟩), rfl⟩

theorem nodup_indexes (s : Slots α) : (s.toList.map (·.1.index)).Nodup :=
  (pairwise_entriesFrom 0 s.slots.toList).map _ fun _ _ hlt => Nat.ne_of_lt hlt

/-- No slot with a value is to be filled. -/
theorem Neat.not_mem_free {s : Slots α} (hs : s.Neat) {i : Nat} (hi : i ∈ s.toList.map (·.1.index)) :
    i ∉ s.free := by
  intro hfree
  obtain ⟨slot, hslot, hv⟩ := mem_indexes.mp hi
  obtain ⟨slot', hslot', hv'⟩ := (hs.mem_free i).mp hfree
  rw [hslot] at hslot'
  cases hslot'
  exact hv hv'

/-- Each slot of a neat store has a value, or is to be filled. -/
theorem Neat.indexes_perm {s : Slots α} (hs : s.Neat) :
    (s.toList.map (·.1.index) ++ s.free).Perm (List.range s.slots.size) := by
  have hnodup : (s.toList.map (·.1.index) ++ s.free).Nodup := by
    refine List.nodup_append.mpr ⟨nodup_indexes s, hs.nodup, ?_⟩
    rintro i hi j hj rfl
    exact hs.not_mem_free hi hj
  refine (List.perm_ext_iff_of_nodup hnodup List.nodup_range).mpr fun i => ?_
  rw [List.mem_append, mem_indexes, hs.mem_free, List.mem_range, ← exists_or]
  constructor
  · rintro ⟨slot, ⟨hslot, -⟩ | ⟨hslot, -⟩⟩ <;> exact (Array.getElem?_eq_some_iff.mp hslot).1
  · intro hi
    refine ⟨s.slots[i], ?_⟩
    rw [Array.getElem?_eq_getElem hi]
    by_cases hv : s.slots[i].value = none
    · exact .inr ⟨rfl, hv⟩
    · exact .inl ⟨rfl, hv⟩

/-- The size of a neat store is the number of its values. -/
theorem Neat.size_eq {s : Slots α} (hs : s.Neat) : s.size = s.toList.length := by
  have hlength := hs.indexes_perm.length_eq
  rw [List.length_append, List.length_map, List.length_range] at hlength
  rw [size]
  omega

/-- Nothing is left of a store that was cleared. -/
theorem get?_clear (s : Slots α) (h : Handle) : s.clear.get? h = none := by
  rw [get?_eq, clear, Array.getElem?_map]
  cases s.slots[h.index]? with
  | none => rfl
  | some slot =>
    rw [Option.map_some, Option.bind_some]
    by_cases hv : slot.value.isSome
    · rw [if_pos hv, ite_self]
    · rw [if_neg hv, Option.not_isSome_iff_eq_none.mp hv, ite_self]

theorem Neat.clear {s : Slots α} (hs : s.Neat) : s.clear.Neat := by
  refine ⟨?_, fun i => ?_⟩
  · refine List.nodup_append.mpr ⟨List.nodup_reverse.mpr (nodup_indexes s), hs.nodup, ?_⟩
    rintro i hi j hj rfl
    exact hs.not_mem_free (List.mem_reverse.mp hi) hj
  · show i ∈ (s.toList.map (·.1.index)).reverse ++ s.free ↔ _
    rw [List.mem_append, List.mem_reverse, mem_indexes, hs.mem_free, Slots.clear, Array.getElem?_map]
    cases s.slots[i]? with
    | none => simp
    | some slot =>
      simp only [Option.some.injEq, exists_eq_left', Option.map_some]
      by_cases hv : slot.value = none
      · simp [hv]
      · simp [hv, Option.isSome_iff_ne_none]

end Slots

end BuildLog
