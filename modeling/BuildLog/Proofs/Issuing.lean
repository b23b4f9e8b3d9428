import BuildLog.Proofs.Handles
import Mathlib.Data.List.Induction

/-!
# Issuing — what a handle stands for while its store is used

A handle is given out for one value, and finds this value until it is taken out.  Then its slot may be
filled again, but under another handle, and the old one finds nothing any more.
-/

namespace BuildLog.Slots

variable {α : Type}

/-! ## 1. Uses of a store -/

/-- What is done to a store. -/
inductive Use (α : Type)
  | insert (a : α)
  | remove (h : Handle)
  | clear

/-- Whether a use takes out the value of a handle. -/
def Use.takes (h : Handle) : Use α → Bool
  | .insert _ => false
  | .remove k => k = h
  | .clear => true

def use (s : Slots α) : Use α → Slots α
  | .insert a => (s.insert a).2
  | .remove h => (s.remove h).2
  | .clear => s.clear

def useAll (s : Slots α) (us : List (Use α)) : Slots α := us.foldl use s

/-- The number of values after a use, counted on from `n`. -/
def countUse (s : Slots α) (n : Nat) : Use α → Nat
  | .insert _ => n + 1
  | .remove h => if s.contains h then n - 1 else n
  | .clear => 0

/-- The number of values that is counted along while the uses go on. -/
def countAll (s : Slots α) (n : Nat) : List (Use α) → Nat
  | [] => n
  | u :: us => (s.use u).countAll (s.countUse n u) us

/-- The handle that a value is put in under, after some uses of a new store. -/
def handleAfter (us : List (Use α)) (a : α) : Handle := ((empty.useAll us).insert a).1

theorem useAll_append (s : Slots α) (us vs : List (Use α)) :
    s.useAll (us ++ vs) = (s.useAll us).useAll vs := List.foldl_append

/-! ## 2. One use -/

section

variable {s : Slots α} (hs : s.Neat) (u : Use α) {h : Handle} {a : α}
include hs

theorem Neat.use : (s.use u).Neat := by
  cases u with
  | insert a => exact hs.insert a
  | remove h => exact hs.remove h
  | clear => exact hs.clear

theorem Neat.grows_use : s.Grows (s.use u) := by
  cases u with
  | insert a => exact grows_insert hs a
  | remove h => exact grows_remove s h
  | clear => exact grows_clear s

/-- The count that is kept along the way is the size. -/
theorem Neat.countUse_size : s.countUse s.size u = (s.use u).size := by
  cases u with
  | insert a =>
    have hlength := hs.indexes_perm.length_eq
    rw [List.length_append, List.length_map, List.length_range] at hlength
    show s.size + 1 = (s.insert a).2.size
    unfold size Slots.insert
    cases hfree : s.free with
    | nil => simp
    | cons i free =>
      rw [hfree, List.length_cons] at hlength
      simp only [Array.size_setIfInBounds, List.length_cons]
      omega
  | remove h =>
    show (if (s.get? h).isSome then s.size - 1 else s.size) = (s.remove h).2.size
    cases ha : s.get? h with
    | none =>
      rw [remove_of_none ha]
      rfl
    | some a =>
      obtain ⟨⟨r, v⟩, hi, hg, rfl⟩ := get?_eq_some.mp ha
      unfold size Slots.remove
      rw [slot?_eq_some.mpr ⟨hi, hg⟩, Option.isSome_some, if_pos rfl]
      simp only [Array.size_setIfInBounds, List.length_cons]
      omega
  | clear =>
    have hnil : s.clear.toList = [] := by
      refine List.eq_nil_iff_forall_not_mem.mpr fun e he => ?_
      have hfound := mem_toList.mp (show (e.1, e.2) ∈ s.clear.toList from he)
      rw [get?_clear] at hfound
      cases hfound
    show 0 = s.clear.size
    rw [hs.clear.size_eq, hnil]
    rfl

/-- A value is found until a use takes it out. -/
theorem Neat.get?_use_of_some (ha : s.get? h = some a) :
    (s.use u).get? h = if u.takes h then none else some a := by
  cases u with
  | insert b =>
    have hne : h ≠ (s.insert b).1 := by
      rintro rfl
      rw [get?_fst_insert hs] at ha
      cases ha
    show (s.insert b).2.get? h = some a
    rw [get?_insert hs, if_neg hne, ha]
  | remove k =>
    show (s.remove k).2.get? h = if decide (k = h) then none else some a
    rw [get?_remove, ha]
    simp only [decide_eq_true_iff, eq_comm (a := k)]
  | clear => exact get?_clear s h

/-- A handle that finds nothing any more is not given out again. -/
theorem Neat.get?_use_of_none (hfew : (s.use u).Few) (hi : s.Issued h) (hn : s.get? h = none) :
    (s.use u).get? h = none := by
  cases u with
  | insert b =>
    have hne : h ≠ (s.insert b).1 := by
      rintro rfl
      exact not_issued_insert hs (hfew.of_grows (grows_insert hs b)) b hi
    show (s.insert b).2.get? h = none
    rw [get?_insert hs, if_neg hne, hn]
  | remove k =>
    show (s.remove k).2.get? h = none
    rw [get?_remove, hn, ite_self]
  | clear => exact get?_clear s h

end

/-! ## 3. Runs -/

section

variable {s : Slots α} {h : Handle} {a : α}

theorem Neat.useAll (hs : s.Neat) (us : List (Use α)) : (s.useAll us).Neat := by
  induction us generalizing s with
  | nil => exact hs
  | cons u us ih => exact ih (hs.use u)

theorem Neat.grows_useAll (hs : s.Neat) (us : List (Use α)) : s.Grows (s.useAll us) := by
  induction us generalizing s with
  | nil => exact .refl s
  | cons u us ih => exact (hs.grows_use u).trans (ih (hs.use u))

theorem Neat.countAll_size (hs : s.Neat) (us : List (Use α)) :
    s.countAll s.size us = (s.useAll us).size := by
  induction us generalizing s with
  | nil => rfl
  | cons u us ih =>
    rw [countAll, hs.countUse_size]
    exact ih (hs.use u)

theorem Neat.get?_useAll_of_none (hs : s.Neat) (us : List (Use α)) (hfew : (s.useAll us).Few)
    (hi : s.Issued h) (hn : s.get? h = none) : (s.useAll us).get? h = none := by
  induction us generalizing s with
  | nil => exact hn
  | cons u us ih =>
    have hfew' : (s.use u).Few := hfew.of_grows ((hs.use u).grows_useAll us)
    exact ih (hs.use u) hfew (hi.grows (hs.grows_use u)) (hs.get?_use_of_none u hfew' hi hn)

/-- A value is found until one of the uses takes it out, and not after that. -/
theorem Neat.get?_useAll_of_some (hs : s.Neat) (us : List (Use α)) (hfew : (s.useAll us).Few)
    (ha : s.get? h = some a) :
    (s.useAll us).get? h = if us.any (·.takes h) then none else some a := by
  induction us generalizing s with
  | nil => exact ha
  | cons u us ih =>
    have hnext := hs.get?_use_of_some u ha
    rw [List.any_cons]
    cases htakes : u.takes h with
    | true =>
      rw [htakes, if_pos rfl] at hnext
      have hi := (issued_of_get? ha).grows (hs.grows_use u)
      exact (hs.use u).get?_useAll_of_none us hfew hi hnext
    | false =>
      rw [htakes, if_neg Bool.false_ne_true] at hnext
      rw [Bool.false_or]
      exact ih (hs.use u) hfew hnext

end

theorem neat_useAll (us : List (Use α)) : (empty.useAll us).Neat := Neat.useAll neat_empty us

/-- What is found was put in. -/
theorem exists_insert_of_get? {us : List (Use α)} {h : Handle} {a : α}
    (ha : (empty.useAll us).get? h = some a) :
    ∃ before after, us = before ++ .insert a :: after ∧ h = handleAfter before a := by
  -- from the last use: it put the value in, or the value was found before it
  induction us using List.reverseRecOn with
  | nil => exact absurd ha (by simp [useAll, get?, slot?, empty])
  | append_singleton us u ih =>
    have hbefore : (empty.useAll us).get? h = some a → ∃ before after,
        us ++ [u] = before ++ .insert a :: after ∧ h = handleAfter before a := by
      intro ha
      obtain ⟨before, after, rfl, hh⟩ := ih ha
      exact ⟨before, after ++ [u], by simp, hh⟩
    rw [useAll_append] at ha
    cases u with
    | insert b =>
      change ((empty.useAll us).insert b).2.get? h = some a at ha
      rw [get?_insert (neat_useAll us)] at ha
      split at ha
      · cases ha
        exact ⟨us, [], rfl, ‹_›⟩
      · exact hbefore ha
    | remove k =>
      change ((empty.useAll us).remove k).2.get? h = some a at ha
      rw [get?_remove] at ha
      split at ha
      · cases ha
      · exact hbefore ha
    | clear =>
      change (empty.useAll us).clear.get? h = some a at ha
      rw [get?_clear] at ha
      cases ha

/-- No two values are put in under one handle. -/
theorem handleAfter_ne {before between : List (Use α)} {a b : α}
    (hfew : (empty.useAll (before ++ .insert a :: between)).Few) :
    handleAfter before a ≠ handleAfter (before ++ .insert a :: between) b := by
  intro heq
  have hs := neat_useAll before
  have hissued : (empty.useAll (before ++ .insert a :: between)).Issued (handleAfter before a) := by
    rw [useAll_append]
    exact (issued_of_get? (get?_insert_self hs a)).grows ((hs.insert a).grows_useAll between)
  rw [heq] at hissued
  exact not_issued_insert (neat_useAll _) hfew b hissued

/-- Whatever is done to a store, a handle finds the value that it was given out for until this is
taken out, and nothing from then on; nothing else is found, and no two values have one handle.  The
slots to be filled are the empty ones, each once.  The store lists each of its values once, in the
order of the slots, under the handle that finds it, and its size is their number, as is a count that is
kept along the way.  No slot may be emptied so often that its generations begin anew. -/
theorem get?_useAll (us : List (Use α)) :
    let s := empty.useAll us
    s.Few →
      (∀ before a after, us = before ++ .insert a :: after →
          s.get? (handleAfter before a)
            = if after.any (·.takes (handleAfter before a)) then none else some a)
        ∧ (∀ h a, s.get? h = some a →
          ∃ before after, us = before ++ .insert a :: after ∧ h = handleAfter before a)
        ∧ (∀ before a between b after,
          us = before ++ .insert a :: (between ++ .insert b :: after) →
          handleAfter before a ≠ handleAfter (before ++ .insert a :: between) b)
        ∧ s.free.Nodup
        ∧ (∀ i, i ∈ s.free ↔ ∃ slot, s.slots[i]? = some slot ∧ slot.value = none)
        ∧ empty.countAll 0 us = s.toList.length
        ∧ s.size = s.toList.length
        ∧ (s.toList.Pairwise fun e f => e.1.index < f.1.index)
        ∧ ∀ h a, (h, a) ∈ s.toList ↔ s.get? h = some a := by
  intro s hfew
  have hs : s.Neat := neat_useAll us
  refine ⟨fun before a after heq => ?_, fun h a ha => exists_insert_of_get? ha,
    fun before a between b after heq => ?_, hs.nodup, hs.mem_free,
    (neat_empty.countAll_size us).trans hs.size_eq, hs.size_eq, pairwise_entriesFrom 0 _,
    fun h a => mem_toList⟩
  · have hs' := neat_useAll before
    have hrun : s = ((empty.useAll before).insert a).2.useAll after := by
      show empty.useAll us = _
      rw [heq, useAll_append]
      rfl
    rw [hrun] at hfew ⊢
    exact (hs'.insert a).get?_useAll_of_some after hfew (get?_insert_self hs' a)
  · have hrun : s = (empty.useAll (before ++ .insert a :: between)).useAll (.insert b :: after) := by
      show empty.useAll us = _
      rw [heq, ← useAll_append, List.append_assoc]
      rfl
    rw [hrun] at hfew
    exact handleAfter_ne (hfew.of_grows ((neat_useAll _).grows_useAll _))

/-- A slot is filled three times, and its first two handles find nothing any more. -/
theorem get?_useAll_reused :
    let us : List (Use Char) :=
      [.insert 'a', .insert 'b', .remove ⟨0, 0⟩, .insert 'c', .clear, .insert 'd', .insert 'e']
    let s := empty.useAll us
    s.Few ∧ s.get? ⟨0, 0⟩ = none ∧ s.get? ⟨0, 1⟩ = none
      ∧ s.size = 2 ∧ s.toList = [(⟨0, 2⟩, 'e'), (⟨1, 1⟩, 'd')] := by
  intro us s
  have hfew : s.Few := by decide +kernel
  have hlist : s.toList = [(⟨0, 2⟩, 'e'), (⟨1, 1⟩, 'd')] := by decide +kernel
  obtain ⟨hfinds, -, -, -, -, -, hsize, -⟩ := get?_useAll us hfew
  have hfirst := hfinds [] 'a' _ rfl
  have hsecond := hfinds [.insert 'a', .insert 'b', .remove ⟨0, 0⟩] 'c' _ rfl
  exact ⟨hfew, hfirst, hsecond, hsize.trans (congrArg List.length hlist), hlist⟩

end BuildLog.Slots
