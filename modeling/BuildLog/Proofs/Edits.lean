import BuildLog.Text.Basic

/-!
# Edits — text that is put in and text that is taken out

An edit does the same to the characters of a text and to anything else that is listed in their
order.  A character that is not deleted is moved.
-/

namespace BuildLog

/-- An edit of a text. -/
inductive Edit
  | insert (offset : Nat) (t : Text)
  | delete (span : Span)

namespace Edit

/-- Where the character at an offset is after an edit, unless it was deleted. -/
def move : Edit → Nat → Nat
  | .insert offset t, i => if offset ≤ i then i + t.length else i
  | .delete span, i => if span.stop ≤ i then i - (span.stop - span.start) else i

/-- The character at an offset is deleted by an edit. -/
def Deletes : Edit → Nat → Prop
  | .insert _ _, _ => False
  | .delete span, i => span.start ≤ i ∧ i < span.stop

/-- What an edit makes of a list that has an item for each character of a text, where `f` gives the
items of characters that are put in.  What lies past the end of the list means its end. -/
def onList {α : Type} (f : Char → α) (xs : List α) : Edit → List α
  | .insert offset t =>
    let offset := min offset xs.length
    xs.take offset ++ t.map f ++ xs.drop offset
  | .delete span =>
    let start := min span.start xs.length
    xs.take start ++ xs.drop (max start (min span.stop xs.length))

section

variable {α β : Type} {f : Char → α} {xs : List α} {i : Nat}

theorem onList_insert (offset : Nat) (t : Text) : (Edit.insert offset t).onList f xs
    = xs.take (min offset xs.length) ++ t.map f ++ xs.drop (min offset xs.length) := rfl

theorem onList_delete (span : Span) : (Edit.delete span).onList f xs
    = xs.take (min span.start xs.length)
      ++ xs.drop (max (min span.start xs.length) (min span.stop xs.length)) := rfl

/-- What the items are does not matter for where they go. -/
theorem map_onList (g : α → β) (f : Char → α) (xs : List α) (e : Edit) :
    (e.onList f xs).map g = e.onList (g ∘ f) (xs.map g) := by
  cases e with
  | insert offset t =>
    simp only [onList_insert, List.length_map, List.map_append, List.map_take, List.map_drop,
      List.map_map]
  | delete span =>
    simp only [onList_delete, List.length_map, List.map_append, List.map_take, List.map_drop]

/-- An item that is not deleted is moved. -/
theorem getElem?_onList_move {e : Edit} (hi : i < xs.length) (hkept : ¬ e.Deletes i) :
    (e.onList f xs)[e.move i]? = xs[i]? := by
  cases e with
  | insert offset t =>
    rw [onList_insert, List.append_assoc, move]
    by_cases hle : offset ≤ i
    · -- behind the place where text is put in
      rw [if_pos hle, Nat.min_eq_left (by omega), List.getElem?_append_right, List.length_take,
        List.getElem?_append_right, List.length_map, List.getElem?_drop]
      · congr 1
        omega
      · rw [List.length_map]
        omega
      · rw [List.length_take]
        omega
    · rw [if_neg hle, List.getElem?_append_left, List.getElem?_take_of_lt (by omega)]
      rw [List.length_take]
      omega
  | delete span =>
    have hout : i < span.start ∨ span.stop ≤ i := by
      simp only [Deletes, not_and, Nat.not_lt] at hkept
      omega
    rw [onList_delete, move]
    by_cases hlt : i < min span.start xs.length
    · have hmove : (if span.stop ≤ i then i - (span.stop - span.start) else i) = i := by
        split <;> omega
      rw [hmove, List.getElem?_append_left, List.getElem?_take_of_lt hlt]
      rw [List.length_take]
      omega
    · rw [if_pos (by omega), List.getElem?_append_right, List.length_take, List.getElem?_drop]
      · congr 1
        omega
      · rw [List.length_take]
        omega

theorem getElem?_onList_insert {offset k : Nat} {t : Text} (hk : k < t.length) :
    ((Edit.insert offset t).onList f xs)[min offset xs.length + k]? = t[k]?.map f := by
  rw [onList_insert, List.append_assoc, List.getElem?_append_right, List.length_take,
    List.getElem?_append_left, List.getElem?_map]
  · congr 2
    omega
  · rw [List.length_map]
    omega
  · rw [List.length_take]
    omega

theorem length_onList_insert (offset : Nat) (t : Text) :
    ((Edit.insert offset t).onList f xs).length = xs.length + t.length := by
  rw [onList_insert, List.length_append, List.length_append, List.length_take, List.length_map,
    List.length_drop]
  omega

theorem length_onList_delete (span : Span) :
    ((Edit.delete span).onList f xs).length = xs.length
      - (max (min span.start xs.length) (min span.stop xs.length) - min span.start xs.length) := by
  rw [onList_delete, List.length_append, List.length_take, List.length_drop]
  omega

/-- To take out what was put in gives the list back. -/
theorem onList_delete_insert (f g : Char → α) (xs : List α) (offset : Nat) (t : Text) :
    (Edit.delete ⟨min offset xs.length, min offset xs.length + t.length⟩).onList g
      ((Edit.insert offset t).onList f xs) = xs := by
  have hlen : min offset xs.length + t.length ≤ ((Edit.insert offset t).onList f xs).length := by
    rw [length_onList_insert]
    omega
  have htake : (xs.take (min offset xs.length) ++ t.map f).length
      = min offset xs.length + t.length := by
    rw [List.length_append, List.length_take, List.length_map]
    omega
  rw [onList_delete]
  dsimp only
  rw [Nat.min_eq_left hlen, Nat.min_eq_left (by omega), Nat.max_eq_right (by omega), onList_insert,
    List.drop_left' htake, List.append_assoc, List.take_left', List.take_append_drop]
  rw [List.length_take]
  omega

end

end Edit

end BuildLog
