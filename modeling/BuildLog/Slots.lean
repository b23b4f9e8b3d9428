/-!
# Slots — a store whose handles go stale

A value put into the store gets a handle.  Taking the value out frees its slot for another value,
and raises the slot's generation, so that the old handle does not stand for the new value.
-/

namespace BuildLog

/-- A slot, and the generation of it that the handle is for. -/
structure Handle where
  index : Nat
  generation : UInt32
deriving Repr, DecidableEq

structure Slot (α : Type) where
  /-- Number of values taken out of it. -/
  removals : Nat
  value : Option α
deriving Repr

/-- The generation that counts: it begins anew after 2 ^ 32 removals. -/
def Slot.generation {α : Type} (s : Slot α) : UInt32 := .ofNat s.removals

/-- The slots in order, and the empty ones, the one to be filled next first. -/
structure Slots (α : Type) where
  slots : Array (Slot α) := #[]
  free : List Nat := []
deriving Repr

namespace Slots

variable {α : Type}

def empty : Slots α := {}

/-- The slot of a handle, if the handle is not stale. -/
def slot? (s : Slots α) (h : Handle) : Option (Slot α) :=
  s.slots[h.index]?.filter (·.generation = h.generation)

def get? (s : Slots α) (h : Handle) : Option α := (s.slot? h).bind (·.value)

def contains (s : Slots α) (h : Handle) : Bool := (s.get? h).isSome

/-- Puts a value into the slot freed last, or into a new one. -/
def insert (s : Slots α) (a : α) : Handle × Slots α :=
  match s.free with
  | [] => (⟨s.slots.size, 0⟩, { s with slots := s.slots.push ⟨0, some a⟩ })
  | i :: free =>
    let slot : Slot α := ⟨(s.slots[i]?.map (·.removals)).getD 0, some a⟩
    (⟨i, slot.generation⟩, { slots := s.slots.setIfInBounds i slot, free })

/-- Changes the value of a handle that is not stale. -/
def modify (s : Slots α) (h : Handle) (f : α → α) : Slots α :=
  match s.slot? h with
  | none => s
  | some slot =>
    { s with slots := s.slots.setIfInBounds h.index { slot with value := slot.value.map f } }

/-- Takes out the value of a handle. -/
def remove (s : Slots α) (h : Handle) : Option α × Slots α :=
  match s.slot? h with
  | some ⟨removals, some a⟩ =>
    (some a,
      { slots := s.slots.setIfInBounds h.index ⟨removals + 1, none⟩
        free := h.index :: s.free })
  | _ => (none, s)

/-- Number of values. -/
def size (s : Slots α) : Nat := s.slots.size - s.free.length

/-- The values of some slots, which begin at `index`, with their handles. -/
def entriesFrom (index : Nat) : List (Slot α) → List (Handle × α)
  | [] => []
  | slot :: rest =>
    match slot.value with
    | some a => (⟨index, slot.generation⟩, a) :: entriesFrom (index + 1) rest
    | none => entriesFrom (index + 1) rest

/-- The values with their handles, in the order of the slots. -/
def toList (s : Slots α) : List (Handle × α) := entriesFrom 0 s.slots.toList

/-- Takes out every value, in the order of the slots. -/
def clear (s : Slots α) : Slots α where
  slots := s.slots.map fun slot =>
    if slot.value.isSome then ⟨slot.removals + 1, none⟩ else slot
  free := (s.toList.map (·.1.index)).reverse ++ s.free

end Slots

end BuildLog
