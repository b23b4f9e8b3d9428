/-!
# Character sets — ascending ranges of code points

A set of characters is kept as inclusive ranges of code points, in ascending order, with a gap
between any two of them.  Membership looks no further than the first range that ends at or after
the character, so it is quick for the low code points that most texts consist of.
-/

namespace BuildLog

/-- Inclusive ranges of code points, ascending and apart from one another. -/
structure CharSet where
  ranges : List (Nat × Nat)
deriving Repr, DecidableEq

namespace CharSet

/-! ## 1. Membership -/

/-- Whether `n` lies in one of the ascending ranges `rs`. -/
def covers : List (Nat × Nat) → Nat → Bool
  | [], _ => false
  | (lo, hi) :: rs, n => if n < lo then false else if n ≤ hi then true else covers rs n

def contains (s : CharSet) (c : Char) : Bool := covers s.ranges c.toNat

def none : CharSet := ⟨[]⟩

def all : CharSet := ⟨[(0, 0x10FFFF)]⟩

def ofRange (lo hi : Nat) : CharSet := ⟨[(lo, hi)]⟩

def singleton (c : Char) : CharSet := ofRange c.toNat c.toNat

@[simp] theorem contains_none (c : Char) : none.contains c = false := rfl

theorem contains_ofRange (lo hi : Nat) (c : Char) :
    (ofRange lo hi).contains c = decide (lo ≤ c.toNat ∧ c.toNat ≤ hi) := by
  simp only [contains, ofRange, covers]
  by_cases h₁ : c.toNat < lo
  · simp [h₁, Nat.not_le_of_lt h₁]
  · simp [h₁, Nat.le_of_not_lt h₁]

/-! ## 2. Set operations -/

/-- The range `r` and those that follow it, with those that touch or overlap made one.  They are in
the order of their starts. -/
def coalesceFrom (r : Nat × Nat) : List (Nat × Nat) → List (Nat × Nat)
  | [] => [r]
  | s :: rs => if s.1 ≤ r.2 + 1 then coalesceFrom (r.1, max r.2 s.2) rs else r :: coalesceFrom s rs

/-- Ranges in the order of their starts, with those that touch or overlap made one. -/
def coalesce : List (Nat × Nat) → List (Nat × Nat)
  | [] => []
  | r :: rs => coalesceFrom r rs

/-- Puts the ranges that begin before `r` before it; `rest` says what becomes of the others. -/
def mergeInto (r : Nat × Nat) (rest : List (Nat × Nat) → List (Nat × Nat)) :
    List (Nat × Nat) → List (Nat × Nat)
  | [] => r :: rest []
  | s :: ss => if r.1 ≤ s.1 then r :: rest (s :: ss) else s :: mergeInto r rest ss

/-- The ranges of two lists in the order of their starts. -/
def merge (rs ss : List (Nat × Nat)) : List (Nat × Nat) := rs.foldr mergeInto id ss

/-- The set of the characters in any of the given ranges, in any order; empty ranges add nothing. -/
def ofRanges (rs : List (Nat × Nat)) : CharSet :=
  ⟨coalesce ((rs.filter fun r => r.1 ≤ r.2).foldr (fun r => merge [r]) [])⟩

def union (s t : CharSet) : CharSet := ⟨coalesce (merge s.ranges t.ranges)⟩

def unions (ss : List CharSet) : CharSet := ss.foldr union none

/-- The code points from `start` on that the ascending ranges leave out. -/
def gaps (start : Nat) : List (Nat × Nat) → List (Nat × Nat)
  | [] => if start ≤ 0x10FFFF then [(start, 0x10FFFF)] else []
  | (lo, hi) :: rs =>
    if start < lo then (start, lo - 1) :: gaps (hi + 1) rs else gaps (hi + 1) rs

def complement (s : CharSet) : CharSet := ⟨gaps 0 s.ranges⟩

def inter (s t : CharSet) : CharSet := (s.complement.union t.complement).complement

def diff (s t : CharSet) : CharSet := s.inter t.complement

/-- The characters in exactly one of two sets. -/
def symmDiff (s t : CharSet) : CharSet := (s.diff t).union (t.diff s)

def isAscii (s : CharSet) : Bool := s.ranges.all fun r => r.2 < 128

end CharSet

end BuildLog
