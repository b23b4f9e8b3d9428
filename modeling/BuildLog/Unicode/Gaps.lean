import BuildLog.Unicode.CharSet

/-!
# Gap tables — a character set as numbers of code points to skip and to take

The larger tables are written as text: the code points skipped and the code points taken, in turn,
as decimal numbers between blanks.
-/

namespace BuildLog.Unicode

/-- The decimal numbers of `cs`; `current` is the one being read. -/
def numbers (current : Option Nat) : List Char → List Nat
  | [] => current.toList
  | c :: cs =>
    if c.isDigit then numbers (some (current.getD 0 * 10 + (c.toNat - '0'.toNat))) cs
    else current.toList ++ numbers none cs

/-- The ranges that skip and take the given numbers of code points in turn, from `pos` on. -/
def rangesOfGaps (pos : Nat) : List Nat → List (Nat × Nat)
  | skip :: take :: rest =>
    (pos + skip, pos + skip + take - 1) :: rangesOfGaps (pos + skip + take) rest
  | _ => []

/-- The set that a gap table describes. -/
def ofGaps (table : String) : CharSet := ⟨rangesOfGaps 0 (numbers none table.toList)⟩

example : ofGaps "48 10 7 26" = ⟨[(48, 57), (65, 90)]⟩ := by decide

end BuildLog.Unicode
