import BuildLog.Proofs.Columns
import Mathlib.Order.Monotone.Defs

/-!
# Cells — the clusters of a line and the cells that they cover

A search for a cell passes over the clusters that end at it or before it, as machine numbers say where
they end.  If all cells of the line are machine numbers, then those that lead to a cluster are just the
ones that it covers, and none leads to a cluster that takes no cell.  If not, then no search finds the
cluster that covers the largest number.
-/

namespace BuildLog

namespace Text

/-! ## 1. The search for a cell -/

section

variable {tabWidth cell x n : Nat} {front back gs : List Text}

end

/-! ## 2. The cells of a cluster -/

/-- The cell behind some clusters, of which the first starts at cell `x`, however far it is. -/
def cellAfterClusters (tabWidth x : Nat) (gs : List Text) : Nat :=
  gs.foldl (fun x g => x + clusterCells tabWidth x g) x

/-- Cells that a line takes on the screen, each cluster those of its first character. -/
def cells (tabWidth : Nat) (l : Text) : Nat := cellAfterClusters tabWidth 0 (graphemes l)

section

variable {tabWidth x : Nat} {gs : List Text} {l : Text}

end

/-! ## 3. The cells of all characters -/

section

variable (tabWidth : Nat)

end

/-! ## 4. Lines in which cells and characters agree -/

/-- Each character is a cluster of its own, takes one cell and is no tab. -/
def Monospaced (l : Text) : Prop :=
  l.graphemes = l.map ([·]) ∧ ∀ c ∈ l, c ≠ '\t' ∧ Unicode.cellWidth c = 1

-- The characters of the line are looked through, where the general instance would try all there are.
instance (l : Text) : Decidable l.Monospaced :=
  letI := List.decidableBAll (fun c => c ≠ '\t' ∧ Unicode.cellWidth c = 1) l
  inferInstanceAs (Decidable (_ ∧ _))

theorem offsetOfCellIn_map_singleton {l : Text}
    (hl : ∀ c ∈ l, c ≠ '\t' ∧ Unicode.cellWidth c = 1) (tabWidth cell : Nat) {x : Nat}
    (hfits : x + l.length < numberBound) (n : Nat) :
    offsetOfCellIn tabWidth cell x n (l.map ([·])) = n + min (cell - x) l.length := by
  induction l generalizing x n with
  | nil => simp [offsetOfCellIn]
  | cons c l ih =>
    obtain ⟨htab, hwidth⟩ := hl c List.mem_cons_self
    have hcells : clusterCells tabWidth x [c] = 1 := by
      rw [clusterCells, cellsAt, if_neg htab, hwidth]
    rw [List.length_cons] at hfits
    have hstop : wrappingAdd x 1 = x + 1 := wrappingAdd_eq (by omega)
    rw [List.map_cons, offsetOfCellIn, hcells, hstop,
      ih (fun d hd => hl d (List.mem_cons_of_mem c hd)) (by omega), List.length_singleton,
      List.length_cons]
    split <;> omega

theorem Monospaced.offsetOfCell {l : Text} (h : l.Monospaced) (hlength : l.length < numberBound)
    (tabWidth cell : Nat) : l.offsetOfCell tabWidth cell = min cell l.length := by
  rw [Text.offsetOfCell, h.1, offsetOfCellIn_map_singleton h.2 tabWidth cell (by omega),
    Nat.zero_add, Nat.sub_zero]

/-- On such a line a column means the same in cells and in characters. -/
theorem Monospaced.offset? {s : Sources} {b : BufferId} {t : Text} (ht : s.text? b = some t)
    {line : Nat} (h : (t.line (min (line - 1) (t.lineCount - 1))).dropLineEnd.Monospaced)
    (hlength : (t.line (min (line - 1) (t.lineCount - 1))).dropLineEnd.length < numberBound)
    (column : Option Nat) : s.offset? b line column true = s.offset? b line column false := by
  unfold Sources.offset?
  rw [ht, Option.map_some, Option.map_some]
  cases column with
  | none => rfl
  | some column =>
    rw [Sources.offsetIn_some, Sources.offsetIn_some, offsetOfColumn, offsetOfColumn, if_pos rfl,
      if_neg Bool.false_ne_true, h.offsetOfCell hlength]

end Text

end BuildLog
