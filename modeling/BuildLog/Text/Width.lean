import BuildLog.Unicode.CellWidth
import BuildLog.Text.Grapheme

/-!
# Screen columns — terminal cells of a line

Many tools report columns as terminal cells: a tab advances to the next tab stop, and East Asian
wide characters take two cells.  Tab stops may be as far apart as machine numbers go.  The width of a
text stops at the largest number; the search for a cell does not, and cells beyond it wrap around.
-/

namespace BuildLog.Text

/-- Distance of tab stops where nothing else is said. -/
def defaultTabWidth : Nat := 8

/-- Cells taken by `c` when it starts at cell `x` of its line. -/
def cellsAt (tabWidth x : Nat) (c : Char) : Nat :=
  if c = '\t' then max tabWidth 1 - x % max tabWidth 1 else Unicode.cellWidth c

/-- The cell after `t`, when it starts at cell `x`, or the largest number if it is not so large. -/
def cellAfter (tabWidth x : Nat) (t : Text) : Nat :=
  t.foldl (fun x c => min (x + cellsAt tabWidth x c) (numberBound - 1)) x

/-- Cells taken by a text that starts a line. -/
def width (tabWidth : Nat) (t : Text) : Nat := cellAfter tabWidth 0 t

/-- Cells of a cluster that starts at cell `x`: those of its first character. -/
def clusterCells (tabWidth x : Nat) (g : Text) : Nat :=
  match g with
  | [] => 0
  | c :: _ => cellsAt tabWidth x c

/-- Offset, among the clusters `gs` that start at cell `x` and offset `n`, of the cluster that
covers `cell`; the end of the clusters if none does. -/
def offsetOfCellIn (tabWidth cell : Nat) (x n : Nat) : List Text → Nat
  | [] => n
  | g :: gs =>
    let stop := wrappingAdd x (clusterCells tabWidth x g)
    if cell < stop then n else offsetOfCellIn tabWidth cell stop (n + g.length) gs

/-- Offset in a line of the cluster that covers screen cell `cell`, counting from 0; a cell past
the end of the line means the line's end. -/
def offsetOfCell (tabWidth : Nat) (line : Text) (cell : Nat) : Nat :=
  offsetOfCellIn tabWidth cell 0 0 (graphemes line)

theorem cellsAt_tab_pos (tabWidth x : Nat) : 0 < cellsAt tabWidth x '\t' := by
  have : x % max tabWidth 1 < max tabWidth 1 := Nat.mod_lt _ (by omega)
  simp only [cellsAt, if_true]
  omega

example : width 8 "ab\t".toList = 8 := by decide
example : offsetOfCell 8 "\tx".toList 5 = 0 := by decide +kernel
example : offsetOfCell 8 "\tx".toList 8 = 1 := by decide +kernel

end BuildLog.Text
