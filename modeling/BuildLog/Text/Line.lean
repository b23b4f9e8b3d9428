import BuildLog.Text.Basic

/-!
# Lines — the line breaks of an editor

Source files and transcripts break lines at LF, CR, CR LF, VT, FF, NEL and the line and paragraph
separators.  A line owns its break, and a carriage return with a line feed right after it is one
break, so an offset between the two belongs to the line that they end.
-/

namespace BuildLog.Text

/-- Whether a line ends with `c`, given the characters that follow it. -/
def endsLine (c : Char) (following : Text) : Bool :=
  if c = '\r' then following.head? != some '\n'
  else ['\n', '\x0b', '\x0c', '\u0085', '\u2028', '\u2029'].contains c

/-- Offsets at which a line begins, the first line apart; `t` begins at offset `pos`. -/
def laterLineStarts (pos : Nat) : (t : Text) → List Nat
  | [] => []
  | c :: t =>
    if endsLine c t then (pos + 1) :: laterLineStarts (pos + 1) t
    else laterLineStarts (pos + 1) t

/-- Offsets at which the lines of the text begin, in order. -/
def lineStarts (t : Text) : List Nat := 0 :: laterLineStarts 0 t

def lineCount (t : Text) : Nat := (lineStarts t).length

/-- Offset at which line `k` begins, counting from 0; the end of the text for a line too many. -/
def lineStart (t : Text) (k : Nat) : Nat := (lineStarts t)[k]?.getD t.length

/-- The line, counting from 0, that holds `offset`. -/
def lineAt (t : Text) (offset : Nat) : Nat :=
  ((lineStarts t).takeWhile (· ≤ offset)).length - 1

/-- Line `k` with its break. -/
def line (t : Text) (k : Nat) : Text := slice t (lineStart t k) (lineStart t (k + 1))

/-- The text with every CR LF as a single LF. -/
def unifyLineEnds : Text → Text
  | '\r' :: '\n' :: t => '\n' :: unifyLineEnds t
  | c :: t => c :: unifyLineEnds t
  | [] => []

/-- The text without the line feeds and carriage returns at its end. -/
def dropLineEnd (t : Text) : Text :=
  (t.reverse.dropWhile fun c => c = '\n' || c = '\r').reverse

theorem length_lineStarts_pos (t : Text) : 0 < (lineStarts t).length := by
  simp [lineStarts]

example : lineStarts "a\r\nb\rc".toList = [0, 3, 5] := by decide
example : lineAt "a\r\nb".toList 2 = 0 := by decide
example : lineCount "a\n".toList = 2 := by decide

end BuildLog.Text
