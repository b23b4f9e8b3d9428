import BuildLog.Pattern.Expr
import BuildLog.Unicode.Word

/-!
# Looking around — when a condition on a place holds
-/

namespace BuildLog.Look

/-- The character before a place, and the one after it. -/
def before? (text : Array Char) (pos : Nat) : Option Char :=
  if pos = 0 then none else text[pos - 1]?

def isAsciiWord (c : Char) : Bool := c.isAlphanum || c = '_'

def wordAt (ascii : Bool) : Option Char → Bool
  | none => false
  | some c => if ascii || c.toNat < 128 then isAsciiWord c else Unicode.isWord c

/-- Whether the condition holds between the characters at `pos - 1` and `pos`. -/
def holds (text : Array Char) (pos : Nat) : Look → Bool
  | .textStart => pos = 0
  | .textEnd => text.size ≤ pos
  | .lineStart => pos = 0 || before? text pos = some '\n'
  | .lineEnd => text.size ≤ pos || text[pos]? = some '\n'
  | .anyLineStart =>
    pos = 0 || before? text pos = some '\n'
      || (before? text pos = some '\r' && text[pos]? ≠ some '\n')
  | .anyLineEnd =>
    text.size ≤ pos || text[pos]? = some '\r'
      || (text[pos]? = some '\n' && before? text pos ≠ some '\r')
  | .wordBoundary ascii => wordAt ascii (before? text pos) != wordAt ascii text[pos]?
  | .notWordBoundary ascii => wordAt ascii (before? text pos) == wordAt ascii text[pos]?
  | .wordStart ascii => !wordAt ascii (before? text pos) && wordAt ascii text[pos]?
  | .wordEnd ascii => wordAt ascii (before? text pos) && !wordAt ascii text[pos]?
  | .wordStartHalf ascii => !wordAt ascii (before? text pos)
  | .wordEndHalf ascii => !wordAt ascii text[pos]?

end BuildLog.Look
