import BuildLog.Unicode.Letter
import BuildLog.Unicode.Decimal

/-!
# Word characters — letters, marks, decimal digits, connectors
-/

namespace BuildLog.Unicode

/-- The characters that join their neighbours or keep them apart, and are not seen. -/
def joinControl : CharSet := .ofRange 0x200C 0x200D

/-- Alphabetic characters, marks, decimal digits, connector punctuation and the join controls. -/
def word : CharSet :=
  .unions [alphabetic, charsOf Category.marks, decimal, Category.chars .connectorPunctuation,
    joinControl]

def isWord (c : Char) : Bool := word.contains c

end BuildLog.Unicode
