import BuildLog.Pattern.Footprint
import BuildLog.Pattern.Reader
import BuildLog.Pattern.Search

/-!
# Patterns — regular expressions ready for use
-/

namespace BuildLog

/-- A compiled pattern with the text and the expression it was made from. -/
structure Pattern where
  source : String
  expr : Pattern.Expr
  program : Pattern.Program
deriving Repr

namespace Pattern

/-- The pattern of a text, read with the given flags. -/
def ofString (f : Flags) (source : String) : Except Fault Pattern :=
  match Expr.ofText f source.toList with
  | .error e => .error e
  | .ok e => if Footprint.fits true [e] then .ok ⟨source, e, e.program⟩ else .error .tooLarge

/-- Flags of patterns for the lines of a log: `^` and `$` match at the ends of lines, whether
these end with LF, CR or CR LF. -/
def lineFlags : Flags := { multiLine := true, anyLineEnd := true }

def forLines (source : String) : Except Fault Pattern := ofString lineFlags source

def forText (source : String) : Except Fault Pattern := ofString {} source

/-- Whether one automaton can search for all of some patterns. -/
def fitTogether (ps : List Pattern) : Bool := Footprint.fits false (ps.map (·.expr))

/-- The groups of a pattern, with their names. -/
def groups (p : Pattern) : List (Nat × Option String) := p.expr.groups

/-- Number of groups that a role can refer to, the whole match among them.  Groups that a count of
zero drops count too, unless they come last. -/
def groupCount (p : Pattern) : Nat := p.groups.foldl (fun n g => max n g.1) 0 + 1

def groupNamed? (p : Pattern) (name : String) : Option Nat :=
  (p.groups.find? fun g => g.2 = some name).map (·.1)

/-- The successive matches in a text that do not overlap. -/
def allMatches (p : Pattern) (text : Array Char) : List Match := p.program.allMatches text

def matchesIn (p : Pattern) (text : Array Char) : Bool := (p.program.find? text 0).isSome

end Pattern

end BuildLog
