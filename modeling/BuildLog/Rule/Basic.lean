import BuildLog.Pattern.Basic
import BuildLog.Text.Width
import BuildLog.Severity

/-!
# Rules — the grammar of one tool's messages

A rule is a pattern and a map from the roles of a message — file, line, column, severity, link,
highlights — to groups of the pattern.
-/

namespace BuildLog

/-! ## 1. Roles -/

/-- How a role of a message is taken from a match. -/
inductive Role
  /-- The text of a group. -/
  | group (index : Nat)
  /-- The text of a group, and that of another for the end of a range. -/
  | range (start stop : Nat)
  /-- One more than the screen width of a group, for tools that print a caret below a line. -/
  | widthOf (index : Nat)
  /-- The text of the first of some groups that took part. -/
  | firstOf (indices : List Nat)
deriving Repr, DecidableEq

def Role.groups : Role → List Nat
  | .group g => [g]
  | .range a b => [a, b]
  | .widthOf g => [g]
  | .firstOf gs => gs

inductive SeverityRole
  /-- All matches are alike. -/
  | fixed (severity : Severity)
  /-- A warning if the one group took part, else information if the other did, else an error. -/
  | byGroup (warning info : Option Nat)
deriving Repr, DecidableEq

def SeverityRole.groups : SeverityRole → List Nat
  | .fixed _ => []
  | .byGroup warning info => warning.toList ++ info.toList

structure HighlightRole where
  group : Nat
  face : String
deriving Repr, DecidableEq

/-- What a role comes to: text as the tool wrote it, or a number that counts from one. -/
inductive RoleValue
  | text (t : Text)
  | number (n : Nat)
deriving Repr, DecidableEq

/-- What a match says of each group that took part: where it was found, and its text.  Group 0 is
the whole match. -/
structure Found where
  group : Nat → Option Span
  groupText : Nat → Option Text

/-- What a match in a text says. -/
def Found.ofMatch (input : Array Char) (m : Pattern.Match) : Found where
  group := m.group
  groupText i := (m.group i).map fun s => (input.extract s.start s.stop).toList

/-- The value of a role, or of the start of its range. -/
def Role.primary (f : Found) : Role → Option RoleValue
  | .group g | .range g _ => (f.groupText g).map .text
  | .widthOf g => (f.groupText g).map fun t => .number (Text.width Text.defaultTabWidth t + 1)
  | .firstOf gs => (gs.findSome? f.groupText).map .text

/-- The value of the end of a role's range. -/
def Role.secondary (f : Found) : Role → Option RoleValue
  | .range _ g => (f.groupText g).map .text
  | _ => none

def SeverityRole.resolve (f : Found) : SeverityRole → Severity
  | .fixed s => s
  | .byGroup warning info =>
    if warning.any fun g => (f.group g).isSome then .warning
    else if info.any fun g => (f.group g).isSome then .info
    else .error

/-! ## 2. Rules -/

structure Rule where
  name : String
  pattern : Pattern
  file : Option Role := none
  line : Option Role := none
  column : Option Role := none
  severity : SeverityRole := .fixed .error
  /-- The group that is the link; the whole match if there is none. -/
  hyperlink : Option Nat := none
  highlights : List HighlightRole := []
  /-- Spellings tried for a file name, in order; a name as it is if there are none. -/
  formats : List String := []
  /-- Whether a match says that its file has changed. -/
  flushes : Bool := false
  /-- The most lines that a match may touch. -/
  lines : Nat := 1
deriving Repr

/-- Why a table of rules cannot be built. -/
inductive RuleError
  /-- A role refers to a group that the pattern does not have. -/
  | malformed (rule : String) (group available : Nat)
  | badPattern (rule : String) (fault : Pattern.Fault)
  | unknown (rule : String)
  | duplicate (rule : String)
  /-- A spelling has no place for the file name. -/
  | badFormat (rule format : String)
  /-- A rule document cannot be read. -/
  | document
deriving Repr, DecidableEq

def RuleError.message : RuleError → String
  | .malformed rule group available =>
    "rule '" ++ rule ++ "' references capture group " ++ toString group
      ++ ", but its pattern has only " ++ toString available
  | .badPattern rule fault => "rule '" ++ rule ++ "' has an invalid pattern: " ++ fault.message
  | .unknown rule => "unknown rule '" ++ rule ++ "'"
  | .duplicate rule => "duplicate rule '" ++ rule ++ "'"
  | .badFormat rule format =>
    "rule '" ++ rule ++ "' has a filename format without '%s': '" ++ format ++ "'"
  | .document => "YAML parse error"

namespace Rule

/-- A rule without roles. -/
def ofPattern (name source : String) : Except RuleError Rule :=
  match Pattern.forLines source with
  | .ok pattern => .ok { name, pattern }
  | .error fault => .error (.badPattern name fault)

def groups (r : Rule) : List Nat :=
  ([r.file, r.line, r.column].filterMap id).flatMap Role.groups ++ r.severity.groups
    ++ r.hyperlink.toList ++ r.highlights.map (·.group)

/-- The place of the file name in a format. -/
def formatMark : Text := ['%', 's']

/-- Finds the first role that refers to a missing group, or the first format without a place for
the name. -/
def validate (r : Rule) : Except RuleError Unit :=
  match r.groups.find? (r.pattern.groupCount ≤ ·) with
  | some group => .error (.malformed r.name group (r.pattern.groupCount - 1))
  | none =>
    match r.formats.find? fun f => !Text.hasInfix formatMark f.toList with
    | some format => .error (.badFormat r.name format)
    | none => .ok ()

/-- A match touches at least one line. -/
def withLines (r : Rule) (lines : Nat) : Rule := { r with lines := max lines 1 }

end Rule

end BuildLog
