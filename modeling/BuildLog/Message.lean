import BuildLog.FileTable
import BuildLog.Label

/-!
# Messages — references to source locations found in a log
-/

namespace BuildLog

/-- Where a message points, as the tool wrote it, before any file is looked for. -/
structure TextLocation where
  /-- The file name as written, or as inherited from the message before. -/
  filename : String
  directory : Option Path
  line : Option Nat
  column : Option Nat
  endLine : Option Nat
  endColumn : Option Nat
deriving Repr, DecidableEq

namespace TextLocation

def spec (l : TextLocation) : FileSpec := ⟨l.filename, l.directory⟩

def position (l : TextLocation) : Position := ⟨l.line, l.column⟩

/-- The end of a range, if the message names one; its line is the first line if it names none. -/
def endPosition? (l : TextLocation) : Option Position :=
  if l.endLine.isSome || l.endColumn.isSome then some ⟨l.endLine <|> l.line, l.endColumn⟩ else none

end TextLocation

structure Highlight where
  span : Span
  face : String
deriving Repr, DecidableEq

structure Message where
  /-- The text that was matched. -/
  span : Span
  /-- The part of the text that serves as a link. -/
  hyperlink : Span
  severity : Severity
  file : FileId
  place : PlaceId
  endPlace : Option PlaceId
  /-- Name of the rule that found the message. -/
  rule : String
  location : TextLocation
  highlights : List Highlight
deriving Repr, DecidableEq

namespace Message

/-- The offset that a message is known by. -/
def start (m : Message) : Nat := m.span.start

/-- What the log shows of a message. -/
def label (m : Message) : Label :=
  ⟨m.severity, m.location.filename, m.location.line, m.location.column⟩

def labelledSpan (m : Message) : LabelledSpan := ⟨m.hyperlink, m.label⟩

/-- The message after `delta` characters were taken from the head of the log. -/
def shiftBack (m : Message) (delta : Nat) : Message :=
  { m with
    span := m.span.shiftBack delta
    hyperlink := m.hyperlink.shiftBack delta
    highlights := m.highlights.map fun h => { h with span := h.span.shiftBack delta } }

end Message

end BuildLog
