import BuildLog.Scan
import BuildLog.Transcript

/-!
# Parses — the messages of a log that grows and is edited

A parse knows the messages of a transcript up to its cursor.  While the tool runs, only complete
lines are read, and the messages of the last lines are provisional: the cursor stays before them,
and they are read again when more has come, so that a message that ends later is not missed.  An
edit moves the cursor back, and drops what it makes doubtful.
-/

namespace BuildLog

structure Parse where
  settings : ScanSettings
  trail : DirectoryTrail
  /-- The log has been read up to here. -/
  cursor : Nat := 0
  /-- Whether the tool has ended, so that a last line without a newline is complete. -/
  finished : Bool := false
  /-- The messages in order. -/
  messages : List Message := []
  /-- Labels from here on are out of date. -/
  pendingClear : Option Nat := none
  /-- Whether the cursor was moved back, so that it may be inside a line. -/
  rewound : Bool := false
deriving Repr

namespace Parse

/-! ## 1. Reading a parse -/

def messageAtStart? (p : Parse) (start : Nat) : Option Message :=
  p.messages.find? (·.start = start)

/-- The message whose text covers an offset: the last that begins there or before, if it does. -/
def messageAt? (p : Parse) (offset : Nat) : Option Message :=
  ((p.messages.filter (·.start ≤ offset)).getLast?).filter (·.span.covers offset)

def counts (p : Parse) : SeverityCounts := .ofList (p.messages.map (·.severity))

/-! ## 2. Dropping messages -/

/-- Releases the files of messages that are dropped. -/
def releaseAll (table : FileTable) (ms : List Message) : FileTable :=
  ms.foldl (fun t m => t.release m.file) table

/-- Drops the messages and directory events from an offset on. -/
def dropFrom (p : Parse) (table : FileTable) (offset : Nat) : Parse × FileTable :=
  ({ p with
      messages := p.messages.filter (·.start < offset)
      trail := p.trail.truncateFrom offset },
    releaseAll table (p.messages.filter (offset ≤ ·.start)))

/-- Forgets every message and directory event. -/
def clear (p : Parse) (table : FileTable) : Parse × FileTable :=
  ({ p with
      messages := []
      trail := p.trail.clear
      cursor := 0
      pendingClear := none
      rewound := false },
    releaseAll table p.messages)

/-- Begins anew, after the labelled text at the head of the log. -/
def attach (p : Parse) (log : Transcript) (table : FileTable) : Parse × FileTable :=
  let (p, table) := p.clear table
  ({ p with cursor := log.firstUnlabelled }, table)

/-! ## 3. Reading on -/

/-- A log with its parse and the files that its messages refer to. -/
structure State where
  parse : Parse
  log : Transcript
  table : FileTable
deriving Repr

/-- Clears the labels that an edit has put out of date, and keeps the cursor in the log. -/
def settle (s : State) : State :=
  let len := s.log.length
  { s with
    log := match s.parse.pendingClear with
      | some start => s.log.clearLabels start (max len start)
      | none => s.log
    parse := { s.parse with pendingClear := none, cursor := min s.parse.cursor len } }

/-- Whether the cursor may be inside a line: not at the start of the log, not after a newline, and
not at the end of the log, unless it was moved back. -/
def insideLine (s : State) : Bool :=
  let cursor := s.parse.cursor
  cursor ≠ 0 && (cursor ≠ s.log.length || s.parse.rewound)
    && s.log.text[cursor - 1]? ≠ some '\n'

/-- Moves a cursor that is inside a line back to the start of the line, and drops what was found
from there on. -/
def snap (s : State) : State :=
  if insideLine s then
    let start := Text.terminatedLength (s.log.text.take s.parse.cursor)
    let (parse, table) := s.parse.dropFrom s.table start
    { parse := { parse with cursor := start, rewound := false }
      log := s.log.clearLabels start s.parse.cursor
      table }
  else { s with parse := { s.parse with rewound := false } }

/-- Offset in a newline-terminated text, which begins at `base`, up to which its messages are
certain: they stay out of the last lines that a longer message could begin in, and so does every
message that begins before these. -/
def certainLength (maxLines : Nat) (text : Text) (base : Nat) (ms : List Message) : Nat :=
  let tail := text.tailStart (maxLines - 1)
  match (ms.filter fun m => m.start - base < tail).getLast? with
  | none => tail
  | some m => max tail (text.lineEndAfter (m.span.stop - base))

/-- Reads the text `text` at the cursor; `certain` says whether it is the end of a log that will
not grow.  Answers how many messages there are more than before. -/
def readText (disk : Disk) (text : Text) (certain : Bool) (s : State) : Nat × State :=
  let start := s.parse.cursor
  let provisional := (s.parse.messages.filter (start ≤ ·.start)).length
  let (parse, table) := s.parse.dropFrom s.table start
  let log := s.log.clearLabels start s.log.length
  let trail := parse.trail.process text start
  let (found, after) :=
    scan parse.settings disk text start (parse.messages.getLast?.map .ofMessage) ⟨trail, table⟩
  let length :=
    if certain then text.length
    else certainLength parse.settings.rules.maxLines text start found
  (found.length - provisional,
    { parse := { parse with
        trail := after.trail
        messages := parse.messages ++ found
        cursor := start + length }
      log := found.foldl (fun l m => l.label m.labelledSpan) log
      table := after.table })

/-- Reads the log up to an offset, only complete lines unless the tool has ended; answers how many
messages there are more than before. -/
def advance (disk : Disk) (upto : Nat) (s : State) : Nat × State :=
  let s := snap (settle s)
  let len := s.log.length
  let upto := min upto len
  if upto ≤ s.parse.cursor then (0, s)
  else
    let text := s.log.text.slice s.parse.cursor upto
    let atEnd := s.parse.finished && upto = len
    let length := if atEnd then text.length else text.terminatedLength
    if length = 0 then (0, s) else readText disk (text.take length) atEnd s

/-! ## 4. Edits -/

/-- The offset from which messages are doubtful after an edit at `offset`: that of the last message
before it, if that message reaches beyond it, and so on for the message before.  The messages come
last one first. -/
def doubtfulFrom (offset : Nat) : List Message → Nat
  | [] => offset
  | m :: ms =>
    if offset ≤ m.start then doubtfulFrom offset ms
    else if offset < m.span.stop then doubtfulFrom m.start ms
    else offset

/-- Moves the cursor back for an edit at an offset, and drops the messages that the edit makes
doubtful. -/
def flushFrom (p : Parse) (table : FileTable) (offset : Nat) : Parse × FileTable :=
  let offset := doubtfulFrom offset p.messages.reverse
  if !(p.messages.any (offset ≤ ·.start)) && p.cursor ≤ offset then (p, table)
  else
    let (p, table) := p.dropFrom table offset
    let p :=
      if offset < p.cursor then { p with cursor := offset, rewound := true } else p
    ({ p with pendingClear := some (match p.pendingClear with
        | some earlier => min earlier offset
        | none => offset) }, table)

/-- Drops the messages that begin before an offset; answers how many they were. -/
def discardBefore (p : Parse) (table : FileTable) (offset : Nat) : Nat × Parse × FileTable :=
  let gone := p.messages.filter (·.start < offset)
  (gone.length, { p with messages := p.messages.filter (offset ≤ ·.start) }, releaseAll table gone)

/-- Renumbers everything after `delta` characters were taken from the head of the log; messages
that began there are gone. -/
def shiftBack (p : Parse) (delta : Nat) : Parse :=
  { p with
    messages := (p.messages.filter (delta ≤ ·.start)).map (·.shiftBack delta)
    trail := p.trail.shiftBack delta
    cursor := p.cursor - delta
    pendingClear := p.pendingClear.map (· - delta) }

/-- Points a message at other entries of the file table. -/
def relocate (p : Parse) (start : Nat) (file : FileId) (place : PlaceId)
    (endPlace : Option PlaceId) : Parse :=
  { p with messages := p.messages.map fun m =>
      if m.start = start then { m with file, place, endPlace } else m }

end Parse

end BuildLog
