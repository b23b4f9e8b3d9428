import BuildLog.Disk
import BuildLog.Text.Line
import BuildLog.Text.Width

/-!
# Sources — open source files and markers in them

A buffer holds the text of a source file while it is open.  A marker is a position in a buffer
that stays with the text around it when the buffer is edited, and goes when the buffer is closed.
-/

namespace BuildLog

structure BufferId where
  number : Nat
deriving Repr, DecidableEq

structure MarkerId where
  number : Nat
deriving Repr, DecidableEq

structure SourceBuffer where
  path : Path
  text : Text
deriving Repr

structure Marker where
  buffer : BufferId
  position : Nat
deriving Repr, DecidableEq

/-- Someone who can be asked where a file is: the answers by file name, and what was asked up to
now. -/
structure Guide where
  answers : List (String × Path)
  asked : List (String × Path) := []
deriving Repr

structure Sources where
  buffers : List (BufferId × SourceBuffer) := []
  /-- The open buffer of each file, by the components of its path. -/
  byPath : List (List Component × BufferId) := []
  markers : List (MarkerId × Marker) := []
  nextBuffer : Nat := 1
  nextMarker : Nat := 1
  tabWidth : Nat := Text.defaultTabWidth
  guide : Option Guide := none
deriving Repr

namespace Sources

def empty : Sources := {}

/-- Tab stops are at least one cell apart. -/
def withTabWidth (s : Sources) (n : Nat) : Sources := { s with tabWidth := max n 1 }

/-! ## 1. Buffers -/

def buffer? (s : Sources) (b : BufferId) : Option SourceBuffer := s.buffers.lookup b

def isOpen (s : Sources) (b : BufferId) : Bool := (s.buffer? b).isSome

def text? (s : Sources) (b : BufferId) : Option Text := (s.buffer? b).map (·.text)

def path? (s : Sources) (b : BufferId) : Option Path := (s.buffer? b).map (·.path)

def count (s : Sources) : Nat := s.buffers.length

/-- Closes a buffer; its markers go with it. -/
def close (s : Sources) (b : BufferId) : Sources :=
  { s with
    buffers := s.buffers.filter (·.1 ≠ b)
    byPath := match s.buffer? b with
      | some closed => s.byPath.filter (·.1 ≠ closed.path.components)
      | none => s.byPath
    markers := s.markers.filter (·.2.buffer ≠ b) }

/-- Opens a buffer with a text, in place of one that is open for the same path. -/
def openText (s : Sources) (p : Path) (t : Text) : BufferId × Sources :=
  let s := match s.byPath.lookup p.components with
    | some old => s.close old
    | none => s
  let b : BufferId := ⟨s.nextBuffer⟩
  (b, { s with
    nextBuffer := s.nextBuffer + 1
    byPath := (p.components, b) :: s.byPath.filter (·.1 ≠ p.components)
    buffers := s.buffers ++ [(b, ⟨p, t.unifyLineEnds⟩)] })

/-- The buffer that is open for a path, or a new one with the text of the file there. -/
def openFile (s : Sources) (disk : Disk) (p : Path) : Option BufferId × Sources :=
  match s.byPath.lookup p.components with
  | some b => (some b, s)
  | none =>
    match disk.read? p with
    | some t =>
      let (b, s) := s.openText p t.toList
      (some b, s)
    | none => (none, s)

/-- Asks where a file is that was looked for in vain. -/
def ask (s : Sources) (filename : String) (searched : Path) : Option Path × Sources :=
  match s.guide with
  | none => (none, s)
  | some g =>
    (g.answers.lookup filename,
      { s with guide := some { g with asked := g.asked ++ [(filename, searched)] } })

/-! ## 2. Positions -/

/-- Line and column of an offset, both counting from one. -/
def lineColumn? (s : Sources) (b : BufferId) (offset : Nat) : Option (Nat × Nat) :=
  (s.text? b).map fun t =>
    let offset := min offset t.length
    let line := t.lineAt offset
    (line + 1, offset - t.lineStart line + 1)

/-- Offset of a line and column of a text; a line too many means the last one, and a column too
many the end of its line.  Columns are terminal cells if `screen` says so. -/
def offsetIn (t : Text) (tabWidth line : Nat) (column : Option Nat) (screen : Bool) : Nat :=
  let k := min (line - 1) (t.lineCount - 1)
  let start := t.lineStart k
  match column with
  | none => start
  | some column =>
    let body := (t.line k).dropLineEnd
    if screen then start + body.offsetOfCell tabWidth (column - 1)
    else start + min (column - 1) body.length

def offset? (s : Sources) (b : BufferId) (line : Nat) (column : Option Nat) (screen : Bool) :
    Option Nat :=
  (s.text? b).map fun t => offsetIn t s.tabWidth line column screen

/-! ## 3. Markers -/

def addMarker (s : Sources) (b : BufferId) (position : Nat) : MarkerId × Sources :=
  let m : MarkerId := ⟨s.nextMarker⟩
  (m, { s with nextMarker := s.nextMarker + 1, markers := (m, ⟨b, position⟩) :: s.markers })

/-- Where a marker is, as long as its buffer is open. -/
def position? (s : Sources) (m : MarkerId) : Option Nat :=
  match s.markers.lookup m with
  | some marker => if s.isOpen marker.buffer then some marker.position else none
  | none => none

/-- Sets the text of an open buffer, and moves its markers. -/
def edit (s : Sources) (b : BufferId) (text : Text) (move : Nat → Nat) : Sources :=
  { s with
    buffers := s.buffers.map fun e => if e.1 = b then (e.1, { e.2 with text }) else e
    markers := s.markers.map fun e =>
      if e.2.buffer = b then (e.1, { e.2 with position := move e.2.position }) else e }

/-- Puts text in; a marker after the offset moves along, one at the offset stays. -/
def insert (s : Sources) (b : BufferId) (offset : Nat) (t : Text) : Sources :=
  match s.text? b with
  | none => s
  | some old =>
    let offset := min offset old.length
    s.edit b (old.take offset ++ t ++ old.drop offset) fun p =>
      if offset < p then p + t.length else p

/-- Takes text out; a marker in it moves to its start. -/
def delete (s : Sources) (b : BufferId) (span : Span) : Sources :=
  match s.text? b with
  | none => s
  | some old =>
    let start := min span.start old.length
    let stop := max start (min span.stop old.length)
    s.edit b (old.take start ++ old.drop stop) fun p =>
      if stop ≤ p then p - (stop - start) else if start < p then start else p

/-- What there is, in short. -/
def summary (s : Sources) : String :=
  "SourceBuffers \x7b buffers: " ++ toString s.buffers.length ++ ", markers: "
    ++ toString s.markers.length ++ ", tab_width: " ++ toString s.tabWidth ++ " \x7d"

end Sources

end BuildLog
