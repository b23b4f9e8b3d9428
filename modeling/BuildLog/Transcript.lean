import BuildLog.Label
import BuildLog.Text.Line

/-!
# Transcripts — the text of a log with its labels

A transcript grows at its end and can be edited anywhere; labels stay with their text.
-/

namespace BuildLog

structure Transcript where
  text : Text := []
  labels : LabelIndex := {}
deriving Repr

namespace Transcript

def ofText (t : Text) : Transcript := { text := t }

def length (l : Transcript) : Nat := l.text.length

/-- Adds text at the end; answers the offset where it begins. -/
def append (l : Transcript) (t : Text) : Nat × Transcript :=
  (l.text.length, { l with text := l.text ++ t })

/-- Puts text in at an offset; one past the end means the end. -/
def insert (l : Transcript) (offset : Nat) (t : Text) : Transcript :=
  let offset := min offset l.text.length
  { text := l.text.take offset ++ t ++ l.text.drop offset
    labels := l.labels.openGap offset t.length }

/-- The part of a span that lies in the text. -/
def clamp (l : Transcript) (s : Span) : Span :=
  let start := min s.start l.text.length
  ⟨start, max start (min s.stop l.text.length)⟩

/-- Takes out the part of a span that lies in the text. -/
def delete (l : Transcript) (s : Span) : Transcript :=
  let s := l.clamp s
  if s.start = s.stop then l
  else
    { text := l.text.take s.start ++ l.text.drop s.stop
      labels := l.labels.moveForDeletion s.start s.stop }

def read (l : Transcript) (s : Span) : Text :=
  let s := l.clamp s
  l.text.slice s.start s.stop

def label (l : Transcript) (s : LabelledSpan) : Transcript :=
  { l with labels := l.labels.insert s }

/-- Removes the labels that meet the text from `start` to `stop`. -/
def clearLabels (l : Transcript) (start stop : Nat) : Transcript :=
  { l with labels := (l.labels.removeRange start stop).2 }

/-- The label at an offset, that of the span that starts last if there are several. -/
def labelAt (l : Transcript) (offset : Nat) : Option Label :=
  (l.labels.atOffset offset).head?.map (·.label)

/-- Start of the line after the last labelled text. -/
def firstUnlabelled (l : Transcript) : Nat :=
  match min l.labels.furthestEnd l.text.length with
  | 0 => 0
  | last + 1 => l.text.lineStart (l.text.lineAt last + 1)

end Transcript

end BuildLog
