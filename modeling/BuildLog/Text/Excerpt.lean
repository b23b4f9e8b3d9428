import BuildLog.Text.Basic

/-!
# Excerpts — characters and bytes of a piece of the log

Inside an excerpt places can be counted in bytes of its UTF-8 encoding; everywhere else they are
counted in characters from the start of the log.  A table of the bytes at which characters begin
leads from the one to the other.
-/

namespace BuildLog

namespace Text

/-- The UTF-8 encoding of a text. -/
def bytes (t : Text) : List UInt8 := t.flatMap String.utf8EncodeChar

/-- The bytes at which the characters of a text begin, and the one at which it ends; the text begins
at byte `pos`. -/
def byteOffsets (pos : Nat) : (t : Text) → List Nat
  | [] => [pos]
  | c :: t => pos :: byteOffsets (pos + c.utf8Size) t

end Text

/-- The index from `lo` to `hi` at which an ascending table has `n`, or at which `n` could be put
in. -/
def searchIndex (table : Array Nat) (n lo hi : Nat) : Nat :=
  if lo < hi then
    let mid := (lo + hi) / 2
    let found := table.getD mid 0
    if found = n then mid
    else if found < n then searchIndex table n (mid + 1) hi
    else searchIndex table n lo mid
  else lo
termination_by hi - lo

/-- A text that begins at offset `base` of the log. -/
structure Excerpt where
  text : Text
  base : Nat
deriving Repr

namespace Excerpt

def byteLength (e : Excerpt) : Nat := e.text.bytes.length

def table (e : Excerpt) : Array Nat := (e.text.byteOffsets 0).toArray

/-- The offset in the log of a byte of the excerpt: that of the character that begins there, or of
the next one.  Bytes past the end mean the end. -/
def charOffset (e : Excerpt) (byte : Nat) : Nat :=
  e.base + searchIndex e.table (min byte e.byteLength) 0 e.table.size

/-- The byte at which the character at an offset of the log begins; the end of the excerpt if the
offset is past it. -/
def byteOffset (e : Excerpt) (offset : Nat) : Nat :=
  e.table[offset - e.base]?.getD e.byteLength

/-- The span of the log that some bytes of the excerpt are. -/
def charRange (e : Excerpt) (bytes : Span) : Span :=
  ⟨e.charOffset bytes.start, e.charOffset bytes.stop⟩

/-- The characters of the excerpt in a span of the log. -/
def quote (e : Excerpt) (s : Span) : Text := e.text.slice (s.start - e.base) (s.stop - e.base)

example : (Excerpt.mk "é:1: x\n".toList 10).charRange ⟨2, 4⟩ = ⟨11, 13⟩ := by cbv
example : (Excerpt.mk "é:1: x\n".toList 10).charOffset 100 = 17 := by cbv
example : (Excerpt.mk "é:1: x\n".toList 10).byteOffset 11 = 2 := by decide

end Excerpt

end BuildLog
