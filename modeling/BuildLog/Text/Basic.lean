import BuildLog.Unicode.Blank

/-!
# Text — characters, spans and the lines of a log

A text is its list of characters, and every offset counts characters.  The functions on lines in
this module know one line end, the newline; `Text.Line` holds the wider notion that source files
and transcripts use.
-/

namespace BuildLog

abbrev Text := List Char

/-- The characters from `start` up to, but not including, `stop`. -/
structure Span where
  start : Nat
  stop : Nat
deriving Repr, DecidableEq, Inhabited

namespace Span

def isEmpty (s : Span) : Bool := s.stop ≤ s.start

def covers (s : Span) (offset : Nat) : Bool := s.start ≤ offset && offset < s.stop

/-- The span `delta` characters further on. -/
def shift (s : Span) (delta : Nat) : Span := ⟨s.start + delta, s.stop + delta⟩

/-- The span `delta` characters further back, cut off at the start of the text. -/
def shiftBack (s : Span) (delta : Nat) : Span := ⟨s.start - delta, s.stop - delta⟩

end Span

namespace Text

/-! ## 1. Pieces -/

/-- The characters of `t` between two offsets; offsets past the end mean the end. -/
def slice (t : Text) (start stop : Nat) : Text := (t.take stop).drop start

theorem length_slice (t : Text) (start stop : Nat) :
    (slice t start stop).length = min stop t.length - start := by
  simp [slice]

def trimStart (t : Text) : Text := t.dropWhile Unicode.isBlank

def trimEnd (t : Text) : Text := (trimStart t.reverse).reverse

/-- The text without the white space at its two ends. -/
def trim (t : Text) : Text := trimEnd (trimStart t)

/-- Whether `t` begins with `p`; answers what follows. -/
def dropLeading? : (p t : Text) → Option Text
  | [], t => some t
  | _ :: _, [] => none
  | p :: ps, c :: t => if p = c then dropLeading? ps t else none

/-- The text with its first occurrence of `what` replaced. -/
def replaceFirst (what new : Text) : Text → Text
  | [] => if what = [] then new else []
  | c :: t =>
    match dropLeading? what (c :: t) with
    | some rest => new ++ rest
    | none => c :: replaceFirst what new t

def hasInfix (what : Text) : Text → Bool
  | [] => what.isEmpty
  | c :: t => (dropLeading? what (c :: t)).isSome || hasInfix what t

/-! ## 2. Numbers -/

/-- Machine numbers are below this bound, and so are the whole numbers that a location can carry. -/
def numberBound : Nat := 1 <<< 64

/-- A sum of machine numbers.  One that is too large wraps around; only debug builds stop at it. -/
def wrappingAdd (a b : Nat) : Nat := (a + b) % numberBound

theorem wrappingAdd_eq {a b : Nat} (h : a + b < numberBound) : wrappingAdd a b = a + b :=
  Nat.mod_eq_of_lt h

/-- The value of a run of ASCII digits, read after `acc`. -/
def digits? (acc : Nat) : Text → Option Nat
  | [] => some acc
  | c :: t => if c.isDigit then digits? (acc * 10 + (c.toNat - '0'.toNat)) t else none

/-- A decimal number: ASCII digits, at least one, after an optional plus sign. -/
def number? (t : Text) : Option Nat :=
  let ds := match t with
    | '+' :: t => t
    | t => t
  if ds.isEmpty then none else (digits? 0 ds).filter (· < numberBound)

/-! ## 3. Newlines -/

/-- Length of the longest beginning of the text that ends with a newline. -/
def terminatedLength : Text → Nat
  | [] => 0
  | c :: t =>
    match terminatedLength t with
    | 0 => if c = '\n' then 1 else 0
    | n + 1 => n + 2

theorem terminatedLength_le (t : Text) : terminatedLength t ≤ t.length := by
  induction t with
  | nil => simp [terminatedLength]
  | cons c t ih =>
    simp only [terminatedLength, List.length_cons]
    split
    · split <;> omega
    · omega

/-- Length of the first line, with its newline if it has one. -/
def firstLineLength : Text → Nat
  | [] => 0
  | c :: t => if c = '\n' then 1 else firstLineLength t + 1

theorem firstLineLength_le (t : Text) : firstLineLength t ≤ t.length := by
  induction t with
  | nil => simp [firstLineLength]
  | cons c t ih =>
    simp only [firstLineLength, List.length_cons]
    split <;> omega

/-- Offset just past the line that holds the character before `stop`; `stop` itself if that
character is a newline. -/
def lineEndAfter (t : Text) (stop : Nat) : Nat :=
  if stop = 0 || (t.take stop).getLast? = some '\n' then stop
  else stop + firstLineLength (t.drop stop)

/-- What is left of a text, written backwards, when its last `lines` lines are taken away. -/
def dropLastLines : (lines : Nat) → (rev : Text) → Text
  | 0, rev => rev
  | _ + 1, [] => []
  | lines + 1, _ :: rev => dropLastLines lines (rev.dropWhile (· ≠ '\n'))

/-- Offset where the last `lines` lines of a newline-terminated text begin. -/
def tailStart (t : Text) (lines : Nat) : Nat := (dropLastLines lines t.reverse).length

example : terminatedLength "a\nb\npartial".toList = 4 := by decide
example : lineEndAfter "a: x\nnext\n".toList 2 = 5 := by decide
example : lineEndAfter "a: x\nnext\n".toList 5 = 5 := by decide
example : tailStart "one\ntwo\nthree\n".toList 2 = 4 := by decide
example : tailStart "one\ntwo\nthree\n".toList 5 = 0 := by decide

end Text

end BuildLog
