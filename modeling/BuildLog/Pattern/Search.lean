import BuildLog.Pattern.Program
import BuildLog.Pattern.Look
import BuildLog.Text.Basic

/-!
# Search — the leftmost match, by the preferences of the pattern

Threads are tried depth first, the preferred one first, from each place of the text in turn.  A
thread that comes to a place and an instruction where another has been before is dropped: what the
other could not do there, it cannot do either.  This bounds the work, and cuts empty loops.
-/

namespace BuildLog.Pattern

/-- A place in the program and in the text, with the marks noted on the way, last one first. -/
structure Thread where
  pc : Nat
  pos : Nat
  marks : List (Nat × Nat)
deriving Repr

/-- Instructions in one word of a set of instructions. -/
def wordSize : Nat := 60

/-- For each place of the text, the set of instructions tried there: words with one bit for each
instruction.  The instructions are counted from the last one, near which a program begins, so that
the words that are not there are those for instructions that few threads get to. -/
structure Seen where
  size : Nat
  words : Array (Array Nat)

namespace Seen

/-- Nothing has been tried. -/
def none (code : Array Instr) (text : Array Char) : Seen :=
  ⟨code.size, Array.replicate (text.size + 1) #[]⟩

def has (seen : Seen) (t : Thread) : Bool :=
  let n := seen.size - t.pc
  ((seen.words[t.pos]?.getD #[])[n / wordSize]?.getD 0).testBit (n % wordSize)

/-- The words with a bit set; words that are missing before it are empty. -/
def setBit (words : Array Nat) (n : Nat) : Array Nat :=
  let i := n / wordSize
  let words := words ++ Array.replicate (i + 1 - words.size) 0
  words.modify i (· ||| 1 <<< (n % wordSize))

def add (seen : Seen) (t : Thread) : Seen :=
  { seen with words := seen.words.modify t.pos (setBit · (seen.size - t.pc)) }

end Seen

/-- The threads that one instruction leaves to be tried, the preferred one first. -/
def Thread.successors (text : Array Char) (t : Thread) : Instr → List Thread
  | .accept => []
  | .take set next =>
    match text[t.pos]? with
    | some c => if set.contains c then [{ t with pc := next, pos := t.pos + 1 }] else []
    | none => []
  | .check cond next => if cond.holds text t.pos then [{ t with pc := next }] else []
  | .mark slot next => [{ t with pc := next, marks := (slot, t.pos) :: t.marks }]
  | .fork first second => [{ t with pc := first }, { t with pc := second }]

/-- Tries the threads on the stack, for at most `fuel` steps; answers the first that gets to the
end of the program, and what has been tried. -/
def run (code : Array Instr) (text : Array Char) :
    (fuel : Nat) → Seen → List Thread → Option Thread × Seen
  | 0, seen, _ => (none, seen)
  | _ + 1, seen, [] => (none, seen)
  | fuel + 1, seen, t :: stack =>
    if seen.has t then run code text fuel seen stack
    else
      match code[t.pc]? with
      | none => run code text fuel seen stack
      | some .accept => (some t, seen)
      | some instr => run code text fuel (seen.add t) (t.successors text instr ++ stack)

/-- Steps that are enough to try every instruction at every place: each is tried once, and leaves
at most two threads. -/
def enough (code : Array Instr) (text : Array Char) : Nat := 2 * code.size * (text.size + 1) + 2

/-- A match: where it is, and the marks noted on the way, last one first. -/
structure Match where
  span : Span
  marks : List (Nat × Nat)
deriving Repr, DecidableEq

/-- The match at the first of the `count` places from `start` on that has one. -/
def searchFrom (prog : Program) (text : Array Char) :
    (count : Nat) → (start : Nat) → Seen → Option Match
  | 0, _, _ => none
  | count + 1, start, seen =>
    match run prog.code text (enough prog.code text) seen [⟨prog.entry, start, []⟩] with
    | (some t, _) => some ⟨⟨start, t.pos⟩, t.marks⟩
    | (none, seen) => searchFrom prog text count (start + 1) seen

/-- The leftmost match that starts at `start` or later. -/
def Program.find? (prog : Program) (text : Array Char) (start : Nat) : Option Match :=
  searchFrom prog text (text.size + 1 - start) start (.none prog.code text)

namespace Match

/-- Where group `i` was matched last, if it took part; group 0 is the whole match. -/
def group (m : Match) (i : Nat) : Option Span :=
  if i = 0 then some m.span
  else
    match m.marks.lookup (2 * i), m.marks.lookup (2 * i + 1) with
    | some start, some stop => some ⟨start, stop⟩
    | _, _ => none

end Match

/-! ## All matches -/

/-- The next match from `start` on; an empty one at `last`, where the match before ended, does not
count. -/
def Program.findNext? (prog : Program) (text : Array Char) (last : Option Nat) (start : Nat) :
    Option Match :=
  match prog.find? text start with
  | none => none
  | some m =>
    if m.span.isEmpty && some m.span.stop = last then prog.find? text (start + 1) else some m

/-- At most `fuel` successive matches from `start` on. -/
def Program.findAll (prog : Program) (text : Array Char) :
    (fuel : Nat) → (last : Option Nat) → (start : Nat) → List Match
  | 0, _, _ => []
  | fuel + 1, last, start =>
    match prog.findNext? text last start with
    | none => []
    | some m => m :: prog.findAll text fuel (some m.span.stop) m.span.stop

/-- The successive matches that do not overlap, from the start of the text on.  Each ends later
than the one before, so there are no more than places. -/
def Program.allMatches (prog : Program) (text : Array Char) : List Match :=
  prog.findAll text (text.size + 1) none 0

end BuildLog.Pattern
