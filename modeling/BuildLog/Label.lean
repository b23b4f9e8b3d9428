import BuildLog.Text.Basic
import BuildLog.Severity

/-!
# Labels — message data attached to spans of a text

The index keeps labelled spans in ascending order of their starts, and beside each the furthest
end of the spans up to it.  A query walks back from the last span that can count, and stops where
no earlier span reaches far enough.  The bounds of spans are machine numbers.  They suffice for the
offsets of a text, but the index takes any spans, and can move them so far that their bounds wrap
around.
-/

namespace BuildLog

/-- What a label shows of a message. -/
structure Label where
  severity : Severity
  filename : String
  line : Option Nat
  column : Option Nat
deriving Repr, DecidableEq

structure LabelledSpan where
  span : Span
  label : Label
deriving Repr, DecidableEq

/-- Whether a span shares a character with the text from `start` to `stop`, both taken by their
bounds alone. -/
def Span.meets (s : Span) (start stop : Nat) : Bool := s.start < stop && start < s.stop

/-- Whether the bounds of a span are machine numbers. -/
def Span.fits (s : Span) : Bool := s.start < Text.numberBound && s.stop < Text.numberBound

/-- The span with bounds that are machine numbers; one that is too large wraps around. -/
def Span.wrapped (s : Span) : Span := ⟨s.start % Text.numberBound, s.stop % Text.numberBound⟩

/-- Labelled spans in order of their starts; beside the span at each place, `reach` has the
furthest end of the spans up to it. -/
structure LabelIndex where
  spans : List LabelledSpan := []
  reach : List Nat := []
deriving Repr, DecidableEq

namespace LabelIndex

/-! ## 1. Building -/

/-- The furthest ends of the spans up to each, where `furthest` is that of the spans before. -/
def reachFrom (furthest : Nat) : List LabelledSpan → List Nat
  | [] => []
  | s :: ss => max furthest s.span.stop :: reachFrom (max furthest s.span.stop) ss

/-- The index of spans that are in order. -/
def ofSorted (ss : List LabelledSpan) : LabelIndex := ⟨ss, reachFrom 0 ss⟩

def empty : LabelIndex := {}

/-- Puts a span after those that start no later. -/
def insertSorted (s : LabelledSpan) : List LabelledSpan → List LabelledSpan
  | [] => [s]
  | t :: ts => if t.span.start ≤ s.span.start then t :: insertSorted s ts else s :: t :: ts

/-- The furthest ends with those from place `k` on worked out anew; the ones before it are as they
were. -/
def rebuildReach (k : Nat) (reach : List Nat) (ss : List LabelledSpan) : List Nat :=
  reach.take k ++ reachFrom (if k = 0 then 0 else reach[k - 1]?.getD 0) (ss.drop k)

/-- Puts a span in; only the furthest ends from its place on change. -/
def insert (x : LabelIndex) (s : LabelledSpan) : LabelIndex :=
  let spans := insertSorted s x.spans
  let k := (x.spans.takeWhile fun t => t.span.start ≤ s.span.start).length
  { spans, reach := rebuildReach k x.reach spans }

@[simp] theorem length_reachFrom (furthest : Nat) (ss : List LabelledSpan) :
    (reachFrom furthest ss).length = ss.length := by
  induction ss generalizing furthest with
  | nil => rfl
  | cons s ss ih => simp [reachFrom, ih]

/-! ## 2. Queries -/

/-- The furthest end of all spans, or 0 if there are none. -/
def furthestEnd (x : LabelIndex) : Nat := x.reach.getLast?.getD 0

def size (x : LabelIndex) : Nat := x.spans.length

def isEmpty (x : LabelIndex) : Bool := x.spans.isEmpty

/-- The last of the spans that reach beyond `pos`, last one first: the walk stops where no span up
to a place reaches so far. -/
def walkBack (pos : Nat) (entries : List (LabelledSpan × Nat)) : List LabelledSpan :=
  (entries.reverse.takeWhile fun e => pos < e.2).map (·.1)

/-- The spans that cover an offset, the one that starts last first. -/
def atOffset (x : LabelIndex) (pos : Nat) : List LabelledSpan :=
  (walkBack pos ((x.spans.zip x.reach).takeWhile fun e => e.1.span.start ≤ pos)).filter
    (·.span.covers pos)

/-- The spans that meet the text from `start` to `stop`, in order. -/
def inRange (x : LabelIndex) (start stop : Nat) : List LabelledSpan :=
  if stop ≤ start then []
  else
    let entries := x.spans.zip x.reach
    let before := entries.takeWhile fun e => e.1.span.start < start
    let within := (entries.drop before.length).takeWhile fun e => e.1.span.start < stop
    ((walkBack start before).reverse ++ within.map (·.1)).filter (·.span.meets start stop)

/-! ## 3. Changes -/

/-- Removes the spans that meet the text from `start` to `stop`; answers how many they were.  The
furthest ends are worked out anew if there was one. -/
def removeRange (x : LabelIndex) (start stop : Nat) : Nat × LabelIndex :=
  let kept := x.spans.filter fun s => !s.span.meets start stop
  let removed := x.spans.length - kept.length
  (removed, { spans := kept, reach := if 0 < removed then reachFrom 0 kept else x.reach })

/-- The place of a span after `delta` characters were put in at `pos`. -/
def spanAfterInsertion (pos delta : Nat) (s : Span) : Span :=
  if pos ≤ s.start then s.shift delta
  else if pos < s.stop then ⟨s.start, s.stop + delta⟩
  else s

/-- The place of a span after the text from `start` to `stop` was taken out; none if all of it
was. -/
def spanAfterDeletion (start stop : Nat) (s : Span) : Option Span :=
  if s.stop ≤ start then some s
  else if stop ≤ s.start then some (s.shiftBack (stop - start))
  else if start ≤ s.start && s.stop ≤ stop then none
  else some ⟨min s.start start, if stop < s.stop then s.stop - (stop - start) else start⟩

/-- Moves the spans for `delta` characters put in at `pos` of a text. -/
def openGap (x : LabelIndex) (pos delta : Nat) : LabelIndex :=
  ofSorted (x.spans.map fun s => { s with span := spanAfterInsertion pos delta s.span })

/-- Moves the spans for `delta` characters put in at `pos`.  Bounds that get too large wrap around,
and the spans stay where they are in the index. -/
def moveForInsertion (x : LabelIndex) (pos delta : Nat) : LabelIndex :=
  ofSorted (x.spans.map fun s => { s with span := (spanAfterInsertion pos delta s.span).wrapped })

/-- Moves the spans for the text from `start` to `stop` taken out, and brings them in order. -/
def moveForDeletion (x : LabelIndex) (start stop : Nat) : LabelIndex :=
  let moved := x.spans.filterMap fun s =>
    (spanAfterDeletion start stop s.span).map fun p => { s with span := p }
  ofSorted (moved.foldl (fun acc s => insertSorted s acc) [])

end LabelIndex

end BuildLog
