import BuildLog.Pattern.Fault
import BuildLog.Unicode.Blank

/-!
# Reading — the state of a reader of pattern text

The text of a pattern is read from left to right.  Flags that change what later parts mean are
part of the state; a group gives them back as it found them.  In a verbose pattern, white space and
comments between the characters that matter are passed over.
-/

namespace BuildLog.Pattern

/-! ## 1. State -/

structure Flags where
  ignoreCase : Bool := false
  /-- `^` and `$` mean the ends of lines. -/
  multiLine : Bool := false
  /-- A dot matches line ends too. -/
  dotAll : Bool := false
  /-- Lines end at CR and CR LF too. -/
  anyLineEnd : Bool := false
  /-- Repetitions are as short as possible unless marked. -/
  swapGreed : Bool := false
  unicode : Bool := true
  /-- White space and comments between the parts of the pattern mean nothing. -/
  verbose : Bool := false
deriving Repr, DecidableEq

structure ReadState where
  rest : List Char
  flags : Flags
  /-- Groups opened so far. -/
  groups : Nat := 0
  names : List String := []

abbrev Read := StateT ReadState (Except Fault)

def flags : Read Flags := do return (← get).flags

/-- The value of a computation that may fail. -/
def ensure {α : Type} : Except Fault α → Read α
  | .ok a => pure a
  | .error e => throw e

/-! ## 2. Steps -/

/-- Drops white space and comments; `comment` says whether a comment is open. -/
def skipIgnored (comment : Bool) : List Char → List Char
  | [] => []
  | c :: cs =>
    if comment then skipIgnored (c ≠ '\n') cs
    else if Unicode.isBlank c then skipIgnored false cs
    else if c = '#' then skipIgnored true cs
    else c :: cs

/-- Drops what a verbose pattern ignores. -/
def skip : Read Unit :=
  modify fun s => if s.flags.verbose then { s with rest := skipIgnored false s.rest } else s

def peek : Read (Option Char) := do return (← get).rest.head?

/-- Goes on by one character. -/
def advance : Read Unit := modify fun s => { s with rest := s.rest.drop 1 }

/-- Goes on to the next character that matters. -/
def step : Read Unit := do
  advance
  skip

/-- Takes the given characters if they come next. -/
def take? (what : List Char) : Read Bool := do
  let s ← get
  if what.isPrefixOf s.rest then
    set { s with rest := s.rest.drop what.length }
    return true
  return false

/-- The next character, which must be there. -/
def needChar (fault : Fault) : Read Char := do
  match ← peek with
  | some c => return c
  | none => throw fault

/-- Takes characters as long as `keep` holds. -/
def takeWhile (keep : Char → Bool) : Read (List Char) := do
  let s ← get
  set { s with rest := s.rest.dropWhile keep }
  return s.rest.takeWhile keep

/-- Divides a text after the characters that `keep` holds of, without what is ignored between
them. -/
def spanMatter (verbose : Bool) (keep : Char → Bool) (comment : Bool) :
    List Char → List Char × List Char
  | [] => ([], [])
  | c :: cs =>
    if comment then spanMatter verbose keep (c ≠ '\n') cs
    else if verbose && Unicode.isBlank c then spanMatter verbose keep false cs
    else if verbose && c = '#' then spanMatter verbose keep true cs
    else if keep c then
      let (taken, rest) := spanMatter verbose keep false cs
      (c :: taken, rest)
    else ([], c :: cs)

/-- Takes the characters that matter as long as `keep` holds of them. -/
def takeMatter (keep : Char → Bool) : Read (List Char) := do
  let s ← get
  let (taken, rest) := spanMatter s.flags.verbose keep false s.rest
  set { s with rest }
  return taken

/-- Takes exactly `n` characters that matter. -/
def takeExactly : (n : Nat) → Read (List Char)
  | 0 => return []
  | n + 1 => do
    let c ← needChar .badEscape
    step
    return c :: (← takeExactly n)

/-- The text up to a closing brace, which is taken too. -/
def takeBraced : Read (List Char) := do
  let body ← takeMatter (· ≠ '\x7d')
  let _ ← needChar .badEscape
  advance
  return body

/-! ## 3. Depth -/

/-- Parts of a pattern may be nested this deep. -/
def depthLimit : Nat := 250

/-- The depth of a part that holds parts of the given depth. -/
def nest (depth : Nat) : Read Nat :=
  if depth < depthLimit then return depth + 1 else throw .tooDeep

/-- The depth of a list of parts: one alone is not nested in the list. -/
def nestList (depths : List Nat) : Read Nat :=
  match depths with
  | [] => return 0
  | [d] => return d
  | d :: ds => nest (ds.foldl max d)

end BuildLog.Pattern
