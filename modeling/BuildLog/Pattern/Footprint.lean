import BuildLog.Pattern.Expr
import BuildLog.Pattern.Utf8
import Std.Data.HashMap

/-!
# Footprints — how much memory the automata of an expression take

A pattern is searched by automata over bytes, one that reads forward and one that reads backward,
and a pattern whose automata do not fit into a fixed amount of memory is refused.  The states of an
automaton are counted as it would be built, with the memory that each takes; counting stops when
the limit is passed, so that it ends soon whatever the counts of a pattern are.
-/

namespace BuildLog.Pattern.Footprint

/-! ## 1. Counting -/

/-- An automaton may take this many bytes. -/
def limit : Nat := 10 <<< 20

/-- Bytes of a state, of a transition of a state that has several, and of a choice. -/
def stateBytes : Nat := 32
def transitionBytes : Nat := 8
def choiceBytes : Nat := 4

/-- What has been built: states, the bytes that they take, and the branches of the choice that is
being built. -/
structure Tally where
  states : Nat := 0
  bytes : Nat := 0
  branches : Nat := 0

/-- Counts up to the limit. -/
abbrev Count := StateT Tally Option

def take (bytes : Nat) : Count Unit := do
  let t ← get
  if limit < t.bytes + bytes then failure
  set { t with bytes := t.bytes + bytes }

/-- Adds a state that takes some bytes more than others; answers its number. -/
def state (more : Nat) : Count Nat := do
  take (stateBytes + more)
  modifyGet fun t => (t.states, { t with states := t.states + 1 })

/-- Adds some states, with nothing to choose. -/
def plain : (n : Nat) → Count Unit
  | 0 => return ()
  | n + 1 => do
    let _ ← state 0
    plain n

/-- Adds choices to a state. -/
def choices (n : Nat) : Count Unit := take (n * choiceBytes)

/-- Counts a part `n` times. -/
def times (part : Count Unit) : (n : Nat) → Count Unit
  | 0 => return ()
  | n + 1 => do
    part
    times part n

/-- Counts the branch of a choice: when there are two, the states where the choice begins and ends
are added. -/
def branch (part : Count Unit) : Count Unit := do
  let before := (← get).branches
  part
  modify fun t => { t with branches := before + 1 }
  if before = 0 then return ()
  if before = 1 then
    plain 2
    choices 2
  else choices 1

/-- Counts a choice, whose branches `parts` counts. -/
def choice (parts : Count Unit) : Count Unit := do
  let before := (← get).branches
  modify fun t => { t with branches := 0 }
  parts
  modify fun t => { t with branches := before }

/-! ## 2. Classes -/

/-- A number for some numbers, to look them up by. -/
def hash (ns : List Nat) : UInt64 :=
  ns.foldl (fun h n => (h ^^^ n.toUInt64) * 1099511628211) 14695981039346656037

/-- States that have been built, by what they do.  There is a fixed number of places; of two that
fall on one place, the later one is kept. -/
structure Known where
  places : UInt64
  table : Std.HashMap UInt64 (List Nat × Nat) := {}

/-- The state that does `key`, built by `build` if it is not known. -/
def Known.find (known : Known) (key : List Nat) (build : Count Nat) : Count (Nat × Known) := do
  let place := hash key % known.places
  match known.table[place]? with
  | some (k, id) => if k = key then return (id, known)
  | none => pure ()
  let id ← build
  return (id, { known with table := known.table.insert place (key, id) })

/-- Sequences by their first range, neighbours together, without it. -/
def byFirst : List (List ByteRange) → List (ByteRange × List (List ByteRange))
  | [] => []
  | [] :: seqs => byFirst seqs
  | (r :: rs) :: seqs =>
    match byFirst seqs with
    | (s, group) :: groups =>
      if r = s then (s, rs :: group) :: groups else (r, [rs]) :: (s, group) :: groups
    | [] => [(r, [rs])]

mutual

/-- A state that reads sequences of at most `depth` ranges and ends at `target`; states that do the
same are shared. -/
def forwardState (target : Nat) (depth : Nat) (seqs : List (List ByteRange)) (known : Known) :
    Count (Nat × Known) := do
  match depth with
  | 0 => return (target, known)
  | depth + 1 =>
    if seqs.all List.isEmpty then return (target, known)
    let (key, known) ← forwardStates target depth (byFirst seqs) known
    known.find key (state (key.length / 3 * transitionBytes))

/-- The states behind the first ranges of sequences, with these ranges before them. -/
def forwardStates (target : Nat) (depth : Nat) :
    List (ByteRange × List (List ByteRange)) → Known → Count (List Nat × Known)
  | [], known => return ([], known)
  | (r, seqs) :: groups, known => do
    let (next, known) ← forwardState target depth seqs known
    let (key, known) ← forwardStates target depth groups known
    return (r.lo :: r.hi :: next :: key, known)

end

def forwardClass (seqs : List (List ByteRange)) : Count Unit := do
  let target ← state 0
  let _ ← forwardState target 4 seqs { places := 10000 }

/-- The states that read one sequence backward and end at `target`; those that it has in common
with another are shared. -/
def backwardStates (target : Nat) : List ByteRange → Known → Count Known
  | [], known => return known
  | r :: rs, known => do
    let (next, known) ← known.find [target, r.lo, r.hi] (state 0)
    backwardStates next rs known

/-- The branches of a class that is read backward. -/
def backwardBranches (target : Nat) : List (List ByteRange) → Known → Count Unit
  | [], _ => return ()
  | seq :: seqs, known => do
    let known ← backwardStates target seq known
    choices 1
    backwardBranches target seqs known

def backwardClass (seqs : List (List ByteRange)) : Count Unit := do
  let _ ← state 0
  let target ← state 0
  backwardBranches target seqs { places := 1000 }

def countSet (backward : Bool) (s : CharSet) : Count Unit := do
  if s.isAscii then
    plain 1
    let _ ← state (s.ranges.length * transitionBytes)
  else
    let seqs := s.ranges.flatMap fun r => Utf8.sequences r.1 r.2
    if backward then backwardClass seqs else forwardClass seqs

/-! ## 3. Choices of words -/

/-- The words before and after each empty word: an empty word ends a list, unless there is nothing
before it and the one before was empty too. -/
def pieces (begun ended : Bool) : List (List Nat) → List (List (List Nat))
  | [] => [[]]
  | [] :: ws => if !begun && ended then pieces begun ended ws else [] :: pieces begun true ws
  | w :: ws =>
    match pieces true ended ws with
    | p :: ps => (w :: p) :: ps
    | [] => [[w]]

/-- Adds a word to the words with the same first byte, which are kept in order of the bytes. -/
def insertWord (b : Nat) (w : List Nat) :
    List (Nat × List (List Nat)) → List (Nat × List (List Nat))
  | [] => [(b, [w])]
  | (c, ws) :: rest =>
    if b < c then (b, [w]) :: (c, ws) :: rest
    else if b = c then (c, ws ++ [w]) :: rest
    else (c, ws) :: insertWord b w rest

/-- Words by their first byte, without it. -/
def byByte (ws : List (List Nat)) : List (Nat × List (List Nat)) :=
  ws.foldl (fun groups w =>
    match w with
    | [] => groups
    | b :: w => insertWord b w groups) []

mutual

/-- The states that tell some words apart, none of which is longer than `depth`. -/
def wordStates : (depth : Nat) → List (List Nat) → Count Unit
  | 0, _ => return ()
  | depth + 1, ws =>
    if ws.all List.isEmpty then return ()
    else do
      let ps := pieces false false ws
      pieceStates depth ps
      let _ ← state (((ps.filter (!·.isEmpty)).length + (ps.length - 1)) * choiceBytes)

/-- The states for the words between empty words. -/
def pieceStates : (depth : Nat) → List (List (List Nat)) → Count Unit
  | _, [] => return ()
  | depth, p :: ps => do
    let groups := byByte p
    groupStates depth groups
    match groups with
    | [] => pure ()
    | [_] => plain 1
    | _ =>
      let _ ← state (groups.length * transitionBytes)
    pieceStates depth ps

/-- The states for the words with one first byte. -/
def groupStates : (depth : Nat) → List (Nat × List (List Nat)) → Count Unit
  | _, [] => return ()
  | depth, (_, ws) :: groups => do
    wordStates depth ws
    groupStates depth groups

end

/-- The bytes of an expression that is a text, the last byte first if it is read backward. -/
def word? (backward : Bool) (e : Expr) : Option (List Nat) :=
  match e.parts with
  | [] => none
  | parts => (parts.mapM Expr.char?).map fun cs =>
    let bytes := cs.flatMap Utf8.encode
    if backward then bytes.reverse else bytes

def countWords (ws : List (List Nat)) : Count Unit := do
  plain 1
  wordStates (ws.foldl (fun n w => max n w.length) 0 + 1) ws

/-! ## 4. Expressions -/

/-- Which automaton is counted: whether it reads backward, and whether it notes groups. -/
structure Kind where
  backward : Bool
  groups : Bool

/-- A repetition of `part`, which has at least one character if `consumes`. -/
def countTimes (part : Count Unit) (consumes : Bool) (low : Nat) (high : Option Nat) :
    Count Unit := do
  match low, high with
  | 0, some 1 =>
    plain 1
    part
    plain 1
    choices 2
  | 0, none =>
    if consumes then
      plain 1
      part
      choices 2
    else
      part
      plain 3
      choices 4
  | low, none =>
    times part low
    plain 1
    choices 2
  | low, some high =>
    if low = 0 then plain 1 else times part low
    if low < high then
      plain 1
      times (do plain 1; part; choices 2) (high - low)

mutual

def countExpr (k : Kind) : Expr → Count Unit
  | .empty | .look _ => plain 1
  | .one s =>
    match (Expr.one s).char? with
    | some c => plain (Utf8.encode c).length
    | none => countSet k.backward s
  | .group _ _ e => do
    if k.groups then plain 1
    countExpr k e
    if k.groups then plain 1
  | .cat a b => do
    if k.backward then
      countExpr k b
      countExpr k a
    else
      countExpr k a
      countExpr k b
  | .alt a b =>
    match (Expr.alt a b).branches.mapM (word? k.backward) with
    | some ws => countWords ws
    | none =>
      choice do
        countBranches k a
        countBranches k b
  | .times e low high _ => countTimes (countExpr k e) e.consumes low high

/-- The branches of a choice that an expression stands for. -/
def countBranches (k : Kind) : Expr → Count Unit
  | .alt a b => do
    countBranches k a
    countBranches k b
  | .empty => branch (plain 1)
  | .look c => branch (countExpr k (.look c))
  | .one s => branch (countExpr k (.one s))
  | .group i n e => branch (countExpr k (.group i n e))
  | .cat a b => branch (countExpr k (.cat a b))
  | .times e l h g => branch (countExpr k (.times e l h g))

end

/-- Whether every match begins at the start of the text, or, backward, ends at its end. -/
def anchored (backward : Bool) : Expr → Bool
  | .empty | .one _ => false
  | .look c => c = if backward then .textEnd else .textStart
  | .group _ _ e => anchored backward e
  | .cat a b =>
    if backward then anchored backward b || (b.onlyEmpty && anchored backward a)
    else anchored backward a || (a.onlyEmpty && anchored backward b)
  | .alt a b => anchored backward a && anchored backward b
  | .times e low _ _ => low > 0 && anchored backward e

/-- The automaton that searches for several expressions at once, anywhere in a text. -/
def countAll (k : Kind) (es : List Expr) : Count Unit := do
  if es.all (anchored k.backward) then plain 1
  else countTimes (do plain 1; let _ ← state transitionBytes) true 0 none
  choice (es.forM fun e => branch do
    if k.groups then plain 1
    countExpr k e
    if k.groups then plain 1
    plain 1)

/-- Whether the automata of some expressions fit, when these are searched at once; a single
expression's automaton notes its groups. -/
def fits (groups : Bool) (es : List Expr) : Bool :=
  ((countAll ⟨false, groups⟩ es).run {}).isSome && ((countAll ⟨true, false⟩ es).run {}).isSome

end BuildLog.Pattern.Footprint
