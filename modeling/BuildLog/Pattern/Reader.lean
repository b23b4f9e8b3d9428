import BuildLog.Pattern.Class

/-!
# Reading patterns — from pattern text to expressions

There are no back-references and no looking ahead or behind.  Every part that is read comes with
the depth to which its text is nested, which is limited.
-/

namespace BuildLog.Pattern

/-- An expression, and how deep the parts of its text are nested. -/
structure Piece where
  expr : Expr
  depth : Nat := 0

/-! ## 1. Repetitions -/

/-- Counts of repetition are below this bound. -/
def countBound : Nat := 1 <<< 32

/-- A count, with white space around it. -/
def readCount : Read Nat := do
  let _ ← takeWhile Unicode.isBlank
  let ds ← takeMatter Char.isDigit
  let _ ← takeWhile Unicode.isBlank
  if ds.isEmpty then throw .badCount
  let n := ds.foldl (fun n d => n * 10 + (d.toNat - '0'.toNat)) 0
  if countBound ≤ n then throw .badCount
  return n

/-- Whether a repetition is as long as possible: a question mark after it says otherwise, and so
does the flag that swaps the two. -/
def readGreed : Read Bool := do
  let f ← flags
  let lazy ← take? ['?']
  return lazy == f.swapGreed

/-- The counts of a repetition, after its opening brace, and its greed. -/
def readCounts : Read (Nat × Option Nat × Bool) := do
  skip
  let low ← readCount
  let high ←
    if ← take? [','] then
      skip
      if (← peek) = some '\x7d' then pure none
      else
        let n ← readCount
        pure (some n)
    else pure (some low)
  if !(← take? ['\x7d']) then throw .badCount
  skip
  let greedy ← readGreed
  if high.any (· < low) then throw .badCount
  return (low, high, greedy)

/-- The repetition that comes next, if there is one: its counts and its greed. -/
def readRepetition? : Read (Option (Nat × Option Nat × Bool)) := do
  skip
  if ← take? ['*'] then return some (0, none, ← readGreed)
  else if ← take? ['+'] then return some (1, none, ← readGreed)
  else if ← take? ['?'] then return some (0, some 1, ← readGreed)
  else if ← take? ['\x7b'] then return some (← readCounts)
  else return none

/-- The repetitions that follow an expression. -/
def readRepetitions : (fuel : Nat) → Piece → Read Piece
  | 0, p => pure p
  | fuel + 1, p => do
    match ← readRepetition? with
    | some (low, high, greedy) =>
      readRepetitions fuel ⟨p.expr.repeated low high greedy, ← nest p.depth⟩
    | none => return p

/-! ## 2. Groups and flags -/

/-- The flags with the one of the given letter switched; a letter that is no flag is a fault. -/
def Flags.switch (f : Flags) (letter : Char) (on : Bool) : Except Fault Flags :=
  match letter with
  | 'i' => .ok { f with ignoreCase := on }
  | 'm' => .ok { f with multiLine := on }
  | 's' => .ok { f with dotAll := on }
  | 'R' => .ok { f with anyLineEnd := on }
  | 'U' => .ok { f with swapGreed := on }
  | 'u' => .ok { f with unicode := on }
  | 'x' => .ok { f with verbose := on }
  | _ => .error .badFlags

/-- The letters of a group's flags: each at most once, at most one minus sign, and not at the
end. -/
def switchAll (f : Flags) (on : Bool) (used : List Char) : List Char → Except Fault Flags
  | [] => .ok f
  | '-' :: cs => if !on || cs.isEmpty then .error .badFlags else switchAll f false used cs
  | c :: cs =>
    if used.contains c then .error .badFlags
    else
      match f.switch c on with
      | .ok f => switchAll f on (c :: used) cs
      | .error e => .error e

/-- Whether a character may stand in the name of a group. -/
def isNameChar (first : Bool) (c : Char) : Bool :=
  c = '_' || (if first then Unicode.isAlphabetic c
    else ['.', '[', ']'].contains c || Unicode.isAlphanumeric c)

/-- The name of a group, and the angle bracket after it. -/
def readGroupName : Read String := do
  let name ← takeWhile (· ≠ '>')
  if !(← take? ['>']) then throw .badGroupName
  match name with
  | [] => throw .badGroupName
  | c :: cs =>
    if !(isNameChar true c && cs.all (isNameChar false)) then throw .badGroupName
    let name := String.ofList name
    let s ← get
    if s.names.contains name then throw .duplicateGroupName
    set { s with names := name :: s.names }
    return name

/-- How a group opens. -/
inductive Opening
  /-- A group whose place is noted. -/
  | capture (index : Nat) (name : Option String)
  /-- A group that only holds together; its body has the given flags. -/
  | plain (flags : Flags)
  /-- No group, but flags for what follows. -/
  | switch (flags : Flags)

def openCapture (name : Option String) : Read Opening := do
  let s ← get
  set { s with groups := s.groups + 1 }
  return .capture (s.groups + 1) name

/-- What would open a group that looks ahead or behind. -/
def lookarounds : List (List Char) :=
  [['?', '='], ['?', '!'], ['?', '<', '='], ['?', '<', '!']]

/-- What opens a group with a name. -/
def namedOpenings : List (List Char) := [['?', 'P', '<'], ['?', '<']]

/-- What stands after an opening parenthesis. -/
def readOpening : Read Opening := do
  skip
  let s ← get
  if lookarounds.any (·.isPrefixOf s.rest) then throw .lookaround
  match namedOpenings.find? (·.isPrefixOf s.rest) with
  | some opening =>
    set { s with rest := s.rest.drop opening.length, groups := s.groups + 1 }
    let name ← readGroupName
    return .capture (s.groups + 1) (some name)
  | none => pure ()
  if ← take? ['?'] then
    let f ← flags
    let letters ← takeWhile fun c => c ≠ ':' && c ≠ ')'
    let c ← needChar .badFlags
    advance
    match switchAll f true [] letters with
    | .error e => throw e
    | .ok f =>
      if c = ':' then return .plain f
      else if letters.isEmpty then throw .nothingToRepeat
      else return .switch f
  openCapture none

/-! ## 3. Expressions -/

/-- The expression of a single character. -/
def Flags.literal (f : Flags) (c : Char) : Expr := .one (f.fold (.singleton c))

def Flags.dot (f : Flags) : Except Fault Expr :=
  if !f.unicode then .error .notUnicode
  else if f.dotAll then .ok (.one .all)
  else if f.anyLineEnd then
    .ok (.one ((CharSet.singleton '\n').union (.singleton '\r')).complement)
  else .ok (.one (CharSet.singleton '\n').complement)

def Flags.caret (f : Flags) : Look :=
  if f.multiLine then if f.anyLineEnd then .anyLineStart else .lineStart else .textStart

def Flags.dollar (f : Flags) : Look :=
  if f.multiLine then if f.anyLineEnd then .anyLineEnd else .lineEnd else .textEnd

/-- The expression of an escape. -/
def Flags.escape (f : Flags) : Escape → Except Fault Expr
  | .char c => .ok (f.literal c)
  | .byte c => if !f.unicode && 127 < c.toNat then .error .notUnicode else .ok (f.literal c)
  | .set s => .ok (.one s)
  | .look l => .ok (.look l)

/-- The sequence of some pieces, last one first. -/
def sequencePiece (rev : List Piece) : Read Piece := do
  return ⟨.sequence (rev.reverse.map (·.expr)), ← nestList (rev.map (·.depth))⟩

/-- The choice of some pieces, last one first. -/
def choicePiece (rev : List Piece) : Read Piece := do
  return ⟨.choice (rev.reverse.map (·.expr)), ← nestList (rev.map (·.depth))⟩

mutual

/-- The rest of the choices up to a closing parenthesis or the end, after the choices `choices` and
the expressions `parts` of the choice being read, last ones first. -/
def readChoices : (fuel opened : Nat) → (choices parts : List Piece) → Read Piece
  | 0, _, _, _ => throw .tooLarge
  | fuel + 1, opened, choices, parts => do
    skip
    match ← peek with
    | none | some ')' => choicePiece ((← sequencePiece parts) :: choices)
    | some '|' =>
      advance
      readChoices fuel opened ((← sequencePiece parts) :: choices) []
    | some c =>
      advance
      match ← readItem fuel opened c with
      | none => readChoices fuel opened choices (⟨.empty, 0⟩ :: parts)
      | some p =>
        let p ← readRepetitions fuel p
        readChoices fuel opened choices (p :: parts)

/-- The item of a sequence that begins with `c`; flags are none. -/
def readItem : (fuel opened : Nat) → (c : Char) → Read (Option Piece)
  | 0, _, _ => throw .tooLarge
  | fuel + 1, opened, c => do
    let f ← flags
    match c with
    | '*' | '+' | '?' | '\x7b' => throw .nothingToRepeat
    | '.' => return some ⟨← ensure f.dot, 0⟩
    | '^' => return some ⟨.look f.caret, 0⟩
    | '$' => return some ⟨.look f.dollar, 0⟩
    | '[' =>
      let part ← readClass fuel opened
      return some ⟨.one part.set, part.depth⟩
    | '\\' => return some ⟨← ensure (f.escape (← readEscape)), 0⟩
    | '(' =>
      match ← readOpening with
      | .switch f =>
        modify fun s => { s with flags := f }
        return none
      | .plain inner =>
        modify fun s => { s with flags := inner }
        return some (← readBody fuel opened f)
      | .capture i name =>
        let p ← readBody fuel opened f
        return some { p with expr := .group i name p.expr }
    | c => return some ⟨f.literal c, 0⟩

/-- The body of a group and its closing parenthesis; `outer` are the flags after it. -/
def readBody : (fuel opened : Nat) → (outer : Flags) → Read Piece
  | 0, _, _ => throw .tooLarge
  | fuel + 1, opened, outer => do
    let p ← readChoices fuel (← nest opened) [] []
    if !(← take? [')']) then throw .unclosedGroup
    modify fun s => { s with flags := outer }
    return { p with depth := ← nest p.depth }

end

/-- The expression that a text stands for.  Every step of the reader but a few takes a character,
so four times the length is enough. -/
def Expr.ofText (f : Flags) (text : List Char) : Except Fault Expr :=
  match (readChoices (4 * text.length + 8) 0 [] []).run { rest := text, flags := f } with
  | .error e => .error e
  | .ok (p, s) => if s.rest.isEmpty then .ok p.expr else .error .unopenedGroup

end BuildLog.Pattern
