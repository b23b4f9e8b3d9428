import BuildLog.Pattern.Escape

/-!
# Classes — sets of characters in brackets

A class lists characters, ranges, escapes and other classes.  Intersections and differences are
taken from left to right, each of all that has been listed since the one before.
-/

namespace BuildLog.Pattern

/-- The classes that are written as a name between colons. -/
def namedAscii? (name : String) : Option CharSet :=
  match name with
  | "alnum" => some (asciiLetter.union asciiDigit)
  | "alpha" => some asciiLetter
  | "ascii" => some (.ofRange 0 127)
  | "blank" => some ((CharSet.singleton '\t').union (.singleton ' '))
  | "cntrl" => some ((CharSet.ofRange 0 31).union (.ofRange 127 127))
  | "digit" => some asciiDigit
  | "graph" => some (.ofRange 33 126)
  | "lower" => some asciiLower
  | "print" => some (.ofRange 32 126)
  | "punct" => some (.ofRanges [(33, 47), (58, 64), (91, 96), (123, 126)])
  | "space" => some asciiBlank
  | "upper" => some asciiUpper
  | "word" => some asciiWord
  | "xdigit" => some (.ofRanges [(48, 57), (65, 70), (97, 102)])
  | _ => none

/-! ## 1. Parts -/

/-- How the next part of a class is combined with what comes before it. -/
inductive SetOp
  | inter
  | diff
  | symmDiff

def SetOp.apply (f : Flags) (op : SetOp) (s t : CharSet) : CharSet :=
  let s := f.fold s
  let t := f.fold t
  match op with
  | .inter => s.inter t
  | .diff => s.diff t
  | .symmDiff => s.symmDiff t

/-- A set and how deep the parts of its text are nested. -/
structure SetPart where
  set : CharSet
  depth : Nat := 0

/-- A class up to now: what has been listed since the last operation, how deep its items are
nested, and what it is to be combined with. -/
structure ClassState where
  current : CharSet := .none
  depths : List Nat := []
  before : Option (SetPart × SetOp) := none

namespace ClassState

/-- The set of all parts read up to now. -/
def value (f : Flags) (k : ClassState) : Read SetPart := do
  let depth ← nestList k.depths
  match k.before with
  | none => return ⟨k.current, depth⟩
  | some (s, op) => return ⟨op.apply f s.set k.current, ← nest (max s.depth depth)⟩

def add (k : ClassState) (s : CharSet) (depth : Nat) : ClassState :=
  { k with current := k.current.union s, depths := depth :: k.depths }

end ClassState

/-- A class in colons, if one begins after an opening bracket. -/
def readNamedAscii? : Read (Option CharSet) := do
  let s ← get
  match s.rest with
  | ':' :: rest =>
    let negated := rest.head? = some '^'
    let rest := if negated then rest.drop 1 else rest
    let name := rest.takeWhile (· ≠ ':')
    match rest.dropWhile (· ≠ ':') with
    | ':' :: ']' :: rest =>
      match namedAscii? (String.ofList name) with
      | some c =>
        let c ← ensure (s.flags.negate negated (s.flags.fold c))
        set { s with rest }
        return some c
      | none => return none
    | _ => return none
  | _ => return none

/-- One character or set of a class. -/
def readClassAtom : Read (Char ⊕ CharSet) := do
  let c ← needChar .unclosedClass
  advance
  if c = '\\' then
    match ← readEscape with
    | .char c | .byte c => return .inl c
    | .set s => return .inr s
    | .look _ => throw .badEscape
  else return .inl c

/-- The first character that is not white space; a number sign, if none has been passed, does not
count either. -/
def firstMatter (sign : Bool) : List Char → Option Char
  | [] => none
  | c :: cs =>
    if Unicode.isBlank c then firstMatter sign cs
    else if !sign && c = '#' then firstMatter true cs
    else some c

/-- The character that decides what a hyphen before `rest` means. -/
def afterHyphen? (verbose : Bool) (rest : List Char) : Option Char :=
  if verbose then firstMatter false rest <|> rest.head? else rest.head?

/-- Whether a hyphen that comes next is the middle of a range. -/
def atRange : Read Bool := do
  let s ← get
  match s.rest with
  | '-' :: rest =>
    let next := afterHyphen? s.flags.verbose rest
    return next ≠ some ']' && next ≠ some '-'
  | _ => return false

/-- A character, set or range of a class. -/
def readClassRange : Read CharSet := do
  let f ← flags
  let atom ← readClassAtom
  skip
  let _ ← needChar .unclosedClass
  let s ←
    if ← atRange then
      step
      match atom, ← readClassAtom with
      | .inl lo, .inl hi =>
        if hi.toNat < lo.toNat then throw .badRange
        pure (CharSet.ofRange lo.toNat hi.toNat)
      | _, _ => throw .badRange
    else
      match atom with
      | .inl c => pure (CharSet.singleton c)
      | .inr s => pure s
  if !f.unicode && !s.isAscii then throw .notUnicode
  return s

/-- Takes the hyphens that open a class; they stand for themselves. -/
def readLeadingHyphens : (fuel : Nat) → ClassState → Read ClassState
  | 0, k => pure k
  | fuel + 1, k => do
    if ← take? ['-'] then
      skip
      readLeadingHyphens fuel (k.add (.singleton '-') 0)
    else return k

/-- What an opening bracket is followed by: a circumflex that negates the class, and hyphens or a
closing bracket that stand for themselves. -/
def readClassStart (fuel : Nat) : Read (Bool × ClassState) := do
  skip
  let negated ← take? ['^']
  if negated then skip
  let k ← readLeadingHyphens fuel {}
  if k.depths.isEmpty then
    if ← take? [']'] then
      skip
      return (negated, k.add (.singleton ']') 0)
  return (negated, k)

/-! ## 2. Classes -/

mutual

/-- A class, after its opening bracket; `opened` classes and groups are open around it. -/
def readClass : (fuel opened : Nat) → Read SetPart
  | 0, _ => throw .unclosedClass
  | fuel + 1, opened => do
    let inside ← nest opened
    let (negated, k) ← readClassStart fuel
    let part ← readClassParts fuel inside k
    let f ← flags
    let set ← ensure (f.negate negated (f.fold part.set))
    return ⟨set, ← nest part.depth⟩

/-- The rest of a class, with its closing bracket. -/
def readClassParts : (fuel opened : Nat) → ClassState → Read SetPart
  | 0, _, _ => throw .unclosedClass
  | fuel + 1, opened, k => do
    skip
    let f ← flags
    if ← take? [']'] then k.value f
    else if ← take? ['['] then
      match ← readNamedAscii? with
      | some s => readClassParts fuel opened (k.add s 0)
      | none =>
        let part ← readClass fuel opened
        readClassParts fuel opened (k.add part.set part.depth)
    else if ← take? ['&', '&'] then
      readClassParts fuel opened { before := some (← k.value f, .inter) }
    else if ← take? ['-', '-'] then
      readClassParts fuel opened { before := some (← k.value f, .diff) }
    else if ← take? ['~', '~'] then
      readClassParts fuel opened { before := some (← k.value f, .symmDiff) }
    else
      let s ← readClassRange
      readClassParts fuel opened (k.add s 0)

end

end BuildLog.Pattern
