import BuildLog.Yaml.Word

/-!
# Tokens — the marks and scalars of a YAML text

The text is cut into tokens from left to right.  Block structure is told by columns: a token in a
column beyond the current block's opens a block, and one before it closes blocks.  A key of a
mapping is known as such only when its colon comes, so the mark for it is put in afterwards, at the
place where the key began.
-/

namespace BuildLog.Yaml

/-- Why a text is no YAML document. -/
inductive Fault
  | badCharacter
  | badIndentation
  | missingColon
  | misplaced
  | unclosed
  | badEscape
  | badScalarHeader
  | badName
  | badDirective
  | unexpectedToken
  | unknownAnchor
  | severalDocuments
deriving Repr, DecidableEq

def Fault.message : Fault → String
  | .badCharacter => "found character that cannot start any token"
  | .badIndentation => "found a tab character that violates indentation"
  | .missingColon => "could not find expected ':'"
  | .misplaced => "block entry or mapping value is not allowed in this context"
  | .unclosed => "found unexpected end of stream"
  | .badEscape => "found unknown escape character"
  | .badScalarHeader => "did not find expected comment or line break"
  | .badName => "did not find expected alphabetic or numeric character"
  | .badDirective => "found unknown directive"
  | .unexpectedToken => "did not find expected node content"
  | .unknownAnchor => "unknown anchor"
  | .severalDocuments => "more than one document"

/-- How a scalar is written: as it stands, in quotes, or as a block whose line breaks are kept or
folded. -/
inductive Style
  | plain
  | quoted
  | literal
  | folded
deriving Repr, DecidableEq

inductive Token
  /-- The line with the version of the format. -/
  | version
  /-- A line that says what a tag's handle stands for. -/
  | handle (name : String) (meaning : List UInt8)
  | documentStart
  | documentEnd
  | blockSequence
  | blockMapping
  | blockEnd
  | openBracket
  | closeBracket
  | openBrace
  | closeBrace
  | entry
  | comma
  | key
  | value
  | alias (name : String)
  | anchor (name : String)
  /-- A tag: the handle that stands for its beginning, and the bytes of the rest. -/
  | tag (handle : String) (rest : List UInt8)
  | scalar (text : String) (style : Style)
deriving Repr, DecidableEq

namespace Token

/-! ## 1. Characters -/

/-- Characters that may stand in a document. -/
def isPrintable (c : Char) : Bool :=
  let n := c.toNat
  n = 9 || n = 10 || n = 13 || (0x20 ≤ n && n ≤ 0x7E) || n = 0x85
    || (0xA0 ≤ n && n ≤ 0xFFFD) || 0x10000 ≤ n

def isBreak (c : Char) : Bool := ['\n', '\r', '\u0085', '\u2028', '\u2029'].contains c

def isBlank (c : Char) : Bool := c = ' ' || c = '\t'

/-- Whether a blank, a line break or the end comes next. -/
def blankNext : List Char → Bool
  | [] => true
  | c :: _ => isBlank c || isBreak c

def breakNext : List Char → Bool
  | [] => true
  | c :: _ => isBreak c

def isFlowMark (c : Char) : Bool := [',', '[', ']', '\x7b', '\x7d'].contains c

/-! ## 2. State -/

/-- A place where a key may have begun: the number of tokens before it, and where it is. -/
structure KeyStart where
  tokens : Nat
  required : Bool
  line : Nat
  column : Nat
  index : Nat
deriving Repr

structure State where
  rest : List Char
  index : Nat := 0
  line : Nat := 0
  column : Nat := 0
  /-- Columns of the open blocks, the innermost first; a text without blocks has none. -/
  blocks : List Nat := []
  /-- For each open bracket, and for the text outside of all, where a key may have begun. -/
  keys : List (Option KeyStart) := [none]
  /-- Whether a key may begin at the next token. -/
  keyAllowed : Bool := true
  tokens : Array Token := #[]

abbrev Lexer := StateT State (Except Fault)

/-- Whether some bracket or brace is open. -/
def State.inFlow (s : State) : Bool := s.keys.length > 1

/-- The least column of text that belongs to the current block. -/
def State.innerColumn (s : State) : Nat :=
  match s.blocks with
  | [] => 0
  | c :: _ => c + 1

/-- Passes one character, or one line break. -/
def State.advance (s : State) : State :=
  match s.rest with
  | [] => s
  | '\r' :: '\n' :: cs =>
    { s with rest := cs, index := s.index + 2, line := s.line + 1, column := 0 }
  | c :: cs =>
    if isBreak c then { s with rest := cs, index := s.index + 1, line := s.line + 1, column := 0 }
    else { s with rest := cs, index := s.index + 1, column := s.column + 1 }

def State.pass (s : State) : (n : Nat) → State
  | 0 => s
  | n + 1 => s.advance.pass n

def advance : Lexer Unit := modify State.advance

def push (t : Token) : Lexer Unit := modify fun s => { s with tokens := s.tokens.push t }

/-- What a line break stands for in the value of a scalar. -/
def breakText (c : Char) : List Char := if c = '\u2028' || c = '\u2029' then [c] else ['\n']

/-! ## 3. Blocks and keys -/

/-- Closes the blocks that lie beyond a column. -/
def closeBlocks (column : Nat) (outermost : Bool) : (fuel : Nat) → State → State
  | 0, s => s
  | fuel + 1, s =>
    match s.blocks with
    | c :: blocks =>
      if column < c || outermost then
        closeBlocks column outermost fuel { s with blocks, tokens := s.tokens.push .blockEnd }
      else s
    | [] => s

/-- Closes the blocks beyond the current column, outside brackets. -/
def unindent : Lexer Unit :=
  modify fun s => if s.inFlow then s else closeBlocks s.column false s.blocks.length s

def unindentAll : Lexer Unit :=
  modify fun s => if s.inFlow then s else closeBlocks 0 true s.blocks.length s

/-- Opens a block at a column beyond the current one, with its token put in at `at_`. -/
def indent (column : Nat) (at_ : Nat) (t : Token) : Lexer Unit :=
  modify fun s =>
    if s.inFlow || column < s.innerColumn then s
    else { s with blocks := column :: s.blocks, tokens := s.tokens.insertIdxIfInBounds at_ t }

/-- Forgets where a key may have begun; a key that had to come is a fault. -/
def dropKey : Lexer Unit := do
  let s ← get
  match s.keys with
  | some k :: keys =>
    if k.required then throw .missingColon
    set { s with keys := none :: keys }
  | _ => return ()

/-- Notes that a key may begin here. -/
def saveKey : Lexer Unit := do
  let s ← get
  if s.keyAllowed then
    dropKey
    let required := !s.inFlow && s.blocks.head? = some s.column
    modify fun s => { s with
      keys := some ⟨s.tokens.size, required, s.line, s.column, s.index⟩ :: s.keys.drop 1 }

/-- A key lies within one line and is not too long. -/
def expired (s : State) (k : KeyStart) : Bool := k.line < s.line || k.index + 1024 < s.index

/-- Forgets the starts of keys that can be keys no more. -/
def dropExpired : Lexer Unit := do
  let s ← get
  if s.keys.any fun k => k.any (expired s) then
    if s.keys.any fun k => k.any fun k => k.required && expired s k then throw .missingColon
    set { s with keys := s.keys.map (Option.filter fun k => !expired s k) }

def allowKey (b : Bool) : Lexer Unit := modify fun s => { s with keyAllowed := b }

/-! ## 4. Between tokens -/

/-- Passes blanks, comments and line breaks, and a byte order mark at the start of a line. -/
def skipToToken : (fuel : Nat) → State → State
  | 0, s => s
  | fuel + 1, s =>
    match s.rest with
    | [] => s
    | c :: _ =>
      if c = ' ' || (c = '\t' && (s.inFlow || !s.keyAllowed)) || (c = '\uFEFF' && s.column = 0) then
        skipToToken fuel s.advance
      else if c = '#' then
        skipToToken fuel (s.pass (s.rest.takeWhile fun c => !isBreak c).length)
      else if isBreak c then
        skipToToken fuel { s.advance with keyAllowed := !s.inFlow || s.keyAllowed }
      else s

/-! ## 5. Scalars -/

/-- White space inside a scalar: blanks within a line, or the first line break and the ones after
it.  Characters stand in reverse, the last first. -/
structure Gap where
  blanks : List Char := []
  first : Option (List Char) := none
  later : List Char := []

/-- What the white space stands for, in reverse: one line break is a space, more are one less. -/
def Gap.reversed (g : Gap) : List Char :=
  match g.first with
  | none => g.blanks
  | some ['\n'] => if g.later.isEmpty then [' '] else g.later
  | some b => g.later ++ b

/-- Adds a blank or a line break; blanks after a line break mean nothing. -/
def Gap.add (g : Gap) (c : Char) : Gap :=
  if isBlank c then if g.first.isSome then g else { g with blanks := c :: g.blanks }
  else
    match g.first with
    | none => { first := some (breakText c) }
    | some _ => { g with later := breakText c ++ g.later }

/-- Whether a document mark stands at the start of this line. -/
def State.atDocumentMark (s : State) : Bool :=
  s.column = 0 && (['-', '-', '-'].isPrefixOf s.rest || ['.', '.', '.'].isPrefixOf s.rest)
    && blankNext (s.rest.drop 3)

/-- Passes white space inside a scalar; `least` is the least column that a tab may stand in at the
start of a line. -/
def readGap (least : Option Nat) : (fuel : Nat) → Gap → Lexer Gap
  | 0, g => return g
  | fuel + 1, g => do
    let s ← get
    match s.rest with
    | [] => return g
    | c :: _ =>
      if isBlank c || isBreak c then
        if c = '\t' && g.first.isSome && least.any (s.column < ·) then throw .badIndentation
        advance
        readGap least fuel (g.add c)
      else return g

/-- Whether a plain scalar ends at this character. -/
def endsPlain (flow : Bool) (c : Char) (following : List Char) : Bool :=
  (c = ':' && blankNext following) || (flow && isFlowMark c)

/-- The rest of a plain scalar, in which `acc` has been read, last character first; `gap` is the
white space before the next part. -/
def readPlain : (fuel : Nat) → (acc : List Char) → Gap → Lexer (List Char)
  | 0, acc, _ => return acc
  | fuel + 1, acc, gap => do
    let s ← get
    match s.rest with
    | [] => return acc
    | c :: cs =>
      let fresh := acc.isEmpty || !(gap.first.isNone && gap.blanks.isEmpty)
      if fresh && (s.atDocumentMark || c = '#') then return acc
      else if isBlank c || isBreak c then
        let gap ← readGap (some s.innerColumn) fuel {}
        let s ← get
        if gap.first.isSome then allowKey true
        if !s.inFlow && s.column < s.innerColumn then return acc
        readPlain fuel acc gap
      else if s.inFlow && c = ':' && cs.head?.any (fun d => isFlowMark d || d = '?') then
        throw .misplaced
      else if endsPlain s.inFlow c cs then return acc
      else
        advance
        if gap.first.isSome then allowKey false
        readPlain fuel (c :: (gap.reversed ++ acc)) {}

/-- The character with the next `n` hexadecimal digits as its code point. -/
def readHexEscape (n : Nat) : Lexer Char := do
  let s ← get
  let ds := (s.rest.take n).filterMap (Word.digit? 16)
  if ds.length < n then throw .badEscape
  let v := ds.foldl (fun v d => v * 16 + d) 0
  if !v.isValidChar then throw .badEscape
  set (s.pass n)
  return Char.ofNat v

def simpleEscape? : Char → Option Char
  | '0' => some '\x00'
  | 'a' => some '\x07'
  | 'b' => some '\x08'
  | 't' | '\t' => some '\t'
  | 'n' => some '\n'
  | 'v' => some '\x0b'
  | 'f' => some '\x0c'
  | 'r' => some '\r'
  | 'e' => some '\x1b'
  | ' ' => some ' '
  | '"' => some '"'
  | '/' => some '/'
  | '\\' => some '\\'
  | 'N' => some '\u0085'
  | '_' => some '\u00a0'
  | 'L' => some '\u2028'
  | 'P' => some '\u2029'
  | _ => none

def readEscape : Lexer Char := do
  match (← get).rest with
  | [] => throw .unclosed
  | c :: _ =>
    advance
    match c with
    | 'x' => readHexEscape 2
    | 'u' => readHexEscape 4
    | 'U' => readHexEscape 8
    | _ =>
      match simpleEscape? c with
      | some d => return d
      | none => throw .badEscape

/-- The rest of a scalar in quotes, with its closing quote. -/
def readQuoted (quote : Char) : (fuel : Nat) → (acc : List Char) → Lexer (List Char)
  | 0, _ => throw .unclosed
  | fuel + 1, acc => do
    let s ← get
    if s.atDocumentMark then throw .unclosed
    match s.rest with
    | [] => throw .unclosed
    | c :: cs =>
      if isBlank c || isBreak c then
        let gap ← readGap none fuel {}
        readQuoted quote fuel (gap.reversed ++ acc)
      else if c = '\'' && quote = '\'' && cs.head? = some '\'' then
        set (s.pass 2)
        readQuoted quote fuel ('\'' :: acc)
      else if c = quote then
        advance
        return acc
      else if c = '\\' && quote = '"' then
        advance
        if !cs.isEmpty && breakNext cs then
          advance
          let gap ← readGap none fuel { first := some [] }
          readQuoted quote fuel (gap.reversed ++ acc)
        else
          let d ← readEscape
          readQuoted quote fuel (d :: acc)
      else
        advance
        readQuoted quote fuel (c :: acc)

/-! ## 6. Block scalars -/

/-- Empty lines before the content of a block scalar, in reverse, and the column that it begins
in. -/
def readEmptyLines (given : Option Nat) : (fuel : Nat) → (furthest : Nat) → (acc : List Char) →
    Lexer (Nat × List Char)
  | 0, furthest, acc => return (furthest, acc)
  | fuel + 1, furthest, acc => do
    modify fun s => s.pass (match given with
      | none => (s.rest.takeWhile (· = ' ')).length
      | some n => ((s.rest.take (n - s.column)).takeWhile (· = ' ')).length)
    let s ← get
    match s.rest with
    | [] => return (max furthest s.column, acc)
    | c :: _ =>
      if c = '\t' && given.all (s.column < ·) then throw .badIndentation
      else if isBreak c then
        advance
        readEmptyLines given fuel (max furthest s.column) (breakText c ++ acc)
      else return (max furthest s.column, acc)

/-- The text of a block scalar and what ends it: its last line break, and the empty lines after.
All three stand in reverse. -/
structure BlockText where
  text : List Char := []
  lastBreak : List Char := []
  empty : List Char := []

/-- The lines of a block scalar in a column, after those in `b`; `blankBefore` says whether the last
line began with a blank. -/
def readBlockLines (folded : Bool) (column : Nat) : (fuel : Nat) → (b : BlockText) →
    (blankBefore : Bool) → Lexer BlockText
  | 0, b, _ => return b
  | fuel + 1, b, blankBefore => do
    let s ← get
    if s.column ≠ column || s.rest.isEmpty then return b
    let blankHere := s.rest.head?.any isBlank
    let joined :=
      if folded && b.lastBreak = ['\n'] && !blankBefore && !blankHere then
        if b.empty.isEmpty then [' '] else b.empty
      else b.empty ++ b.lastBreak
    let line := s.rest.takeWhile fun c => !isBreak c
    set (s.pass line.length)
    let lastBreak ← do
      match (← get).rest with
      | [] => pure []
      | c :: _ =>
        advance
        pure (breakText c)
    let (_, empty) ← readEmptyLines (some column) fuel 0 []
    let text := line.reverse ++ (joined ++ b.text)
    readBlockLines folded column fuel { text, lastBreak, empty } blankHere

/-- What happens to the line breaks at the end of a block scalar. -/
inductive Chomping
  | strip
  | clip
  | keep

def chomping? : Char → Option Chomping
  | '-' => some .strip
  | '+' => some .keep
  | _ => none

/-- The width of indentation that a block scalar gives. -/
def width? (c : Char) : Option Nat :=
  if c.isDigit then some (c.toNat - '0'.toNat) else none

/-- The marks after the sign of a block scalar, in either order. -/
def readBlockMarks : Lexer (Chomping × Option Nat) := do
  let s ← get
  match s.rest.head?.bind chomping?, s.rest.head?.bind width? with
  | some k, _ =>
    advance
    match (← get).rest.head?.bind width? with
    | some w =>
      advance
      return (k, some w)
    | none => return (k, none)
  | none, some w =>
    advance
    match (← get).rest.head?.bind chomping? with
    | some k =>
      advance
      return (k, some w)
    | none => return (.clip, some w)
  | none, none => return (.clip, none)

/-- A block scalar, after its sign; no more than `fuel` lines. -/
def readBlockScalar (folded : Bool) (fuel : Nat) : Lexer String := do
  let (k, width) ← readBlockMarks
  if width = some 0 then throw .badScalarHeader
  modify fun s => s.pass (s.rest.takeWhile isBlank).length
  modify fun s =>
    if s.rest.head? = some '#' then s.pass (s.rest.takeWhile fun c => !isBreak c).length else s
  let s ← get
  if !breakNext s.rest then throw .badScalarHeader
  advance
  let given := width.map fun w => match s.blocks with
    | [] => w
    | c :: _ => c + w
  let (furthest, empty) ← readEmptyLines given fuel 0 []
  let column := given.getD (max furthest (max s.innerColumn 1))
  let b ← readBlockLines folded column fuel { empty } false
  return String.ofList (match k with
    | .strip => b.text
    | .clip => b.lastBreak ++ b.text
    | .keep => b.empty ++ (b.lastBreak ++ b.text)).reverse

/-! ## 7. Names, tags and directives -/

def isNameChar (c : Char) : Bool := c.isAlphanum || c = '-' || c = '_'

/-- The name of an anchor or alias, after its sign. -/
def readName : Lexer String := do
  let s ← get
  let name := s.rest.takeWhile isNameChar
  let s := s.pass name.length
  let ends := match s.rest with
    | [] => true
    | c :: _ => isBlank c || isBreak c || ['?', ':', ',', ']', '\x7d', '%', '@', '\x60'].contains c
  if name.isEmpty || !ends then throw .badName
  set s
  return String.ofList name

/-- Characters of a tag; `flow` says whether they may be those of a flow collection. -/
def isTagChar (flow : Bool) (c : Char) : Bool :=
  isNameChar c
    || [';', '/', '?', ':', '@', '&', '=', '+', '$', '.', '!', '~', '*', '\'', '(', ')',
      '%'].contains c
    || (flow && [',', '[', ']'].contains c)

/-- A byte that is written as a percent sign and two hexadecimal digits. -/
def readOctet : Lexer UInt8 := do
  let s ← get
  match s.rest with
  | '%' :: a :: b :: _ =>
    match Word.digits? 16 [a, b] with
    | some n =>
      set (s.pass 3)
      return n.toUInt8
    | none => throw .badEscape
  | _ => throw .badEscape

/-- The number of bytes in the encoding of a character, by its first byte. -/
def encodedLength? (b : UInt8) : Option Nat :=
  if b < 0x80 then some 1
  else if b &&& 0xE0 = 0xC0 then some 2
  else if b &&& 0xF0 = 0xE0 then some 3
  else if b &&& 0xF8 = 0xF0 then some 4
  else none

/-- Bytes that continue the encoding of a character. -/
def readContinuation : (n : Nat) → Lexer (List UInt8)
  | 0 => return []
  | n + 1 => do
    let b ← readOctet
    if b &&& 0xC0 ≠ 0x80 then throw .badEscape
    return b :: (← readContinuation n)

/-- The bytes of an escaped character, every one of them escaped. -/
def readEscapedChar : Lexer (List UInt8) := do
  let b ← readOctet
  match encodedLength? b with
  | some n => return b :: (← readContinuation (n - 1))
  | none => throw .badEscape

/-- The bytes of the characters of a tag, the last first. -/
def readTagBytes (flow : Bool) : (fuel : Nat) → (acc : List UInt8) → Lexer (List UInt8)
  | 0, acc => return acc
  | fuel + 1, acc => do
    match (← get).rest with
    | [] => return acc
    | c :: _ =>
      if c = '%' then
        let bytes ← readEscapedChar
        readTagBytes flow fuel (bytes.reverse ++ acc)
      else if isTagChar flow c then
        advance
        readTagBytes flow fuel (c.toNat.toUInt8 :: acc)
      else return acc

/-- Takes the characters of a tag, of which there must be one; a zero byte ends what they say. -/
def readTagText (flow : Bool) : Lexer (List UInt8) := do
  let bytes ← readTagBytes flow ((← get).rest.length + 1) []
  if bytes.isEmpty then throw .badName
  return bytes.reverse.takeWhile (· ≠ 0)

def signAlone : List UInt8 := [0x21]

/-- A tag, after its sign: in angle brackets, after a named handle, or after the sign alone. -/
def readTag : Lexer Token := do
  let s ← get
  let name := s.rest.takeWhile isNameChar
  let t ← do
    if s.rest.head? = some '<' then
      advance
      let bytes ← readTagText true
      if (← get).rest.head? ≠ some '>' then throw .badName
      advance
      pure (.tag "" bytes)
    else if (s.rest.drop name.length).head? = some '!' then
      set (s.pass (name.length + 1))
      pure (.tag ("!" ++ String.ofList name ++ "!") (← readTagText false))
    else if s.rest.head?.any (isTagChar false) then
      let bytes ← readTagText false
      pure (if bytes.isEmpty then .tag "" signAlone else .tag "!" bytes)
    else pure (.tag "" signAlone)
  let s ← get
  if blankNext s.rest || (s.inFlow && s.rest.head? = some ',') then return t else throw .badName

def passBlanks : Lexer Unit := modify fun s => s.pass (s.rest.takeWhile isBlank).length

/-- Takes digits, of which there must be one to nine. -/
def readDigits : Lexer Nat := do
  let s ← get
  let ds := s.rest.takeWhile Char.isDigit
  if ds.isEmpty || ds.length > 9 then throw .badDirective
  set (s.pass ds.length)
  return ds.foldl (fun n d => n * 10 + (d.toNat - '0'.toNat)) 0

def readVersion : Lexer Token := do
  let major ← readDigits
  if (← get).rest.head? ≠ some '.' then throw .badDirective
  advance
  let minor ← readDigits
  if major = 1 && (minor = 1 || minor = 2) then return .version else throw .badDirective

def readHandle : Lexer Token := do
  let s ← get
  if s.rest.head? ≠ some '!' then throw .badDirective
  let name := (s.rest.drop 1).takeWhile isNameChar
  let closed := (s.rest.drop (name.length + 1)).head? = some '!'
  if !name.isEmpty && !closed then throw .badDirective
  let handle := '!' :: name ++ (if closed then ['!'] else [])
  set (s.pass handle.length)
  if !(← get).rest.head?.any isBlank then throw .badDirective
  passBlanks
  let meaning ← readTagText true
  if !blankNext (← get).rest then throw .badDirective
  return .handle (String.ofList handle) meaning

/-- A directive line, after its sign, with its line break. -/
def readDirective : Lexer Token := do
  let s ← get
  let name := s.rest.takeWhile isNameChar
  set (s.pass name.length)
  if !blankNext (← get).rest then throw .badDirective
  passBlanks
  let t ← if name = ['Y', 'A', 'M', 'L'] then readVersion
    else if name = ['T', 'A', 'G'] then readHandle
    else throw .badDirective
  passBlanks
  let s ← get
  if s.rest.head? = some '#' then
    set (s.pass (s.rest.takeWhile fun c => !isBreak c).length)
  if !breakNext (← get).rest then throw .badDirective
  advance
  return t

/-! ## 8. Tokens -/

/-- Takes one character and gives it as a token. -/
def single (t : Token) : Lexer Unit := do
  advance
  push t

def openFlow (t : Token) : Lexer Unit := do
  saveKey
  modify fun s => { s with keys := none :: s.keys, keyAllowed := true }
  single t

def closeFlow (t : Token) : Lexer Unit := do
  dropKey
  modify fun s => { s with
    keys := if s.keys.length > 1 then s.keys.drop 1 else s.keys
    keyAllowed := false }
  single t

/-- The sign of a block entry or of a key, which opens a block where there is none. -/
def blockSign (block sign : Token) (keyAfter : Bool) : Lexer Unit := do
  let s ← get
  if !s.inFlow then
    if !s.keyAllowed then throw .misplaced
    indent s.column s.tokens.size block
  dropKey
  allowKey keyAfter
  single sign

/-- The colon between a key and its value.  The key's mark is put in where the key began. -/
def colon : Lexer Unit := do
  let s ← get
  match s.keys with
  | some k :: keys =>
    set { s with
      keys := none :: keys
      tokens := s.tokens.insertIdxIfInBounds k.tokens .key
      keyAllowed := false }
    indent k.column k.tokens .blockMapping
  | _ =>
    if !s.inFlow then
      if !s.keyAllowed then throw .misplaced
      indent s.column s.tokens.size .blockMapping
    allowKey !s.inFlow
  single .value

def documentMark (t : Token) : Lexer Unit := do
  unindentAll
  dropKey
  allowKey false
  modify fun s => s.pass 3
  push t

/-- Whether a plain scalar may begin with this character. -/
def startsPlain (flow : Bool) (c : Char) (following : List Char) : Bool :=
  !(isBlank c || ['-', '?', ':', ',', '[', ']', '\x7b', '\x7d', '#', '&', '*', '!', '|', '>', '\'',
      '"', '%', '@', '\x60'].contains c)
    || (c = '-' && !(following.head?.any isBlank))
    || (!flow && (c = '?' || c = ':') && !blankNext following)

/-- A node of one token, which may be a key. -/
def node (read : Lexer Token) : Lexer Unit := do
  saveKey
  allowKey false
  let t ← read
  push t

/-- The next token; answers whether there may be more.  `fuel` is beyond the number of characters
that are left. -/
def next (fuel : Nat) : Lexer Bool := do
  modify (skipToToken fuel)
  dropExpired
  unindent
  let s ← get
  match s.rest with
  | [] =>
    unindentAll
    dropKey
    return false
  | c :: cs =>
    if s.column = 0 && c = '%' then
      unindentAll
      dropKey
      allowKey false
      advance
      push (← readDirective)
    else if s.atDocumentMark then
      documentMark (if c = '-' then .documentStart else .documentEnd)
    else if c = '[' then openFlow .openBracket
    else if c = '\x7b' then openFlow .openBrace
    else if c = ']' then closeFlow .closeBracket
    else if c = '\x7d' then closeFlow .closeBrace
    else if c = ',' then
      dropKey
      allowKey true
      single .comma
    else if c = '-' && blankNext cs then blockSign .blockSequence .entry true
    else if c = '?' && (s.inFlow || blankNext cs) then blockSign .blockMapping .key !s.inFlow
    else if c = ':' && (s.inFlow || blankNext cs) then colon
    else if c = '*' then node (do advance; return .alias (← readName))
    else if c = '&' then node (do advance; return .anchor (← readName))
    else if c = '!' then node (do advance; readTag)
    else if (c = '|' || c = '>') && !s.inFlow then
      dropKey
      allowKey true
      advance
      let text ← readBlockScalar (c = '>') fuel
      push (.scalar text (if c = '>' then .folded else .literal))
    else if c = '\'' || c = '"' then
      node do
        advance
        let text ← readQuoted c fuel []
        return .scalar (String.ofList text.reverse) .quoted
    else if startsPlain s.inFlow c cs then
      node do
        let text ← readPlain (2 * fuel) [] {}
        return .scalar (String.ofList text.reverse) .plain
    else throw .badCharacter
    return true

/-- All tokens from here on, of which there are no more than `n`: each takes at least one character,
of `length` at most. -/
def readAll (length : Nat) : (n : Nat) → Lexer Unit
  | 0 => return ()
  | n + 1 => do
    if ← next (length + 1) then readAll length n

end Token

def tokens (text : List Char) : Except Fault (List Token) :=
  if !text.all Token.isPrintable then .error .badCharacter
  else
    match (Token.readAll text.length (text.length + 1)).run { rest := text } with
    | .error e => .error e
    | .ok (_, s) => .ok s.tokens.toList

end BuildLog.Yaml
