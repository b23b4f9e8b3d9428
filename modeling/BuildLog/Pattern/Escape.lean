import BuildLog.Pattern.Expr
import BuildLog.Pattern.Property
import BuildLog.Pattern.Reading
import BuildLog.Unicode.CaseFolding
import BuildLog.Unicode.Decimal
import BuildLog.Unicode.Word

/-!
# Escapes — what a backslash and the characters after it stand for

Without the Unicode flag the classes are those of ASCII, and a class may not hold other characters.
-/

namespace BuildLog.Pattern

/-! ## 1. Character sets -/

def asciiUpper : CharSet := .ofRange 65 90
def asciiLower : CharSet := .ofRange 97 122
def asciiDigit : CharSet := .ofRange 48 57
def asciiLetter : CharSet := asciiUpper.union asciiLower
def asciiWord : CharSet := (asciiLetter.union asciiDigit).union (.singleton '_')
def asciiBlank : CharSet := (CharSet.ofRange 9 13).union (.singleton ' ')

/-- The ASCII letters of the set in both cases, and the rest of the set. -/
def foldAscii (s : CharSet) : CharSet :=
  let upper := (s.inter asciiUpper).ranges.map fun r => (r.1 + 32, r.2 + 32)
  let lower := (s.inter asciiLower).ranges.map fun r => (r.1 - 32, r.2 - 32)
  s.union (.ofRanges (upper ++ lower))

namespace Flags

/-- The set as the flags say: with both cases, if case means nothing. -/
def fold (f : Flags) (s : CharSet) : CharSet :=
  if f.ignoreCase then if f.unicode then Unicode.foldCase s else foldAscii s else s

/-- The set, or its complement.  Without Unicode a set must be ASCII. -/
def negate (f : Flags) (negated : Bool) (s : CharSet) : Except Fault CharSet :=
  let s := if negated then s.complement else s
  if f.unicode || s.isAscii then .ok s else .error .notUnicode

/-- The classes `\d`, `\s` and `\w`, by their small letter. -/
def classOf (f : Flags) (letter : Char) : CharSet :=
  match letter with
  | 'd' => if f.unicode then Unicode.decimal else asciiDigit
  | 's' => if f.unicode then Unicode.blank else asciiBlank
  | _ => if f.unicode then Unicode.word else asciiWord

end Flags

/-! ## 2. Escapes -/

inductive Escape
  | char (c : Char)
  /-- A character written as the two hexadecimal digits of a byte. -/
  | byte (c : Char)
  | set (s : CharSet)
  | look (l : Look)

def hexValue (c : Char) : Nat :=
  if c.isDigit then c.toNat - '0'.toNat
  else if 'a' ≤ c && c ≤ 'f' then c.toNat - 'a'.toNat + 10
  else c.toNat - 'A'.toNat + 10

def isHexDigit (c : Char) : Bool := c.isDigit || ('a' ≤ c && c ≤ 'f') || ('A' ≤ c && c ≤ 'F')

/-- The character with a code point in hexadecimal. -/
def hexChar (ds : List Char) : Except Fault Char :=
  if ds.isEmpty || !ds.all isHexDigit then .error .badEscape
  else
    let n := ds.foldl (fun n d => n * 16 + hexValue d) 0
    if n.isValidChar then .ok (Char.ofNat n) else .error .badEscape

/-- A code point in hexadecimal, in braces or with a fixed number of digits. -/
def readHex (digits : Nat) : Read Escape := do
  skip
  if ← take? ['\x7b'] then return .char (← ensure (hexChar (← takeBraced)))
  let c ← ensure (hexChar (← takeExactly digits))
  return if digits = 2 then .byte c else .char c

def readProperty (negated : Bool) : Read CharSet := do
  let f ← flags
  skip
  let query ←
    if ← take? ['\x7b'] then pure (PropertyQuery.ofText (← takeBraced))
    else
      let c ← needChar .badEscape
      if c = '\\' then throw .unknownProperty
      step
      pure (.named [c])
  if !f.unicode then throw .notUnicode
  match query.set? with
  | none => throw .unknownProperty
  | some s =>
    let s := f.fold s
    return if negated != query.isNegated then s.complement else s

/-- The word condition that may be named in braces after `\b`.  What the braces hold is a name only
if it begins like one. -/
def readWordCondition (ascii : Bool) : Read Look := do
  let s ← get
  if s.rest.head? ≠ some '\x7b' then return .wordBoundary ascii
  step
  let isNameChar (c : Char) := c.isAlpha || c = '-'
  if !isNameChar (← needChar .badEscape) then
    set s
    return .wordBoundary ascii
  let name ← takeMatter isNameChar
  if !(← take? ['\x7d']) then throw .badEscape
  match String.ofList name with
  | "start" => return .wordStart ascii
  | "end" => return .wordEnd ascii
  | "start-half" => return .wordStartHalf ascii
  | "end-half" => return .wordEndHalf ascii
  | _ => throw .badEscape

def readEscape : Read Escape := do
  let f ← flags
  let c ← needChar .badEscape
  advance
  match c with
  | 'x' => readHex 2
  | 'u' => readHex 4
  | 'U' => readHex 8
  | 'p' => return .set (← readProperty false)
  | 'P' => return .set (← readProperty true)
  | 'd' | 's' | 'w' => return .set (f.classOf c)
  | 'D' | 'S' | 'W' => return .set (← ensure (f.negate true (f.classOf c.toLower)))
  | 'a' => return .char '\x07'
  | 'f' => return .char '\x0c'
  | 't' => return .char '\t'
  | 'n' => return .char '\n'
  | 'r' => return .char '\r'
  | 'v' => return .char '\x0b'
  | 'A' => return .look .textStart
  | 'z' => return .look .textEnd
  | 'b' => return .look (← readWordCondition !f.unicode)
  | 'B' => return .look (.notWordBoundary !f.unicode)
  | '<' => return .look (.wordStart !f.unicode)
  | '>' => return .look (.wordEnd !f.unicode)
  | _ =>
    if c.isDigit then throw .backreference
    else if c.toNat < 128 && !c.isAlpha then return .char c
    else throw .badEscape

end BuildLog.Pattern
