/-!
# Words — what the scalars of a YAML text may say

A word may stand for the absence of a value, for a truth value or for a number.  Whole numbers are
written in decimal, or with a base sign in base 16, 8 or 2; digits that a zero leads are no number.
-/

namespace BuildLog.Yaml.Word

/-! ## 1. Absence and truth -/

def isNull (text : String) : Bool := ["~", "null", "Null", "NULL"].contains text

def boolean? (text : String) : Option Bool :=
  if ["true", "True", "TRUE"].contains text then some true
  else if ["false", "False", "FALSE"].contains text then some false
  else none

/-! ## 2. Whole numbers -/

/-- The value of a digit in a base up to 16. -/
def digit? (base : Nat) (c : Char) : Option Nat :=
  let value :=
    if c.isDigit then some (c.toNat - '0'.toNat)
    else if 'a' ≤ c && c ≤ 'f' then some (c.toNat - 'a'.toNat + 10)
    else if 'A' ≤ c && c ≤ 'F' then some (c.toNat - 'A'.toNat + 10)
    else none
  value.filter (· < base)

/-- The value of digits in a base; none for an empty text or another character. -/
def digits? (base : Nat) (ds : List Char) : Option Nat :=
  if ds.isEmpty then none
  else ds.foldlM (fun n d => (digit? base d).map (n * base + ·)) 0

/-- The value of a number without its sign. -/
def magnitude? (text : List Char) : Option Nat :=
  match text with
  | '0' :: 'x' :: ds => digits? 16 ds
  | '0' :: 'o' :: ds => digits? 8 ds
  | '0' :: 'b' :: ds => digits? 2 ds
  | '0' :: _ :: _ => none
  | ds => digits? 10 ds

/-- A number that is not negative; a plus sign may stand before it. -/
def natural? (text : List Char) : Option Nat :=
  match text with
  | '+' :: rest => magnitude? rest
  | _ => magnitude? text

/-- What a number with a minus sign takes away. -/
def negative? (text : List Char) : Option Nat :=
  match text with
  | '-' :: rest => magnitude? rest
  | _ => none

/-- Digits that a zero leads, after a sign. -/
def isZeroLed (text : List Char) : Bool :=
  let body := match text with
    | '+' :: rest | '-' :: rest => rest
    | _ => text
  body.length > 1 && body.head? = some '0' && body.all Char.isDigit

/-! ## 3. Other numbers -/

/-- The least value that rounds to no finite number of double precision: half a step beyond the
greatest one. -/
def floatBound : Nat := 1 <<< 1024 - 1 <<< 970

/-- Whether decimal digits times a power of ten lie below the bound.  The number of digits decides
unless the value comes near the bound. -/
def isFinite (ds : List Char) (scale : Int) : Bool :=
  let ds := ds.dropWhile (· = '0')
  let top := ds.length + scale
  if ds.isEmpty || top ≤ 308 then true
  else if top > 309 then false
  else
    let n := (digits? 10 ds).getD 0
    if scale < 0 then n < floatBound * Nat.pow 10 scale.natAbs
    else n * Nat.pow 10 scale.natAbs < floatBound

/-- The value of an exponent's digits; from the fifth digit on, more digits add nothing once it is
out of reach. -/
def exponentValue (ds : List Char) : Nat :=
  ds.foldl (fun n d => if n < 65536 then n * 10 + (d.toNat - '0'.toNat) else n) 0

/-- The exponent after the digits of a number: none for another text. -/
def exponent? (text : List Char) : Option Int :=
  match text with
  | [] => some 0
  | c :: rest =>
    if c = 'e' || c = 'E' then
      let (negative, ds) := match rest with
        | '+' :: ds => (false, ds)
        | '-' :: ds => (true, ds)
        | ds => (false, ds)
      if ds.isEmpty || !ds.all Char.isDigit then none
      else some (if negative then -(exponentValue ds : Int) else exponentValue ds)
    else none

/-- Whether a text is a decimal number of a size that double precision holds: digits with a point
or without, and an exponent. -/
def isDecimal (text : List Char) : Bool :=
  let whole := text.takeWhile Char.isDigit
  let rest := text.drop whole.length
  let part := match rest with
    | '.' :: cs => cs.takeWhile Char.isDigit
    | _ => []
  let rest := match rest with
    | '.' :: cs => cs.drop part.length
    | _ => rest
  !(whole.isEmpty && part.isEmpty)
    && (exponent? rest).any fun e => isFinite (whole ++ part) (e - part.length)

/-- Whether a text is a number that need not be whole. -/
def isFloat (text : List Char) : Bool :=
  let word := String.ofList text
  let positive := match text with
    | '+' :: rest => rest
    | _ => text
  if positive.length < text.length && (positive.head?.any fun c => c = '+' || c = '-') then false
  else
    [".inf", ".Inf", ".INF"].contains (String.ofList positive)
      || ["-.inf", "-.Inf", "-.INF", ".nan", ".NaN", ".NAN"].contains word
      || isDecimal (match positive with
        | '-' :: rest => rest
        | _ => positive)

end BuildLog.Yaml.Word
