import BuildLog.Yaml.Decoder
import BuildLog.Yaml.Word

/-!
# Values — nodes whose kind their form tells

Where a field may be of several kinds, its node is read as a value first: a scalar's tag says what
it is, and a plain scalar without a tag is what its word says.  Then the kinds are tried in turn.
-/

namespace BuildLog.Yaml

inductive Value
  | null
  | boolean (b : Bool)
  | natural (n : Nat)
  /-- A number with a minus sign, which may be zero. -/
  | negative (n : Nat)
  /-- A number that need not be whole. -/
  | float
  | text (s : String)
  | sequence (items : List Value)
  | mapping (pairs : List (Value × Value))
deriving Repr, Inhabited

namespace Value

/-! ## 1. Scalars -/

/-- A whole number that fits 64 bits; `some none` for one that only fits 128 bits, and is none of
any kind that a field may be of. -/
def integer? (text : List Char) : Option (Option Value) :=
  match Word.natural? text, Word.negative? text with
  | some n, _ =>
    if n < 1 <<< 64 then some (some (.natural n))
    else if n < 1 <<< 128 then some none
    else none
  | none, some n =>
    if n ≤ 1 <<< 63 then some (some (.negative n))
    else if n ≤ 1 <<< 127 then some none
    else none
  | none, none => none

/-- What a plain scalar without a tag is. -/
def ofWord? (text : String) : Option Value :=
  let cs := text.toList
  if text = "" || Word.isNull text then some .null
  else
    match Word.boolean? text, integer? cs with
    | some b, _ => some (.boolean b)
    | none, some v => v
    | none, none =>
      if Word.isFloat cs && !Word.isZeroLed cs then some .float else some (.text text)

/-- What a scalar is.  A tag of the document's own names a kind that no field is of. -/
def ofScalar? (text : String) (style : Style) (tag : Option Tag) : Option Value :=
  match tag with
  | some .null => if Word.isNull text then some .null else none
  | some .boolean => (Word.boolean? text).map .boolean
  | some .integer => (integer? text.toList).join
  | some .float => if Word.isFloat text.toList then some .float else none
  | some (.own _) => none
  | some .other => some (.text text)
  | some .illegible | none => if style = .plain then ofWord? text else some (.text text)

/-! ## 2. Reading -/

def isOwn : Option Tag → Bool
  | some (.own _) => true
  | _ => false

/-- The value of a node that may hold collections `depth` deep. -/
def ofNode (depth : Nat) (n : Node) : Decoder Value := do
  match ← n.follow with
  | .scalar word style tag => Decoder.ofOption (ofScalar? word style tag)
  | .sequence items tag =>
    match depth with
    | 0 => failure
    | depth + 1 =>
      if isOwn tag then failure
      return .sequence (← items.mapM (ofNode depth))
  | .mapping pairs tag =>
    match depth with
    | 0 => failure
    | depth + 1 =>
      if isOwn tag then failure
      return .mapping (← pairs.mapM fun p => return (← ofNode depth p.1, ← ofNode depth p.2))
  | .nothing => return .null
  | .alias _ => failure

/-! ## 3. Kinds -/

def natural? : Value → Option Nat
  | .natural n => some n
  | .negative 0 => some 0
  | _ => none

def optional? {α : Type} (read : Value → Option α) : Value → Option (Option α)
  | .null => some none
  | v => (read v).map some

def list? {α : Type} (read : Value → Option α) : Value → Option (List α)
  | .sequence items => items.mapM read
  | _ => none

/-- Which of the names a key means: a text the name itself, and a number the name in its place.
`some none` for a key that means none of them, and `none` for a value that is no key. -/
def choice? (names : List String) : Value → Option (Option String)
  | .text s => some (if names.contains s then some s else none)
  | .natural n => some names[n]?
  | _ => none

/-- The name of a variant with what it holds: a mapping with one pair, whose key means the name. -/
def variant? (names : List String) : Value → Option (String × Value)
  | .mapping [(k, v)] => (k.choice? names).join.map fun name => (name, v)
  | _ => none

/-- The fields of a mapping that have the names, each at most once; others are passed over. -/
def fields? (names : List String) : Value → Option (List (String × Value))
  | .mapping pairs =>
    match pairs.mapM fun p => (p.1.choice? names).map fun name => name.map fun s => (s, p.2) with
    | none => none
    | some fs =>
      let mine := fs.filterMap id
      if (mine.map (·.1)).Nodup then some mine else none
  | _ => none

end Value

end BuildLog.Yaml
