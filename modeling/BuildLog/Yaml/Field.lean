import BuildLog.Text.Basic
import BuildLog.Yaml.Decoder
import BuildLog.Yaml.Word

/-!
# Fields — values of a known kind in a YAML tree

A document whose form is known is read field by field.  Every decoder here fails at a node that is
not of its kind.
-/

namespace BuildLog.Yaml

namespace Node

/-! ## 1. Scalars -/

/-- Whether nothing at all is written where the node is. -/
def isUnwritten : Node → Bool
  | .nothing => true
  | .scalar text style _ => style = .plain && text = ""
  | _ => false

/-- The text of a scalar, however it is written. -/
def text (n : Node) : Decoder String := do
  match ← n.follow with
  | .scalar text _ _ => return text
  | _ => failure

/-- The text of a scalar that may be a word of a kind: a plain one, or a literal block with the tag
of the kind. -/
def word (kind : Tag) (n : Node) : Decoder String := do
  match ← n.follow with
  | .scalar text .plain _ => return text
  | .scalar text .literal (some tag) => if tag = kind then return text else failure
  | _ => failure

def natural (n : Node) : Decoder Nat := do
  let text ← n.word .integer
  Decoder.ofOption ((Word.natural? text.toList).filter (· < Text.numberBound))

def boolean (n : Node) : Decoder Bool := do
  let text ← n.word .boolean
  Decoder.ofOption (Word.boolean? text)

/-- Whether a plain scalar says that its value is absent; none if it has the tag that says so, and
another word.  Any other tag makes a value of any word. -/
def absent? (text : String) : Option Tag → Option Bool
  | none => some (text = "" || Word.isNull text)
  | some .null => if Word.isNull text then some true else none
  | some _ => some false

/-! ## 2. Collections -/

def optional {α : Type} (decode : Node → Decoder α) (n : Node) : Decoder (Option α) := do
  match ← n.follow with
  | .nothing => return none
  | .scalar text .plain tag =>
    if ← Decoder.ofOption (absent? text tag) then return none
    else return some (← decode (.scalar text .plain tag))
  | n => return some (← decode n)

def list {α : Type} (decode : Node → Decoder α) (n : Node) : Decoder (List α) := do
  match ← n.follow with
  | .sequence items _ => items.mapM decode
  | n => if n.isUnwritten then return [] else failure

/-- The pairs of a mapping whose keys are texts. -/
def pairs (n : Node) : Decoder (List (String × Node)) := do
  match ← n.follow with
  | .mapping ps _ => ps.mapM fun p => return (← p.1.text, p.2)
  | n => if n.isUnwritten then return [] else failure

end Node

/-! ## 3. Fields -/

abbrev Fields := List (String × Node)

namespace Fields

/-- The fields of a mapping, each at most once.  Fields with other names than those known are
passed over, or refused if `strict`. -/
def ofNode (known : List String) (strict : Bool) (n : Node) : Decoder Fields := do
  let fs ← n.pairs
  let mine := fs.filter fun f => known.contains f.1
  if strict && mine.length < fs.length then failure
  else if (mine.map (·.1)).Nodup then return mine
  else failure

def required {α : Type} (fs : Fields) (name : String) (decode : Node → Decoder α) : Decoder α :=
  match fs.lookup name with
  | none => failure
  | some n => decode n

def withDefault {α : Type} (fs : Fields) (name : String) (default : α)
    (decode : Node → Decoder α) : Decoder α :=
  match fs.lookup name with
  | none => return default
  | some n => decode n

end Fields

end BuildLog.Yaml
