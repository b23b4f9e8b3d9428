import BuildLog.Unicode.Age
import BuildLog.Unicode.Break
import BuildLog.Unicode.Script

/-!
# Properties — character sets by name

A pattern may name a general category, a script, a property that holds of a character or not, or a
value of another property.  Names are compared without regard to case, blanks, hyphens, underscores
and a leading `is`.
-/

namespace BuildLog.Pattern

/-- A property name with everything dropped that names may differ in. -/
def looseName (name : List Char) : String :=
  let letters :=
    (name.filter fun c => c.toNat < 128 && c ≠ ' ' && c ≠ '_' && c ≠ '-').map Char.toLower
  match name.take 2 |>.map Char.toLower with
  | ['i', 's'] =>
    let bare := letters.drop 2
    if bare = ['c'] then "isc" else String.ofList bare
  | _ => String.ofList letters

/-- The set that a lone name stands for. -/
def namedSet? (name : List Char) : Option CharSet :=
  let n := looseName name
  Unicode.property? n <|> Unicode.generalCategory? n <|> Unicode.script? n

/-- The set of the characters whose property `name` has the given value. -/
def valuedSet? (name value : List Char) : Option CharSet :=
  let v := looseName value
  match looseName name with
  | "generalcategory" | "gc" => Unicode.generalCategory? v
  | "script" | "sc" => Unicode.script? v
  | "scriptextensions" | "scx" => Unicode.scriptExtension? v
  | "age" => Unicode.age? v
  | "graphemeclusterbreak" | "gcb" => Unicode.clusterBreak? v
  | "wordbreak" | "wb" => Unicode.wordBreak? v
  | "sentencebreak" | "sb" => Unicode.sentenceBreak? v
  | _ => none

/-- The text before the first occurrence of `mark`, and the text after it. -/
def cutAt? (mark : List Char) : List Char → Option (List Char × List Char)
  | [] => none
  | c :: cs =>
    if mark.isPrefixOf (c :: cs) then some ([], (c :: cs).drop mark.length)
    else (cutAt? mark cs).map fun (a, b) => (c :: a, b)

/-- What a property class asks for. -/
inductive PropertyQuery
  /-- A property that holds or not, a category or a script. -/
  | named (name : List Char)
  /-- A property and one of its values; `negated` if it is to be another value. -/
  | valued (name value : List Char) (negated : Bool)

namespace PropertyQuery

/-- The query that the text between the braces of a property class stands for. -/
def ofText (body : List Char) : PropertyQuery :=
  match cutAt? ['!', '='] body with
  | some (name, value) => .valued name value true
  | none =>
    match cutAt? [':'] body with
    | some (name, value) => .valued name value false
    | none =>
      match cutAt? ['='] body with
      | some (name, value) => .valued name value false
      | none => .named body

def isNegated : PropertyQuery → Bool
  | .named _ => false
  | .valued _ _ negated => negated

/-- The set of what is asked for, before it is negated. -/
def set? : PropertyQuery → Option CharSet
  | .named name => namedSet? name
  | .valued name value _ => valuedSet? name value

end PropertyQuery

end BuildLog.Pattern
