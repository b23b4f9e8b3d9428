import BuildLog.Pattern.Basic

/-!
# Substitutions — file names changed before they are looked up

A substitution replaces every match of its pattern in a file name by a template, in which `$1`,
`${1}` and `$name` stand for groups and `$$` for a dollar sign.  A substitution without a template
drops the messages whose file name it matches.
-/

namespace BuildLog

/-! ## 1. Templates -/

inductive TemplatePart
  | literal (text : Text)
  | group (index : Nat)
  | named (name : Text)
deriving Repr, DecidableEq

/-- A group by what stands after the dollar sign: a number, or a name. -/
def TemplatePart.ofReference (name : Text) : TemplatePart :=
  match Text.number? name with
  | some n => .group n
  | none => .named name

/-- Characters of a reference without braces. -/
def isReferenceChar (c : Char) : Bool := c.isAlphanum || c = '_'

/-- The reference that follows a dollar sign, and the text after it. -/
def reference? : Text → Option (TemplatePart × Text)
  | '\x7b' :: t =>
    match t.dropWhile (· ≠ '\x7d') with
    | _ :: rest => some (.ofReference (t.takeWhile (· ≠ '\x7d')), rest)
    | [] => none
  | t =>
    match t.takeWhile isReferenceChar with
    | [] => none
    | name => some (.ofReference name, t.dropWhile isReferenceChar)

/-- The parts of a template's text; `fuel` bounds their number. -/
def templateParts : (fuel : Nat) → Text → List TemplatePart
  | 0, _ => []
  | _, [] => []
  | fuel + 1, '$' :: '$' :: t => .literal ['$'] :: templateParts fuel t
  | fuel + 1, '$' :: t =>
    match reference? t with
    | some (part, rest) => part :: templateParts fuel rest
    | none => .literal ['$'] :: templateParts fuel t
  | fuel + 1, c :: t => .literal [c] :: templateParts fuel t

/-- The parts of a template: each takes at least one character of its text. -/
def template (t : Text) : List TemplatePart := templateParts t.length t

/-- The text of one part for a match; a group that did not take part is empty. -/
def TemplatePart.fill (p : Pattern) (input : Array Char) (m : Pattern.Match) : TemplatePart → Text
  | .literal t => t
  | .group i =>
    match m.group i with
    | some s => (input.extract s.start s.stop).toList
    | none => []
  | .named name =>
    match (p.groupNamed? (String.ofList name)).bind m.group with
    | some s => (input.extract s.start s.stop).toList
    | none => []

/-! ## 2. Substitutions -/

structure Substitution where
  pattern : Pattern
  replacement : Option Text
deriving Repr

namespace Substitution

/-- The text with each of the matches, which begin at `pos` or later, filled in. -/
def replaceMatches (p : Pattern) (input : Array Char) (parts : List TemplatePart) (pos : Nat) :
    List Pattern.Match → Text
  | [] => (input.extract pos input.size).toList
  | m :: ms =>
    (input.extract pos m.span.start).toList ++ parts.flatMap (·.fill p input m)
      ++ replaceMatches p input parts m.span.stop ms

/-- The name after one substitution; `none` if it is to be dropped. -/
def apply (r : Substitution) (name : Text) : Option Text :=
  let input := name.toArray
  match r.pattern.allMatches input with
  | [] => some name
  | ms => r.replacement.map fun t => replaceMatches r.pattern input (template t) 0 ms

/-- The name after all substitutions, in order. -/
def applyAll (rs : List Substitution) (name : Text) : Option Text :=
  rs.foldlM (fun name r => r.apply name) name

end Substitution

example : template "a$1-${nm}$$".toList =
    [.literal ['a'], .group 1, .literal ['-'], .named ['n', 'm'], .literal ['$']] := by
  decide +kernel

end BuildLog
