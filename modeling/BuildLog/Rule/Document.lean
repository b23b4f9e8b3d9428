import BuildLog.Rule.Set
import BuildLog.Yaml.Field
import BuildLog.Yaml.Value

/-!
# Rule documents — rules written in YAML

A document is a sequence of records, one for each rule, with a name, a pattern and roles:

    - name: mytool
      pattern: '^ERR (\S+):(\d+)'
      file: 1
      line: 2
      severity: warning
-/

namespace BuildLog

open Yaml

/-! ## 1. Roles -/

/-- How deep the value of a rule's field may be: it lies in a sequence and a mapping. -/
def Role.maxDepth : Nat := Yaml.maxDepth - 2

/-- A group, two groups in brackets, or a computed value. -/
def Role.ofValue? (v : Value) : Option Role :=
  match v with
  | .sequence [a, b] => a.natural?.bind fun a => b.natural?.map fun b => .range a b
  | .mapping _ =>
    match v.variant? ["group_width", "first_of"] with
    | some ("group_width", v) => v.natural?.map .widthOf
    | some ("first_of", v) => (v.list? Value.natural?).map .firstOf
    | _ => none
  | v => v.natural?.map .group

def Role.ofNode (n : Node) : Decoder Role := do
  Decoder.ofOption (ofValue? (← Value.ofNode maxDepth n))

/-- A severity by its word, or by a mapping from its word to nothing. -/
def Severity.ofValue? (v : Value) : Option Severity :=
  match v with
  | .text word => ofLabel? word
  | v =>
    match v.variant? ["info", "warning", "error"] with
    | some (word, .null) => ofLabel? word
    | _ => none

/-- A fixed severity, or the groups that tell it. -/
def SeverityRole.ofValue? (v : Value) : Option SeverityRole :=
  match Severity.ofValue? v with
  | some s => some (.fixed s)
  | none =>
    let group (v? : Option Value) := (v?.getD .null).optional? Value.natural?
    (v.fields? ["warning", "info"]).bind fun fs =>
      (group (fs.lookup "warning")).bind fun warning =>
        (group (fs.lookup "info")).map fun info => .byGroup warning info

def SeverityRole.ofNode (n : Node) : Decoder SeverityRole := do
  Decoder.ofOption (ofValue? (← Value.ofNode Role.maxDepth n))

def HighlightRole.ofNode (n : Node) : Decoder HighlightRole := do
  let fs ← Fields.ofNode ["group", "face"] false n
  let group ← fs.required "group" Node.natural
  let face ← fs.required "face" Node.text
  return ⟨group, face⟩

/-! ## 2. Rules -/

/-- A rule as it is written, with its pattern as text. -/
structure RuleRecord where
  name : String
  pattern : String
  file : Option Role
  line : Option Role
  column : Option Role
  severity : SeverityRole
  hyperlink : Option Nat
  highlights : List HighlightRole
  formats : List String
  flushes : Bool
  lines : Nat
deriving Repr

namespace RuleRecord

def fieldNames : List String :=
  ["name", "pattern", "file", "line", "column", "severity", "hyperlink", "highlights", "formats",
    "flush", "lines"]

def ofNode (n : Node) : Decoder RuleRecord := do
  let fs ← Fields.ofNode fieldNames true n
  let role (name : String) := fs.withDefault name none (Node.optional Role.ofNode)
  let name ← fs.required "name" Node.text
  let pattern ← fs.required "pattern" Node.text
  let file ← role "file"
  let line ← role "line"
  let column ← role "column"
  let severity ← fs.withDefault "severity" (.fixed .error) SeverityRole.ofNode
  let hyperlink ← fs.withDefault "hyperlink" none (Node.optional Node.natural)
  let highlights ← fs.withDefault "highlights" [] (Node.list HighlightRole.ofNode)
  let formats ← fs.withDefault "formats" [] (Node.list Node.text)
  let flushes ← fs.withDefault "flush" false Node.boolean
  let lines ← fs.withDefault "lines" 1 Node.natural
  return ⟨name, pattern, file, line, column, severity, hyperlink, highlights, formats, flushes,
    lines⟩

def ofRoot : Decoder (List RuleRecord) := do (← read).root.list ofNode

/-- The rule of a record; its roles must fit its pattern. -/
def rule (r : RuleRecord) : Except RuleError Rule :=
  match Rule.ofPattern r.name r.pattern with
  | .error e => .error e
  | .ok rule =>
    let rule : Rule := { rule with
      file := r.file
      line := r.line
      column := r.column
      severity := r.severity
      hyperlink := r.hyperlink
      highlights := r.highlights
      formats := r.formats
      flushes := r.flushes }
    match rule.validate with
    | .error e => .error e
    | .ok () => .ok (rule.withLines r.lines)

end RuleRecord

namespace RuleSet

/-- The rules of records, or the fault of the first record that has one. -/
def rulesOf : List RuleRecord → Except RuleError (List Rule)
  | [] => .ok []
  | r :: rs =>
    match r.rule with
    | .error e => .error e
    | .ok rule =>
      match rulesOf rs with
      | .error e => .error e
      | .ok rules => .ok (rule :: rules)

def ofDocument (text : String) : Except RuleError RuleSet :=
  match (Document.ofText text).toOption.bind (RuleRecord.ofRoot.run? ·) with
  | none => .error .document
  | some records =>
    match rulesOf records with
    | .error e => .error e
    | .ok rules => ofRules rules

/-- The set with the rules of a document, which come last; answers how many these are. -/
def extendedByDocument (s : RuleSet) (text : String) : Except RuleError (Nat × RuleSet) :=
  match ofDocument text with
  | .error e => .error e
  | .ok extra =>
    match s.extended extra.rules with
    | .error e => .error e
    | .ok all => .ok (extra.size, all)

end RuleSet

end BuildLog
