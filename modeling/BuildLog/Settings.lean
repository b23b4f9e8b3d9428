import BuildLog.Rule.Catalog
import BuildLog.Rule.Document
import BuildLog.Session

/-!
# Settings — how a session reads its log, as written in YAML

Every field may be missing; an empty document is all defaults.
-/

namespace BuildLog

open Yaml

/-- A substitution of file names as it is written; without a replacement, messages are dropped. -/
structure SubstitutionRecord where
  pattern : String
  replacement : Option String
deriving Repr, DecidableEq

structure Settings where
  /-- The number that the tool gives to the first column. -/
  firstColumn : Nat := 1
  /-- Columns count terminal cells rather than characters. -/
  screenColumns : Bool := true
  tabWidth : Nat := Text.defaultTabWidth
  /-- Navigation skips messages below this severity. -/
  skipThreshold : Severity := .warning
  /-- Navigation skips places that were gone to. -/
  skipVisited : Bool := false
  /-- Directories in which relative names are looked for; none is the working directory. -/
  searchPath : List (Option Path) := [none]
  /-- The base of relative names; that of the process if it is not set. -/
  workingDirectory : Option Path := none
  directoryPattern : Option String := none
  /-- Names of the rules of the catalog to use, in order; all if it is not set. -/
  rules : Option (List String) := none
  substitutions : List SubstitutionRecord := []
deriving Repr, DecidableEq

/-- Why settings cannot be used. -/
inductive SettingsError
  /-- The file cannot be read. -/
  | unreadable
  /-- The text is no settings document. -/
  | document
  | badPattern (pattern : String) (fault : Pattern.Fault)
  | missingDirectoryGroup
  | rules (error : RuleError)
deriving Repr, DecidableEq

def SettingsError.message : SettingsError → String
  | .unreadable => "I/O error"
  | .document => "YAML parse error"
  | .badPattern pattern fault => "invalid pattern '" ++ pattern ++ "': " ++ fault.message
  | .missingDirectoryGroup => "directory pattern needs a capture group for the directory name"
  | .rules e => e.message

/-- What is wrong with a directory pattern, as a fault of the settings. -/
def SettingsError.ofDirectoryPattern : DirectoryPatternError → SettingsError
  | .badPattern pattern fault => .badPattern pattern fault
  | .missingGroup => .missingDirectoryGroup

/-- The substitution of a record. -/
def SubstitutionRecord.substitution (r : SubstitutionRecord) : Except SettingsError Substitution :=
  match Pattern.forText r.pattern with
  | .ok pattern => .ok ⟨pattern, r.replacement.map String.toList⟩
  | .error fault => .error (.badPattern r.pattern fault)

def SubstitutionRecord.ofNode (n : Node) : Decoder SubstitutionRecord := do
  let fs ← Fields.ofNode ["pattern", "replacement"] true n
  let pattern ← fs.required "pattern" Node.text
  let replacement ← fs.withDefault "replacement" none (Node.optional Node.text)
  return ⟨pattern, replacement⟩

namespace Settings

/-! ## 1. Reading -/

def fieldNames : List String :=
  ["first_column", "screen_columns", "tab_width", "skip_threshold", "skip_visited", "search_path",
    "working_directory", "directory_pattern", "rules", "file_transforms"]

def path (n : Node) : Decoder Path := do return Path.ofString (← n.text)

/-- A severity by its word, or by a tag on nothing. -/
def severity (n : Node) : Decoder Severity := do
  match ← n.follow with
  | .scalar text style (some (.own name)) =>
    if style = .plain && (text = "" || Word.isNull text) then
      Decoder.ofOption (Severity.ofLabel? name)
    else failure
  | .scalar text _ _ => Decoder.ofOption (Severity.ofLabel? text)
  | _ => failure

def ofNode (n : Node) : Decoder Settings := do
  let d : Settings := {}
  let fs ← Fields.ofNode fieldNames true n
  let firstColumn ← fs.withDefault "first_column" d.firstColumn Node.natural
  let screenColumns ← fs.withDefault "screen_columns" d.screenColumns Node.boolean
  let tabWidth ← fs.withDefault "tab_width" d.tabWidth Node.natural
  let skipThreshold ← fs.withDefault "skip_threshold" d.skipThreshold severity
  let skipVisited ← fs.withDefault "skip_visited" d.skipVisited Node.boolean
  let searchPath ←
    fs.withDefault "search_path" d.searchPath (Node.list (Node.optional path))
  let workingDirectory ← fs.withDefault "working_directory" none (Node.optional path)
  let directoryPattern ← fs.withDefault "directory_pattern" none (Node.optional Node.text)
  let rules ← fs.withDefault "rules" none (Node.optional (Node.list Node.text))
  let substitutions ← fs.withDefault "file_transforms" [] (Node.list SubstitutionRecord.ofNode)
  return ⟨firstColumn, screenColumns, tabWidth, skipThreshold, skipVisited, searchPath,
    workingDirectory, directoryPattern, rules, substitutions⟩

/-- The settings of a parsed document. -/
def ofRoot : Decoder Settings := do ofNode (← read).root

/-- The settings of a document. -/
def ofDocument (text : String) : Except SettingsError Settings :=
  if (Text.trim text.toList).isEmpty then .ok {}
  else
    match (Document.ofText text).toOption.bind (ofRoot.run? ·) with
    | some s => .ok s
    | none => .error .document

/-- The settings in a file. -/
def load (disk : Disk) (p : Path) : Except SettingsError Settings :=
  match disk.read? p with
  | some text => ofDocument text
  | none => .error .unreadable

/-! ## 2. What the settings give -/

/-- The rules of the catalog, or those that the settings name. -/
def ruleSet (s : Settings) : Except SettingsError RuleSet :=
  match RuleSet.builtin with
  | .error e => .error (.rules e)
  | .ok all =>
    match s.rules with
    | none => .ok all
    | some names =>
      match all.only names with
      | .ok rules => .ok rules
      | .error e => .error (.rules e)

def directoryTrail (s : Settings) : Except SettingsError DirectoryTrail :=
  match s.directoryPattern with
  | none => .ok .new
  | some source =>
    match DirectoryTrail.ofPattern source with
    | .ok t => .ok t
    | .error e => .error (.ofDirectoryPattern e)

/-- The substitutions, or the fault of the first that has one. -/
def compileSubstitutions : List SubstitutionRecord → Except SettingsError (List Substitution)
  | [] => .ok []
  | r :: rs =>
    match r.substitution with
    | .error e => .error e
    | .ok w =>
      match compileSubstitutions rs with
      | .error e => .error e
      | .ok ws => .ok (w :: ws)

def navigation (s : Settings) : NavigationSettings :=
  ⟨s.skipThreshold, s.skipVisited, s.screenColumns⟩

/-- An empty file table; `cwd` is the working directory where the settings name none. -/
def fileTable (s : Settings) (cwd : Path) : FileTable :=
  { workingDir := s.workingDirectory.getD cwd, searchPath := s.searchPath }

def sources (s : Settings) : Sources := Sources.empty.withTabWidth s.tabWidth

/-- A session with these settings over a log. -/
def session (s : Settings) (cwd : Path) (rules : RuleSet) (sources : Sources) (log : Transcript) :
    Except SettingsError Session :=
  match s.directoryTrail with
  | .error e => .error e
  | .ok trail =>
    match compileSubstitutions s.substitutions with
    | .error e => .error e
    | .ok substitutions =>
      .ok (Session.start { rules, firstColumn := s.firstColumn, substitutions } trail
        (s.fileTable cwd) s.navigation sources log)

end Settings

end BuildLog
