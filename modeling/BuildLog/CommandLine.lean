import BuildLog.Settings

/-!
# The command line — the messages of a captured log

The command reads a log and prints a line for each message, or the path of each file that the
messages refer to, and counts the messages.
-/

namespace BuildLog

/-! ## 1. Arguments -/

structure Arguments where
  /-- The log to read; the standard input if there is none. -/
  log : Option Path := none
  config : Option Path := none
  /-- A file with further rules. -/
  rules : Option Path := none
  /-- The rules of the catalog to use. -/
  only : Option (List String) := none
  skipThreshold : Option Severity := none
  searchPath : List Path := []
  /-- The directory that the tool ran in. -/
  directory : Option Path := none
  firstColumn : Option Nat := none
  /-- Print files rather than messages. -/
  files : Bool := false
deriving Repr

namespace Arguments

/-- The options with a value. -/
inductive Opt
  | config
  | rules
  | only
  | skipThreshold
  | searchPath
  | directory
  | firstColumn
deriving Repr, DecidableEq

def longOption? : String → Option Opt
  | "config" => some .config
  | "rules" => some .rules
  | "only" => some .only
  | "skip-threshold" => some .skipThreshold
  | "search-path" => some .searchPath
  | "directory" => some .directory
  | "first-column" => some .firstColumn
  | _ => none

def shortOption? : Char → Option Opt
  | 'c' => some .config
  | 'C' => some .directory
  | _ => none

/-- A path, which must not be empty. -/
def path? (value : String) : Option Path := if value = "" then none else some (.ofString value)

def splitCommas : List Char → List (List Char)
  | [] => [[]]
  | c :: cs =>
    match splitCommas cs with
    | [] => []
    | p :: ps => if c = ',' then [] :: p :: ps else (c :: p) :: ps

/-- Sets a value that may be given once. -/
def setOnce {α : Type} (old : Option α) (new : Option α) : Option (Option α) :=
  if old.isSome || new.isNone then none else some new

/-- The arguments with an option set; none if the value is bad or the option is given twice. -/
def setOption (a : Arguments) (o : Opt) (value : String) : Option Arguments :=
  match o with
  | .config => (setOnce a.config (path? value)).map fun v => { a with config := v }
  | .rules => (setOnce a.rules (path? value)).map fun v => { a with rules := v }
  | .directory => (setOnce a.directory (path? value)).map fun v => { a with directory := v }
  | .only =>
    let names := (splitCommas value.toList).map String.ofList
    some { a with only := some (a.only.getD [] ++ names) }
  | .searchPath => (path? value).map fun p => { a with searchPath := a.searchPath ++ [p] }
  | .skipThreshold =>
    (setOnce a.skipThreshold (Severity.parse value).toOption).map fun v =>
      { a with skipThreshold := v }
  | .firstColumn =>
    (setOnce a.firstColumn (Text.number? value.toList)).map fun v => { a with firstColumn := v }

def setLog (a : Arguments) (value : String) : Option Arguments :=
  (setOnce a.log (path? value)).map fun v => { a with log := v }

/-- Whether an argument looks like an option and so is no value of one. -/
def isOptionLike (arg : String) : Bool :=
  match arg.toList with
  | '-' :: _ :: _ => true
  | _ => false

/-- What one argument is. -/
inductive Item
  | value
  /-- What follows are values. -/
  | onlyValues
  | filesFlag
  /-- An option, with its value if it is in the same argument. -/
  | option (o : Opt) (value : Option String)
  | unknown
deriving Repr, DecidableEq

/-- An option of two hyphens, with its value after an equals sign if there is one. -/
def longItem (body : List Char) : Item :=
  let name := String.ofList (body.takeWhile (· ≠ '='))
  let value := match body.dropWhile (· ≠ '=') with
    | [] => none
    | _ :: v => some (String.ofList v)
  if name = "files" then if value.isNone then .filesFlag else .unknown
  else
    match longOption? name with
    | some o => .option o value
    | none => .unknown

/-- An option of one hyphen, with its value right after it or after an equals sign if there is
one. -/
def shortItem (letter : Char) (following : List Char) : Item :=
  match shortOption? letter, following with
  | none, _ => .unknown
  | some o, [] => .option o none
  | some o, '=' :: v => .option o (some (String.ofList v))
  | some o, v => .option o (some (String.ofList v))

def item (arg : String) : Item :=
  match arg.toList with
  | ['-', '-'] => .onlyValues
  | '-' :: '-' :: body => longItem body
  | '-' :: letter :: following => shortItem letter following
  | _ => .value

/-- Reads the arguments in order; none if they are not as they should be. -/
def readAll (a : Arguments) : List String → Option Arguments
  | [] => some a
  | arg :: args =>
    match item arg with
    | .unknown => none
    | .value => (a.setLog arg).bind fun a => a.readAll args
    | .onlyValues => args.foldlM setLog a
    | .filesFlag => if a.files then none else ({ a with files := true } : Arguments).readAll args
    | .option o (some v) => (a.setOption o v).bind fun a => a.readAll args
    | .option o none =>
      match args with
      | [] => none
      | v :: args => if isOptionLike v then none else (a.setOption o v).bind fun a => a.readAll args

def parse (args : List String) : Option Arguments := readAll {} args

/-- The files that the arguments name. -/
def inputs (a : Arguments) : List Path := [a.config, a.rules, a.log].filterMap id

/-- The settings that the arguments ask for, over those of the settings file. -/
def settings (a : Arguments) (disk : Disk) : Except SettingsError Settings :=
  let base : Except SettingsError Settings :=
    match a.config with
    | none => .ok {}
    | some p => Settings.load disk p
  match base with
  | .error e => .error e
  | .ok s =>
    .ok { s with
      rules := a.only <|> s.rules
      skipThreshold := a.skipThreshold.getD s.skipThreshold
      searchPath := if a.searchPath.isEmpty then s.searchPath else none :: a.searchPath.map some
      workingDirectory := a.directory <|> s.workingDirectory
      firstColumn := a.firstColumn.getD s.firstColumn }

end Arguments

/-! ## 2. Reports -/

namespace CommandLine

/-- The line that describes a message: severity, path, line, column and rule. -/
def describe (s : Session) (m : Message) : String :=
  let path := match s.filePath? m with
    | some p => p.toString
    | none => m.location.filename
  let position := match m.location.line, m.location.column with
    | some line, some column => ":" ++ toString line ++ ":" ++ toString column
    | some line, none => ":" ++ toString line
    | none, _ => ""
  m.severity.label ++ " " ++ path ++ position ++ " [" ++ m.rule ++ "]"

/-- How many messages of each severity there are. -/
def summary (n : SeverityCounts) : String :=
  toString n.errors ++ " errors, " ++ toString n.warnings ++ " warnings, " ++ toString n.infos
    ++ " infos"

/-- How a run ends: its exit code, what it prints, and the last line that it prints apart. -/
structure Outcome where
  code : Nat
  lines : List String
  lastNote : String
deriving Repr, DecidableEq

/-- Why a run fails. -/
inductive Failure
  | settings (error : SettingsError)
  | rules (error : RuleError)
  /-- A file cannot be read. -/
  | unreadable (p : Path)
  /-- The standard input is no text. -/
  | badInput
  /-- A step fails, and not because there is no message to step to. -/
  | step (error : NavigationError)
  /-- There is no end of steps, which go on when there were more of them than messages. -/
  | endless
deriving Repr, DecidableEq

def Failure.message : Failure → String
  | .settings e => e.message
  | .rules e => e.message
  | .unreadable p => "failed to read " ++ p.toString
  | .badInput => "failed to read stdin"
  | .step e => e.message
  | .endless => "more steps than messages"

/-- What stepping through the messages prints, and the session that it ends in or why it fails. -/
structure Report where
  lines : List String
  ending : Except Failure Session

namespace Report

/-- A report with lines before its own. -/
def after (printed : List String) (r : Report) : Report := { r with lines := printed ++ r.lines }

/-- The report where a step is refused.  It is how the stepping is meant to end that there is no
message to step to. -/
def refused (s : Session) (e : NavigationError) : Report :=
  ⟨[], if e.isEnd then .ok s else .error (.step e)⟩

/-- The run ends as the stepping does, with the totals if it ends well. -/
def outcome (r : Report) : Outcome :=
  match r.ending with
  | .error e => ⟨1, r.lines, "Error: " ++ e.message⟩
  | .ok s => ⟨0, r.lines, summary s.parse.counts⟩

end Report

/-- Steps from message to message, with a line for each. -/
def reportMessages (disk : Disk) : (fuel : Nat) → Session → Report
  | 0, _ => ⟨[], .error .endless⟩
  | fuel + 1, s =>
    match s.nextMessage disk 1 with
    | (.error e, s) => .refused s e
    | (.ok m, s) =>
      (reportMessages disk fuel s).after
        ((s.parse.messageAtStart? m.start).map (describe s)).toList

/-- Steps from file to file, with the path of each that is not one of `seen`. -/
def reportFiles (disk : Disk) (seen : List FileId) : (fuel : Nat) → Session → Report
  | 0, _ => ⟨[], .error .endless⟩
  | fuel + 1, s =>
    match s.nextFile disk 1 with
    | (.error e, s) => .refused s e
    | (.ok m, s) =>
      if seen.contains m.file then reportFiles disk seen fuel s
      else
        (reportFiles disk (m.file :: seen) fuel s).after
          ((s.filePath? m).map Path.toString).toList

/-- The rules that the arguments and settings ask for. -/
def ruleSet (a : Arguments) (s : Settings) (disk : Disk) : Except Failure RuleSet :=
  match s.ruleSet with
  | .error e => .error (.settings e)
  | .ok rules =>
    match a.rules with
    | none => .ok rules
    | some p =>
      match disk.read? p with
      | none => .error (.unreadable p)
      | some text =>
        match rules.extendedByDocument text with
        | .error e => .error (.rules e)
        | .ok (_, rules) => .ok rules

def logText (a : Arguments) (disk : Disk) (stdin : ByteArray) : Except Failure String :=
  match a.log with
  | some p =>
    match disk.read? p with
    | some text => .ok text
    | none => .error (.unreadable p)
  | none =>
    match String.fromUTF8? stdin with
    | some text => .ok text
    | none => .error .badInput

/-- A session over the log, which will not grow.  Nothing of it is read. -/
def startSession (a : Arguments) (disk : Disk) (cwd : Path) (stdin : ByteArray) :
    Except Failure Session :=
  match a.settings disk with
  | .error e => .error (.settings e)
  | .ok settings =>
    match ruleSet a settings disk with
    | .error e => .error e
    | .ok rules =>
      match logText a disk stdin with
      | .error e => .error e
      | .ok text =>
        match settings.session cwd rules settings.sources (.ofText text.toList) with
        | .error e => .error (.settings e)
        | .ok s => .ok (s.setFinished true)

/-- The session over the log, all of it read. -/
def openSession (a : Arguments) (disk : Disk) (cwd : Path) (stdin : ByteArray) :
    Except Failure Session :=
  (startSession a disk cwd stdin).map fun s => (s.parseAll disk).2

/-- Whether a column is too large when the log is read. -/
def overflows (a : Arguments) (disk : Disk) (cwd : Path) (stdin : ByteArray) : Bool :=
  match startSession a disk cwd stdin with
  | .error _ => false
  | .ok s =>
    let text := s.log.text
    scanOverflows s.parse.settings disk text 0 none ⟨s.parse.trail.process text 0, s.table⟩

/-- The paths at which the files of a session's messages are looked for. -/
def candidates (s : Session) : List Path :=
  s.parse.messages.flatMap fun m =>
    let formats := ((s.parse.settings.rules.lookup m.rule).map (·.formats)).getD []
    let directory := m.location.directory.map s.table.absolutize
    s.table.candidates m.location.filename directory formats
      ++ s.table.candidates m.location.filename directory []

/-- Each step passes a message, so there are no more steps than messages. -/
def report (a : Arguments) (disk : Disk) (s : Session) : Report :=
  let fuel := s.parse.messages.length + 1
  if a.files then reportFiles disk [] fuel s else reportMessages disk fuel s

/-- How the command was built: sums that are too large wrap around in a release, and while it is
debugged it stops at the first of them. -/
inductive Build
  | release
  | debug
deriving Repr, DecidableEq

/-- Runs the command in the directory `cwd`.  The log is read before anything is printed. -/
def run (args : List String) (disk : Disk) (cwd : Path) (stdin : ByteArray)
    (build : Build := .release) : Outcome :=
  match Arguments.parse args with
  | none => ⟨2, [], "error: invalid arguments"⟩
  | some a =>
    match openSession a disk cwd stdin with
    | .error e => ⟨1, [], "Error: " ++ e.message⟩
    | .ok s =>
      if build = .debug ∧ overflows a disk cwd stdin then ⟨101, [], "attempt to add with overflow"⟩
      else (report a disk s).outcome

end CommandLine

end BuildLog
