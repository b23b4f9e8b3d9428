import BuildLog.Navigation

/-!
# Sessions — a log, its parse and the navigation in it
-/

namespace BuildLog

structure Session where
  log : Transcript
  parse : Parse
  table : FileTable
  navigation : Navigation := {}
  sources : Sources := {}
deriving Repr

namespace Session

/-! ## 1. Beginning -/

/-- A session over a log, which is read from the end of its labelled text on. -/
def start (settings : ScanSettings) (trail : DirectoryTrail) (table : FileTable)
    (navigation : NavigationSettings) (sources : Sources) (log : Transcript) : Session :=
  let (parse, table) := ({ settings, trail } : Parse).attach log table
  { log, parse, table, navigation := { settings := navigation }, sources }

/-- A session with the usual settings. -/
def new (rules : RuleSet) (log : Transcript) (sources : Sources) (workingDir : Path) : Session :=
  start { rules } .new { workingDir } {} sources log

/-! ## 2. Parsing -/

/-- The session's share of what a parse works on. -/
def parseState (s : Session) : Parse.State := ⟨s.parse, s.log, s.table⟩

def withParseState (s : Session) (p : Parse.State) : Session :=
  { s with parse := p.parse, log := p.log, table := p.table }

/-- Reads the log up to an offset; answers how many messages there are more. -/
def advance (disk : Disk) (upto : Nat) (s : Session) : Nat × Session :=
  let (n, p) := Parse.advance disk upto s.parseState
  (n, s.withParseState p)

/-- Reads all there is. -/
def parseAll (disk : Disk) (s : Session) : Nat × Session := s.advance disk s.log.length

def setFinished (s : Session) (finished : Bool) : Session :=
  { s with parse := { s.parse with finished } }

/-- Tells of an edit of the log at an offset. -/
def onEdit (s : Session) (offset : Nat) : Session :=
  let (parse, table) := s.parse.flushFrom s.table offset
  { s with parse, table }

/-! ## 3. Edits -/

def append (s : Session) (t : Text) : Nat × Session :=
  let (offset, log) := s.log.append t
  (offset, { s with log })

def insert (s : Session) (offset : Nat) (t : Text) : Session :=
  let s := s.onEdit offset
  { s with log := s.log.insert offset t }

def delete (s : Session) (span : Span) : Session :=
  let s := s.onEdit span.start
  { s with log := s.log.delete span }

/-- Removes the head of the log, keeps the messages after it, and drops the files that none of
them refers to; answers how many these were. -/
def trim (s : Session) (length : Nat) : Nat × Session :=
  let length := min length s.log.length
  let (_, parse, table) := s.parse.discardBefore s.table length
  let log := (s.log.clearLabels 0 length).delete ⟨0, length⟩
  let current := (s.navigation.current.filter (length ≤ ·)).map (· - length)
  let (swept, table) := table.sweep
  (swept, { s with
    log, table
    parse := parse.shiftBack length
    navigation := { s.navigation with current } })

/-! ## 4. Navigation -/

/-- Reads all there is, and makes a step; answers the message that it leads to. -/
def stepWith (move : Navigation → Parse → FileTable → Except NavigationError (Nat × Navigation))
    (disk : Disk) (s : Session) : Except NavigationError Message × Session :=
  let (_, s) := s.parseAll disk
  match move s.navigation s.parse s.table with
  | .error e => (.error e, s)
  | .ok (start, navigation) =>
    let s := { s with navigation }
    match s.parse.messageAtStart? start with
    | some m => (.ok m, s)
    | none => (.error (.unknownMessage start), s)

def nextMessage (disk : Disk) (n : Int) (s : Session) : Except NavigationError Message × Session :=
  s.stepWith (fun nav p t => nav.step n false disk p t) disk

/-- Steps to messages in other files. -/
def nextFile (disk : Disk) (n : Int) (s : Session) : Except NavigationError Message × Session :=
  s.stepWith (fun nav p t => nav.step n true disk p t) disk

def firstMessage (disk : Disk) (s : Session) : Except NavigationError Message × Session :=
  s.stepWith (fun nav p t => nav.first disk p t) disk

/-- Jumps to the place of the message that starts at an offset. -/
def jump (disk : Disk) (start : Nat) (s : Session) : Except NavigationError Jump × Session :=
  let (r, j) := Navigation.jump disk start ⟨s.navigation, s.parse, s.table, s.sources⟩
  (r, { s with navigation := j.nav, parse := j.parse, table := j.table, sources := j.sources })

/-- Steps and jumps. -/
def nextError (disk : Disk) (n : Int) (s : Session) : Except NavigationError Jump × Session :=
  match s.nextMessage disk n with
  | (.error e, s) => (.error e, s)
  | (.ok m, s) => s.jump disk m.start

/-! ## 5. Files -/

/-- Drops what is known of a file; answers whether anything was. -/
def flushFile (disk : Disk) (spec : FileSpec) (s : Session) : Bool × Session :=
  let (flushed, table) := s.table.flush disk spec
  (flushed, { s with table })

/-- Drops the files that no message refers to; answers how many they were. -/
def sweep (s : Session) : Nat × Session :=
  let (n, table) := s.table.sweep
  (n, { s with table })

/-- The path of a message's file, unless its entry was dropped. -/
def filePath? (s : Session) (m : Message) : Option Path := (s.table.file? m.file).map (·.path)

end Session

end BuildLog
