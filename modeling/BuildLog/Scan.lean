import BuildLog.Message
import BuildLog.Substitution
import BuildLog.Rule.Set

/-!
# Scanning — the messages in a piece of a log

Every rule is run over the text.  The matches are taken in order of where they begin, of two that
begin at the same place that of the earlier rule, and an accepted match claims its last line up to
the end.  The file that an accepted match names gets an entry in the file table, and so do the
places.
-/

namespace BuildLog

/-! ## 1. Candidates -/

/-- A non-empty match of a rule. -/
structure Candidate where
  rule : Rule
  found : Pattern.Match
deriving Repr

namespace Candidate

def start (c : Candidate) : Nat := c.found.span.start

/-- Puts a candidate in order of starts, unless there is one that begins at the same place. -/
def insert (c : Candidate) : List Candidate → List Candidate
  | [] => [c]
  | d :: ds =>
    if c.start < d.start then c :: d :: ds
    else if c.start = d.start then d :: ds
    else d :: insert c ds

/-- The non-empty matches of one rule, in order. -/
def ofRule (text : Array Char) (r : Rule) : List Candidate :=
  ((r.pattern.allMatches text).filter fun m => !m.span.isEmpty).map fun m => ⟨r, m⟩

/-- The candidates of a set of rules, in order of their starts. -/
def all (rules : RuleSet) (text : Array Char) : List Candidate :=
  (rules.rules.flatMap (ofRule text)).foldl (fun acc c => insert c acc) []

end Candidate

/-! ## 2. Values -/

/-- What a scan needs to know. -/
structure ScanSettings where
  rules : RuleSet
  /-- The number that the tool gives to the first column. -/
  firstColumn : Nat := 1
  substitutions : List Substitution := []
deriving Repr

/-- A line number. -/
def RoleValue.line : RoleValue → Option Nat
  | .text t => Text.number? t.trim
  | .number n => some n

/-- A column number that counts from one, where the tool counts from `firstColumn`. -/
def RoleValue.column (firstColumn : Nat) : RoleValue → Option Nat
  | .text t => (Text.number? t.trim).map fun n => Text.wrappingAdd n 1 - firstColumn
  | .number n => some n

/-- Whether the number that a column is worked out from is the largest that there is, so that one
more is too large. -/
def RoleValue.overflows : RoleValue → Bool
  | .text t => (Text.number? t.trim).any fun n => Text.numberBound ≤ n + 1
  | .number _ => false

/-- The text of a value that has one. -/
def RoleValue.text? : RoleValue → Option Text
  | .text t => some t
  | .number _ => none

/-- The file that a message without a file of its own refers to. -/
structure Inherited where
  file : FileId
  filename : String
  directory : Option Path
deriving Repr

def Inherited.ofMessage (m : Message) : Inherited :=
  ⟨m.file, m.location.filename, m.location.directory⟩

/-! ## 3. Messages -/

/-- The state that a scan passes on: where the directories are known from, and the files. -/
structure ScanState where
  trail : DirectoryTrail
  table : FileTable
deriving Repr

/-- The file of a match: its entry, its name, and the directory it is in. -/
structure FileChoice where
  file : FileId
  filename : String
  directory : Option Path
  state : ScanState
deriving Repr

/-- The file that a match names.  A rule that says its file has changed drops what is known of
it first. -/
def namedFile (disk : Disk) (rule : Rule) (filename : String) (offset : Nat) (s : ScanState) :
    FileChoice :=
  let (stack, trail) := s.trail.frameAt offset
  let spec : FileSpec := { filename }
  let table :=
    if rule.flushes then
      match s.table.lookup disk spec stack with
      | some stale => (s.table.dropFile stale).2
      | none => s.table
    else s.table
  let (file, table) := table.intern disk spec stack rule.formats
  ⟨file, filename, stack.directory?, ⟨trail, table⟩⟩

/-- The file of the message before, with a new entry if its entry was dropped. -/
def inheritedFile (disk : Disk) (rule : Rule) (previous : Inherited) (s : ScanState) : FileChoice :=
  if (s.table.file? previous.file).isSome then
    ⟨previous.file, previous.filename, previous.directory, s⟩
  else
    let (file, table) :=
      s.table.intern disk ⟨previous.filename, previous.directory⟩ .root rule.formats
    ⟨file, previous.filename, previous.directory, { s with table }⟩

/-- The file of a match that begins at `offset`; none if a substitution drops its name, or if it
names no file and there is no message before it. -/
def chooseFile (cfg : ScanSettings) (disk : Disk) (rule : Rule) (f : Found) (offset : Nat)
    (previous : Option Inherited) (s : ScanState) : Option FileChoice :=
  match (rule.file.bind (·.primary f)).bind RoleValue.text? with
  | some raw =>
    (Substitution.applyAll cfg.substitutions raw.trim).map fun name =>
      namedFile disk rule (String.ofList name) offset s
  | none => previous.map fun p => inheritedFile disk rule p s

/-- The location that a match gives in its text. -/
def textLocation (cfg : ScanSettings) (rule : Rule) (f : Found) (filename : String)
    (directory : Option Path) : TextLocation where
  filename := filename
  directory := directory
  line := (rule.line.bind (·.primary f)).bind RoleValue.line
  column := (rule.column.bind (·.primary f)).bind (RoleValue.column cfg.firstColumn)
  endLine := (rule.line.bind (·.secondary f)).bind RoleValue.line
  endColumn := (rule.column.bind (·.secondary f)).bind (RoleValue.column cfg.firstColumn)

/-- The places of a location in a file: that of its start, and that of its end if it has one. -/
def placesOf (t : FileTable) (file : FileId) (l : TextLocation) :
    Except PlaceError (PlaceId × Option PlaceId × FileTable) :=
  match t.placeAt file l.position with
  | .error e => .error e
  | .ok (place, t) =>
    match l.endPosition? with
    | none => .ok (place, none, t)
    | some p =>
      match t.placeAt file p with
      | .ok (endPlace, t) => .ok (place, some endPlace, t)
      | .error _ => .ok (place, none, t)

/-- The message of a candidate in a text that begins at offset `base`. -/
def Candidate.message? (cfg : ScanSettings) (disk : Disk) (text : Array Char) (base : Nat)
    (previous : Option Inherited) (s : ScanState) (c : Candidate) : Option (Message × ScanState) :=
  let f : Found := .ofMatch text c.found
  let rule := c.rule
  let span := c.found.span.shift base
  match chooseFile cfg disk rule f span.start previous s with
  | none => none
  | some choice =>
    let location := textLocation cfg rule f choice.filename choice.directory
    match placesOf choice.state.table choice.file location with
    | .error _ => none
    | .ok (place, endPlace, table) =>
      some
        ({ span
           hyperlink := ((rule.hyperlink.bind f.group).map (·.shift base)).getD span
           severity := rule.severity.resolve f
           file := choice.file
           place, endPlace
           rule := rule.name
           location
           highlights := rule.highlights.filterMap fun h =>
             (f.group h.group).map fun s => ⟨s.shift base, h.face⟩ },
          { choice.state with table := table.retain choice.file })

/-- The messages of the candidates in order.  `claimed` is the end of the text that messages have
claimed, and `previous` is the file of the message before. -/
def scanCandidates (cfg : ScanSettings) (disk : Disk) (text : Text) (input : Array Char)
    (base : Nat) (claimed : Nat) (previous : Option Inherited) (s : ScanState) :
    List Candidate → List Message × ScanState
  | [] => ([], s)
  | c :: cs =>
    if c.start < claimed then scanCandidates cfg disk text input base claimed previous s cs
    else
      match c.message? cfg disk input base previous s with
      | none => scanCandidates cfg disk text input base claimed previous s cs
      | some (m, s) =>
        let (ms, s) := scanCandidates cfg disk text input base
          (text.lineEndAfter c.found.span.stop) (some (.ofMessage m)) s cs
        (m :: ms, s)

/-- The messages of a text that begins at offset `base` of the log.  The trail must know the
directories up to the end of the text. -/
def scan (cfg : ScanSettings) (disk : Disk) (text : Text) (base : Nat)
    (previous : Option Inherited) (s : ScanState) : List Message × ScanState :=
  let input := text.toArray
  scanCandidates cfg disk text input base 0 previous s (Candidate.all cfg.rules input)

/-! ## 4. Sums that are too large -/

/-- Whether a column of a candidate is too large.  Columns are worked out once there is a file. -/
def Candidate.overflows (cfg : ScanSettings) (disk : Disk) (text : Array Char) (base : Nat)
    (previous : Option Inherited) (s : ScanState) (c : Candidate) : Bool :=
  let f : Found := .ofMatch text c.found
  (chooseFile cfg disk c.rule f (c.found.span.shift base).start previous s).isSome
    && ((c.rule.column.bind (·.primary f)).any RoleValue.overflows
      || (c.rule.column.bind (·.secondary f)).any RoleValue.overflows)

/-- Whether a column is too large among the candidates that `scanCandidates` goes through. -/
def overflowsAmong (cfg : ScanSettings) (disk : Disk) (text : Text) (input : Array Char)
    (base : Nat) (claimed : Nat) (previous : Option Inherited) (s : ScanState) :
    List Candidate → Bool
  | [] => false
  | c :: cs =>
    if c.start < claimed then overflowsAmong cfg disk text input base claimed previous s cs
    else
      c.overflows cfg disk input base previous s
        || match c.message? cfg disk input base previous s with
          | none => overflowsAmong cfg disk text input base claimed previous s cs
          | some (m, s) => overflowsAmong cfg disk text input base
              (text.lineEndAfter c.found.span.stop) (some (.ofMessage m)) s cs

/-- Whether `scan` works out a column that is too large. -/
def scanOverflows (cfg : ScanSettings) (disk : Disk) (text : Text) (base : Nat)
    (previous : Option Inherited) (s : ScanState) : Bool :=
  let input := text.toArray
  overflowsAmong cfg disk text input base 0 previous s (Candidate.all cfg.rules input)

end BuildLog
