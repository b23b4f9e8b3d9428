import BuildLog.Parse

/-!
# Navigation — stepping between messages and jumping to their places
-/

namespace BuildLog

/-! ## 1. Types -/

inductive Direction
  | forward
  | backward
deriving Repr, DecidableEq

structure NavigationSettings where
  /-- Messages below this severity are skipped. -/
  skipThreshold : Severity := .warning
  /-- Messages whose place was gone to are skipped. -/
  skipVisited : Bool := false
  /-- Columns count terminal cells rather than characters. -/
  screenColumns : Bool := true
deriving Repr, DecidableEq

/-- Why a step or a jump fails. -/
inductive NavigationError
  /-- There is no message to step to at all. -/
  | noneRecorded
  /-- There is none further on in this direction. -/
  | noFurther (direction : Direction)
  | unknownMessage (start : Nat)
  | place (error : PlaceError)
deriving Repr, DecidableEq

def NavigationError.message : NavigationError → String
  | .noneRecorded => "no messages yet"
  | .noFurther .forward => "moved past last message"
  | .noFurther .backward => "moved back before first message"
  | .unknownMessage start => "no message starts at offset " ++ toString start
  | .place e => e.message

/-- Whether an error says no more than that there is no message to step to. -/
def NavigationError.isEnd : NavigationError → Bool
  | .noneRecorded | .noFurther _ => true
  | .unknownMessage _ | .place _ => false

/-- Where a jump leads. -/
structure Jump where
  message : Nat
  buffer : BufferId
  path : Path
  position : Nat
  /-- The end of the range, for a message that gives one. -/
  rangeEnd : Option Nat
deriving Repr, DecidableEq

/-- The settings, and the message that was gone to last. -/
structure Navigation where
  settings : NavigationSettings := {}
  current : Option Nat := none
deriving Repr, DecidableEq

namespace Navigation

/-! ## 2. Steps -/

/-- Whether a step may end at a message. -/
def eligible (cfg : NavigationSettings) (table : FileTable) (m : Message) : Bool :=
  decide (cfg.skipThreshold ≤ m.severity)
    && !(cfg.skipVisited && (table.place? m.place).any (·.visited))

/-- The path of a message's file; a file whose entry was dropped is looked for anew. -/
def filePath (disk : Disk) (table : FileTable) (m : Message) : Path :=
  match table.file? m.file with
  | some f => f.path
  | none => table.logicalPath disk m.location.spec

/-- The messages beyond a position in a direction, the nearest first; without a position, all. -/
def beyond (direction : Direction) (position : Option Nat) (ms : List Message) : List Message :=
  match direction with
  | .forward => ms.filter fun m => position.all (· < m.start)
  | .backward => (ms.filter fun m => position.all (m.start < ·)).reverse

/-- The message that one hop leads to.  With `left`, it is in a file other than the one at that
path. -/
def hop? (accept : Message → Bool) (pathOf : Message → Path) (direction : Direction)
    (position : Option Nat) (left : Option Path) (ms : List Message) : Option Message :=
  (beyond direction position ms).find? fun m =>
    accept m && !left.any fun p => p.same (pathOf m)

/-- The start of the message that `n` hops lead to.  With `newFile`, each leads to a file other
than the one it leaves. -/
def hops? (accept : Message → Bool) (pathOf : Message → Path) (newFile : Bool)
    (direction : Direction) (ms : List Message) :
    (n : Nat) → (position : Option Nat) → (left : Option Path) → Option (Option Nat)
  | 0, position, _ => some position
  | n + 1, position, left =>
    match hop? accept pathOf direction position left ms with
    | none => none
    | some m =>
      hops? accept pathOf newFile direction ms n (some m.start)
        (if newFile then some (pathOf m) else none)

/-- Moves across `n` messages, back if `n` is negative; answers where the last one starts.  If it
fails, nothing changes. -/
def step (nav : Navigation) (n : Int) (newFile : Bool) (disk : Disk) (p : Parse)
    (table : FileTable) : Except NavigationError (Nat × Navigation) :=
  let accept := eligible nav.settings table
  let pathOf := filePath disk table
  if !p.messages.any accept then .error .noneRecorded
  else if n = 0 then
    match nav.current.filter fun start => (p.messageAtStart? start).isSome with
    | some start => .ok (start, nav)
    | none => .error .noneRecorded
  else
    let direction : Direction := if 0 < n then .forward else .backward
    let left :=
      if newFile then (nav.current.bind p.messageAtStart?).map pathOf else none
    match hops? accept pathOf newFile direction p.messages n.natAbs nav.current left with
    | none => .error (.noFurther direction)
    | some position => .ok (position.getD 0, { nav with current := position })

/-- Moves to the first message, wherever the last step led to. -/
def first (nav : Navigation) (disk : Disk) (p : Parse) (table : FileTable) :
    Except NavigationError (Nat × Navigation) :=
  ({ nav with current := none } : Navigation).step 1 false disk p table

/-! ## 3. Jumps -/

/-- Makes new entries for the file and places of a message, and counts the message there. -/
def reintern (disk : Disk) (rules : RuleSet) (table : FileTable) (m : Message) :
    Except PlaceError (FileId × PlaceId × Option PlaceId) × FileTable :=
  let formats := ((rules.lookup m.rule).map (·.formats)).getD []
  let (file, table) := table.intern disk m.location.spec .root formats
  match table.placeAt file m.location.position with
  | .error e => (.error e, table)
  | .ok (place, table) =>
    match m.location.endPosition? with
    | none => (.ok (file, place, none), table.retain file)
    | some p =>
      match table.placeAt file p with
      | .error e => (.error e, table)
      | .ok (endPlace, table) => (.ok (file, place, some endPlace), table.retain file)

/-- What a jump works on. -/
structure JumpState where
  nav : Navigation
  parse : Parse
  table : FileTable
  sources : Sources
deriving Repr

/-- Makes the message whose places were found the current one, and its place visited. -/
def arrive (start : Nat) (file : FileId) (place : PlaceId) (position : Nat)
    (rangeEnd : Option Nat) (s : JumpState) : Except NavigationError Jump × JumpState :=
  match s.table.markVisited place with
  | .error e => (.error (.place e), s)
  | .ok table =>
    match table.file? file with
    | none => (.error (.place .stale), { s with table })
    | some f =>
      match f.buffer with
      | none => (.error (.place .stale), { s with table })
      | some buffer =>
        (.ok { message := start, buffer, path := f.path, position, rangeEnd },
          { s with nav := { s.nav with current := some start }, table })

/-- Goes to the places of a message: its start, and its end as far as that works out. -/
def jumpTo (disk : Disk) (start : Nat) (file : FileId) (place : PlaceId)
    (endPlace : Option PlaceId) (s : JumpState) : Except NavigationError Jump × JumpState :=
  let screen := s.nav.settings.screenColumns
  match s.table.locate disk s.sources place screen with
  | (.error e, table, sources) => (.error (.place e), { s with table, sources })
  | (.ok position, table, sources) =>
    let (rangeEnd, table, sources) :=
      match endPlace with
      | none => (none, table, sources)
      | some e =>
        match table.locate disk sources e screen with
        | (.ok position, table, sources) => (some position, table, sources)
        | (.error _, table, sources) => (none, table, sources)
    arrive start file place position rangeEnd { s with table, sources }

/-- Goes to the place of the message that starts at an offset, makes the message current and the
place visited.  A message whose file's entry was dropped gets a new one. -/
def jump (disk : Disk) (start : Nat) (s : JumpState) : Except NavigationError Jump × JumpState :=
  match s.parse.messageAtStart? start with
  | none => (.error (.unknownMessage start), s)
  | some m =>
    if (s.table.place? m.place).isSome then jumpTo disk start m.file m.place m.endPlace s
    else
      match reintern disk s.parse.settings.rules s.table m with
      | (.error e, table) => (.error (.place e), { s with table })
      | (.ok (file, place, endPlace), table) =>
        jumpTo disk start file place endPlace
          { s with table, parse := s.parse.relocate start file place endPlace }

end Navigation

end BuildLog
