import BuildLog.Directory
import BuildLog.Slots
import BuildLog.Sources

/-!
# The file table — referenced files and the places in them

Every file that a log refers to has one entry, however many spellings the log uses for it.  An
entry owns the places in the file that messages name, in order of line and column.  The first time
a place is gone to, markers for all places of its file are put into the source buffer.
-/

namespace BuildLog

/-! ## 1. Types -/

structure FileId where
  handle : Handle
deriving Repr, DecidableEq

structure PlaceId where
  handle : Handle
deriving Repr, DecidableEq

/-- A file name as written, and the directory it is relative to. -/
structure FileSpec where
  filename : String
  /-- Without one, the directory stack and the search path decide. -/
  directory : Option Path := none
deriving Repr

/-- A line and a column, each of which may be unknown. -/
structure Position where
  line : Option Nat
  column : Option Nat
deriving Repr, DecidableEq

namespace Position

/-- The place of a number in an order that begins with the unknown. -/
def rank : Option Nat → Nat
  | none => 0
  | some n => n + 1

/-- By line, then by column; the unknown comes first. -/
def lt (p q : Position) : Bool :=
  rank p.line < rank q.line || (rank p.line = rank q.line && rank p.column < rank q.column)

end Position

/-- What is known about a referenced file. -/
structure FileEntry where
  /-- The name it was first seen under; the directory is absolute. -/
  spec : FileSpec
  /-- Spellings tried when it is looked for. -/
  formats : List String
  /-- Where it is, or where it would be. -/
  path : Path
  /-- Whether a file was found there. -/
  found : Bool
  /-- The places in the file, in order. -/
  places : List (Position × PlaceId) := []
  buffer : Option BufferId := none
  /-- Number of messages that refer to the file. -/
  refs : Nat := 0
deriving Repr

namespace FileEntry

def findPlace (f : FileEntry) (p : Position) : Option PlaceId := f.places.lookup p

/-- The nearest line at or before `line` that has a place. -/
def lineAtOrBefore (f : FileEntry) (line : Nat) : Option Nat :=
  ((f.places.filter fun e => Position.rank e.1.line ≤ line + 1).getLast?).bind (·.1.line)

def insertPlace (p : Position) (id : PlaceId) :
    List (Position × PlaceId) → List (Position × PlaceId)
  | [] => [(p, id)]
  | e :: es => if p.lt e.1 then (p, id) :: e :: es else e :: insertPlace p id es

end FileEntry

/-- A place in a file, shared by all messages that name it. -/
structure Place where
  file : FileId
  position : Position
  marker : Option MarkerId := none
  /-- Whether someone has gone there. -/
  visited : Bool := false
deriving Repr

/-- Why a place cannot be gone to. -/
inductive PlaceError
  /-- There is no file; the path is the last one tried. -/
  | unresolved (filename : String) (searched : Path)
  /-- The file's entry was dropped. -/
  | stale
deriving Repr, DecidableEq

def PlaceError.message : PlaceError → String
  | .unresolved filename searched =>
    "cannot find '" ++ filename ++ "' (looked for " ++ searched.toString ++ ")"
  | .stale => "location belongs to a flushed file"

/-- A file name with the directory that it is taken in. -/
structure SpecKey where
  filename : String
  directory : Option (List Component)
deriving Repr, DecidableEq

/-- The files and places of a session. -/
structure FileTable where
  files : Slots FileEntry := {}
  places : Slots Place := {}
  bySpec : List (SpecKey × FileId) := []
  /-- The entry of each path, by its components. -/
  byPath : List (List Component × FileId) := []
  /-- Directories in which relative names are looked for; none is the working directory. -/
  searchPath : List (Option Path) := [none]
  workingDir : Path
deriving Repr

namespace FileTable

/-- Sets the value of a key, in place of an earlier one. -/
def assign {κ α : Type} [DecidableEq κ] (k : κ) (a : α) (xs : List (κ × α)) : List (κ × α) :=
  (k, a) :: xs.filter (·.1 ≠ k)

/-! ## 2. Looking for files -/

/-- A path as seen from the working directory, in normal form. -/
def absolutize (t : FileTable) (p : Path) : Path := (t.workingDir.join p).normalize

/-- The directory that a name is relative to: its own, or the one that the build is in. -/
def baseDirectory (t : FileTable) (spec : FileSpec) (stack : DirectoryStack) : Option Path :=
  (spec.directory <|> stack.directory?).map t.absolutize

/-- The spellings of a name: in each format it takes the place of the first mark. -/
def spellings (filename : String) (formats : List String) : List Path :=
  if formats.isEmpty then [.ofString filename]
  else formats.map fun f => ⟨Text.replaceFirst ['%', 's'] filename.toList f.toList⟩

/-- The directories in which a name is looked for, in order. -/
def directories (t : FileTable) (directory : Option Path) : List Path :=
  directory.toList ++ t.searchPath.map fun
    | some dir => t.absolutize dir
    | none => t.workingDir

/-- The paths that a name may stand for: each spelling in each directory. -/
def candidates (t : FileTable) (filename : String) (directory : Option Path)
    (formats : List String) : List Path :=
  (t.directories directory).flatMap fun dir =>
    (spellings filename formats).map fun name => (dir.join name).normalize

/-- Where a file is: the first candidate at which there is one, or else where its name would be in
the first directory. -/
def resolve (t : FileTable) (disk : Disk) (filename : String) (directory : Option Path)
    (formats : List String) : Path × Bool :=
  match (t.candidates filename directory formats).find? disk.isFile with
  | some p => (p, true)
  | none =>
    let base := (t.directories directory).head?.getD t.workingDir
    ((base.join (.ofString filename)).normalize, false)

/-! ## 3. Reading the table -/

def file? (t : FileTable) (id : FileId) : Option FileEntry := t.files.get? id.handle

def place? (t : FileTable) (id : PlaceId) : Option Place := t.places.get? id.handle

def fileCount (t : FileTable) : Nat := t.files.size

def placeCount (t : FileTable) : Nat := t.places.size

/-- All entries, in the order of their slots. -/
def entries (t : FileTable) : List (FileId × FileEntry) :=
  t.files.toList.map fun e => (⟨e.1⟩, e.2)

/-- A live entry by the name it was asked for under. -/
def bySpec? (t : FileTable) (key : SpecKey) : Option FileId :=
  (t.bySpec.lookup key).filter fun id => t.files.contains id.handle

/-- A live entry by its path. -/
def byPath? (t : FileTable) (p : Path) : Option FileId :=
  (t.byPath.lookup p.components).filter fun id => t.files.contains id.handle

/-- The entry that a name stands for, if there is one. -/
def lookup (t : FileTable) (disk : Disk) (spec : FileSpec) (stack : DirectoryStack) :
    Option FileId :=
  let directory := t.baseDirectory spec stack
  match t.bySpec? ⟨spec.filename, directory.map Path.components⟩ with
  | some id => some id
  | none => t.byPath? (t.resolve disk spec.filename directory []).1

/-- The path that a name stands for. -/
def logicalPath (t : FileTable) (disk : Disk) (spec : FileSpec) : Path :=
  (t.resolve disk spec.filename (t.baseDirectory spec .root) []).1

/-! ## 4. Making entries -/

/-- The entry for a name, a new one if the name stands for a file not seen before. -/
def intern (t : FileTable) (disk : Disk) (spec : FileSpec) (stack : DirectoryStack)
    (formats : List String) : FileId × FileTable :=
  let directory := t.baseDirectory spec stack
  let key : SpecKey := ⟨spec.filename, directory.map Path.components⟩
  match t.bySpec? key with
  | some id => (id, t)
  | none =>
    let (path, found) := t.resolve disk spec.filename directory formats
    match t.byPath? path with
    | some id => (id, { t with bySpec := assign key id t.bySpec })
    | none =>
      let (handle, files) := t.files.insert
        { spec := { spec with directory }
          formats := if formats.isEmpty then ["%s"] else formats
          path, found }
      (⟨handle⟩, { t with
        files
        byPath := assign path.components ⟨handle⟩ t.byPath
        bySpec := assign key ⟨handle⟩ t.bySpec })

/-- The place at a position of a file, a new one if there is none. -/
def placeAt (t : FileTable) (file : FileId) (p : Position) :
    Except PlaceError (PlaceId × FileTable) :=
  match t.file? file with
  | none => .error .stale
  | some f =>
    match f.findPlace p with
    | some id => .ok (id, t)
    | none =>
      let (handle, places) := t.places.insert { file, position := p }
      .ok (⟨handle⟩, { t with
        places
        files := t.files.modify file.handle fun f =>
          { f with places := FileEntry.insertPlace p ⟨handle⟩ f.places } })

/-! ## 5. Dropping entries -/

/-- Drops a file and its places; answers whether it was there. -/
def dropFile (t : FileTable) (id : FileId) : Bool × FileTable :=
  match t.files.remove id.handle with
  | (none, _) => (false, t)
  | (some f, files) =>
    (true, { t with
      files
      places := f.places.foldl (fun ps e => (ps.remove e.2.handle).2) t.places
      bySpec := t.bySpec.filter (·.2 ≠ id)
      byPath := t.byPath.filter (·.2 ≠ id) })

/-- Drops the file that a name stands for; answers whether there was one. -/
def flush (t : FileTable) (disk : Disk) (spec : FileSpec) : Bool × FileTable :=
  match t.lookup disk spec .root with
  | some id => t.dropFile id
  | none => (false, t)

/-- Counts one more message that refers to a file. -/
def retain (t : FileTable) (id : FileId) : FileTable :=
  { t with files := t.files.modify id.handle fun f => { f with refs := f.refs + 1 } }

/-- Counts one message less. -/
def release (t : FileTable) (id : FileId) : FileTable :=
  { t with files := t.files.modify id.handle fun f => { f with refs := f.refs - 1 } }

/-- Drops the files that no message refers to; answers how many they were. -/
def sweep (t : FileTable) : Nat × FileTable :=
  let unused := (t.entries.filter (·.2.refs = 0)).map (·.1)
  (unused.length, unused.foldl (fun t id => (t.dropFile id).2) t)

def clear (t : FileTable) : FileTable :=
  { t with files := t.files.clear, places := t.places.clear, bySpec := [], byPath := [] }

/-! ## 6. Going to places -/

def markVisited (t : FileTable) (id : PlaceId) : Except PlaceError FileTable :=
  match t.place? id with
  | none => .error .stale
  | some _ =>
    .ok { t with places := t.places.modify id.handle fun p => { p with visited := true } }

/-- Opens the file at a path, or else the one that the guide names. -/
def openOrAsk (t : FileTable) (disk : Disk) (sources : Sources) (filename : String) (p : Path) :
    Option (BufferId × Path) × Sources :=
  match sources.openFile disk p with
  | (some b, sources) => (some (b, p), sources)
  | (none, sources) =>
    match sources.ask filename p with
    | (none, sources) => (none, sources)
    | (some answer, sources) =>
      let answer := t.absolutize answer
      match sources.openFile disk answer with
      | (some b, sources) => (some (b, answer), sources)
      | (none, sources) => (none, sources)

/-- Notes which buffer a file was opened in, and at which path. -/
def setBuffer (t : FileTable) (id : FileId) (f : FileEntry) (b : BufferId) (p : Path) : FileTable :=
  { t with
    byPath :=
      if f.path.same p then t.byPath
      else assign p.components id (t.byPath.filter (·.1 ≠ f.path.components))
    files := t.files.modify id.handle fun f =>
      { f with path := p, found := true, buffer := some b } }

/-- The buffer of a file, opened if it is not open.  A file that was not found before is looked
for once more. -/
def openBuffer (t : FileTable) (disk : Disk) (sources : Sources) (id : FileId) :
    Except PlaceError BufferId × FileTable × Sources :=
  match t.file? id with
  | none => (.error .stale, t, sources)
  | some f =>
    match f.buffer.filter sources.isOpen with
    | some b => (.ok b, t, sources)
    | none =>
      let path :=
        if f.found then f.path
        else
          match t.resolve disk f.spec.filename f.spec.directory f.formats with
          | (p, true) => p
          | (_, false) => f.path
      match t.openOrAsk disk sources f.spec.filename path with
      | (some (b, opened), sources) => (.ok b, t.setBuffer id f b opened, sources)
      | (none, sources) => (.error (.unresolved f.spec.filename path), t, sources)

/-- Puts a marker at one place, unless it has one that is alive. -/
def placeMarker (b : BufferId) (screen : Bool) (acc : FileTable × Sources) (id : PlaceId) :
    FileTable × Sources :=
  let (t, sources) := acc
  match t.place? id with
  | none => acc
  | some p =>
    if (p.marker.bind sources.position?).isSome then acc
    else
      match sources.offset? b (p.position.line.getD 1) p.position.column screen with
      | none => acc
      | some offset =>
        let (m, sources) := sources.addMarker b offset
        ({ t with places := t.places.modify id.handle fun p => { p with marker := some m } },
          sources)

/-- Puts markers at the places of a file, in order. -/
def placeMarkers (t : FileTable) (sources : Sources) (id : FileId) (b : BufferId) (screen : Bool) :
    FileTable × Sources :=
  match t.file? id with
  | none => (t, sources)
  | some f => (f.places.map (·.2)).foldl (placeMarker b screen) (t, sources)

/-- What is said of a file whose place has no position. -/
def unresolved (t : FileTable) (id : FileId) : PlaceError :=
  match t.file? id with
  | some f => .unresolved f.spec.filename f.path
  | none => .stale

/-- Where a place is in its source buffer.  The buffer is opened and markers are put into it when
they are first needed. -/
def locate (t : FileTable) (disk : Disk) (sources : Sources) (id : PlaceId) (screen : Bool) :
    Except PlaceError Nat × FileTable × Sources :=
  match t.place? id with
  | none => (.error .stale, t, sources)
  | some p =>
    match p.marker.bind sources.position? with
    | some position => (.ok position, t, sources)
    | none =>
      match t.openBuffer disk sources p.file with
      | (.error e, t, sources) => (.error e, t, sources)
      | (.ok b, t, sources) =>
        let (t, sources) := t.placeMarkers sources p.file b screen
        match t.place? id with
        | none => (.error .stale, t, sources)
        | some placed =>
          match placed.marker.bind sources.position? with
          | some position => (.ok position, t, sources)
          | none => (.error (t.unresolved p.file), t, sources)

end FileTable

end BuildLog
