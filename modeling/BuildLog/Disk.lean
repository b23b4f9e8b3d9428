import BuildLog.Path

/-!
# Disk — the files that a session can see

Files lie below the root or below the working directory, and the two trees are kept apart.  A path
is followed step by step, so a step into something that is no directory leads nowhere.
-/

namespace BuildLog

inductive DiskEntry
  | file (bytes : ByteArray)
  | directory

/-- Where something is: the names that lead to it from the root or from the working directory. -/
structure Spot where
  fromRoot : Bool
  names : List Text
deriving Repr, DecidableEq

/-- What is found at each spot. -/
structure Disk where
  entries : List (Spot × DiskEntry) := []

namespace Disk

def empty : Disk := {}

/-- What is found at a spot; the root and the working directory are directories. -/
def at? (d : Disk) (s : Spot) : Option DiskEntry :=
  if s.names = [] then some .directory else d.entries.lookup s

/-- The spot below another one, if there is something. -/
def child? (d : Disk) (s : Spot) (name : Text) : Option Spot :=
  let below : Spot := { s with names := s.names ++ [name] }
  if (d.at? below).isSome then some below else none

/-- The spot above another one.  The root is above itself, and what is above the working directory
is found under the name of that step. -/
def parent? (d : Disk) (s : Spot) : Option Spot :=
  if s.names = [] && s.fromRoot then some s
  else if s.names.all (· = ['.', '.']) then d.child? s ['.', '.']
  else some { s with names := s.names.dropLast }

/-- One step on the way from a spot, where a directory must be. -/
def follow (d : Disk) (s : Spot) (piece : Text) : Option Spot :=
  match d.at? s with
  | some .directory =>
    if piece = [] || piece = ['.'] then some s
    else if piece = ['.', '.'] then d.parent? s
    else d.child? s piece
  | _ => none

/-- The spot that a path leads to, if there is something. -/
def find? (d : Disk) (p : Path) : Option Spot :=
  if p.text = [] then none else (Path.pieces p.text).foldlM d.follow ⟨p.isAbsolute, []⟩

def isFile (d : Disk) (p : Path) : Bool :=
  match (d.find? p).bind d.at? with
  | some (.file _) => true
  | _ => false

/-- The text of a file; there is none for a file that does not hold text. -/
def read? (d : Disk) (p : Path) : Option String :=
  match (d.find? p).bind d.at? with
  | some (.file bytes) => String.fromUTF8? bytes
  | _ => none

/-! ## Changes -/

/-- The spot that a path names when its pieces are taken literally. -/
def spotOf (p : Path) : Spot :=
  ⟨p.isAbsolute, (Path.pieces p.text).filter fun piece => piece ≠ [] && piece ≠ ['.']⟩

def set (d : Disk) (s : Spot) (e : DiskEntry) : Disk :=
  ⟨(s, e) :: d.entries.filter (·.1 ≠ s)⟩

/-- Makes the directories that lead to a spot. -/
def makeParents (d : Disk) (s : Spot) : Disk :=
  (List.range s.names.length).foldl (fun d n =>
    let parent : Spot := { s with names := s.names.take n }
    if (d.at? parent).isSome then d else d.set parent .directory) d

/-- Puts something at a path, with the directories that lead there. -/
def write (d : Disk) (p : Path) (e : DiskEntry) : Disk :=
  (d.makeParents (spotOf p)).set (spotOf p) e

/-- Removes what is at a path, and all below it. -/
def remove (d : Disk) (p : Path) : Disk :=
  let s := spotOf p
  ⟨d.entries.filter fun e => !(e.1.fromRoot = s.fromRoot && s.names.isPrefixOf e.1.names)⟩

end Disk

end BuildLog
