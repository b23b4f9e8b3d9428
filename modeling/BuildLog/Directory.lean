import BuildLog.Path
import BuildLog.Pattern.Basic

/-!
# Directories — the stack of directories that a recursive build is in

Recursive builds announce the directories they enter and leave.  A trail keeps, for each announced
change, the stack of directories in effect from there on, and answers which stack is in effect at
an offset of the log.
-/

namespace BuildLog

/-! ## 1. Stacks -/

/-- An entered directory.  The stamp tells one entering from another, also of the same
directory. -/
structure EnteredDirectory where
  path : Path
  stamp : Nat
deriving Repr, DecidableEq

/-- The directories entered and not left, the innermost first. -/
structure DirectoryStack where
  entered : List EnteredDirectory
deriving Repr, DecidableEq, Inhabited

namespace DirectoryStack

def root : DirectoryStack := ⟨[]⟩

/-- The innermost directory. -/
def directory? (s : DirectoryStack) : Option Path := s.entered.head?.map (·.path)

/-- The stack before the innermost directory was entered; nothing is outside the root. -/
def pop (s : DirectoryStack) : DirectoryStack := ⟨s.entered.drop 1⟩

/-- The stack with one more directory; a relative one lies in the innermost directory. -/
def push (s : DirectoryStack) (stamp : Nat) (dir : Path) : DirectoryStack :=
  let path :=
    match s.directory? with
    | some base => base.join dir
    | none => dir
  ⟨⟨path, stamp⟩ :: s.entered⟩

/-- The stack after the given directories were entered in turn. -/
def pushAll (s : DirectoryStack) (dirs : List Path) : DirectoryStack :=
  dirs.foldl (fun s d => s.push s.entered.length d) s

def depth (s : DirectoryStack) : Nat := s.entered.length

/-- Whether two stacks come from the same entering, not only from entering the same directory. -/
def sameAs (s t : DirectoryStack) : Bool :=
  s.entered.head?.map (·.stamp) = t.entered.head?.map (·.stamp)

@[simp] theorem pop_root : root.pop = root := rfl

@[simp] theorem pop_push (s : DirectoryStack) (stamp : Nat) (dir : Path) :
    (s.push stamp dir).pop = s := rfl

@[simp] theorem depth_push (s : DirectoryStack) (stamp : Nat) (dir : Path) :
    (s.push stamp dir).depth = s.depth + 1 := rfl

end DirectoryStack

/-! ## 2. Events -/

inductive DirectoryEvent
  | enter (dir : Path)
  | leave
deriving Repr, DecidableEq

/-- The pattern of the lines that recursive builds print, with the usual kinds of quotes. -/
def defaultDirectoryPattern : String :=
  "(?:Entering|(?P<leave>Leaving)) directory [`'\u2018\"](?P<dir>[^\\n]+?)['\u2019\"][ \\t]*$"

/-- How changes of directory are recognized: a pattern, the number of its group for the directory,
and that of the group that marks leaving. -/
structure DirectoryPattern where
  pattern : Pattern
  dir : Nat
  leave : Option Nat
deriving Repr

/-- Why a text cannot serve to recognize changes of directory. -/
inductive DirectoryPatternError
  | badPattern (pattern : String) (fault : Pattern.Fault)
  | missingGroup
deriving Repr, DecidableEq

namespace DirectoryPattern

/-- A pattern must have a group `dir`, and may have a group `leave`. -/
def ofString (source : String) : Except DirectoryPatternError DirectoryPattern :=
  match Pattern.forLines source with
  | .error fault => .error (.badPattern source fault)
  | .ok p =>
    match p.groupNamed? "dir" with
    | none => .error .missingGroup
    | some dir => .ok ⟨p, dir, p.groupNamed? "leave"⟩

/-- The event of a match; a match in which neither group took part is none. -/
def event? (d : DirectoryPattern) (text : Array Char) (m : Pattern.Match) : Option DirectoryEvent :=
  if (d.leave.bind m.group).isSome then some .leave
  else (m.group d.dir).map fun s => .enter ⟨(text.extract s.start s.stop).toList⟩

/-- The events in a text that begins at offset `base`, each with the offset where its match
begins. -/
def scan (d : DirectoryPattern) (text : Text) (base : Nat) : List (Nat × DirectoryEvent) :=
  let input := text.toArray
  (d.pattern.allMatches input).filterMap fun m =>
    (d.event? input m).map fun e => (base + m.span.start, e)

end DirectoryPattern

/-! ## 3. Trails -/

/-- The last answer of a trail, good from `offset` up to the next event. -/
structure TrailMemo where
  offset : Nat
  stack : DirectoryStack
  nextEvent : Option Nat
deriving Repr, DecidableEq

/-- The stacks in effect along a log. -/
structure DirectoryTrail where
  /-- How changes are recognized; nothing is, without a pattern. -/
  pattern : Option DirectoryPattern
  /-- The stack before the first event. -/
  base : DirectoryStack := .root
  /-- The stack from each event's offset on, in ascending order of offsets. -/
  events : List (Nat × DirectoryStack) := []
  memo : Option TrailMemo := none
  /-- The stamp of the next entering. -/
  nextStamp : Nat := 0
deriving Repr

namespace DirectoryTrail

/-- A trail for the usual lines. -/
def new : DirectoryTrail :=
  ⟨(DirectoryPattern.ofString defaultDirectoryPattern).toOption, .root, [], none, 0⟩

/-- A trail for a pattern of one's own. -/
def ofPattern (source : String) : Except DirectoryPatternError DirectoryTrail :=
  match DirectoryPattern.ofString source with
  | .ok d => .ok { pattern := some d }
  | .error e => .error e

def isEnabled (t : DirectoryTrail) : Bool := t.pattern.isSome

def scan (t : DirectoryTrail) (text : Text) (base : Nat) : List (Nat × DirectoryEvent) :=
  match t.pattern with
  | none => []
  | some d => d.scan text base

def lastStack (t : DirectoryTrail) : DirectoryStack :=
  match t.events.getLast? with
  | some e => e.2
  | none => t.base

/-- Sets the stack from an offset on, in place of one that was set for the same offset. -/
def setEvent (offset : Nat) (s : DirectoryStack) :
    List (Nat × DirectoryStack) → List (Nat × DirectoryStack)
  | [] => [(offset, s)]
  | e :: es =>
    if offset < e.1 then (offset, s) :: e :: es
    else if offset = e.1 then (offset, s) :: es
    else e :: setEvent offset s es

/-- Records events after the stack `s`. -/
def record (t : DirectoryTrail) (s : DirectoryStack) :
    List (Nat × DirectoryEvent) → DirectoryTrail
  | [] => t
  | (offset, .enter dir) :: es =>
    let s := s.push t.nextStamp dir
    record { t with events := setEvent offset s t.events, nextStamp := t.nextStamp + 1 } s es
  | (offset, .leave) :: es =>
    let s := s.pop
    record { t with events := setEvent offset s t.events } s es

/-- Records further events, which come after all recorded ones.  The remembered answer is
forgotten if no event was known after it. -/
def apply (t : DirectoryTrail) (es : List (Nat × DirectoryEvent)) : DirectoryTrail :=
  if es.isEmpty then t
  else
    let t := t.record t.lastStack es
    if t.memo.any fun m => m.nextEvent.isNone then { t with memo := none } else t

/-- Records the events of a text that begins at offset `base`. -/
def process (t : DirectoryTrail) (text : Text) (base : Nat) : DirectoryTrail :=
  t.apply (t.scan text base)

/-- The stack after the events up to `offset`. -/
def stackAt (t : DirectoryTrail) (offset : Nat) : DirectoryStack :=
  match (t.events.filter (·.1 ≤ offset)).getLast? with
  | some e => e.2
  | none => t.base

def nextEventAfter (t : DirectoryTrail) (offset : Nat) : Option Nat :=
  (t.events.find? (offset < ·.1)).map (·.1)

/-- Whether the remembered answer is good for `offset`. -/
def TrailMemo.covers (m : TrailMemo) (offset : Nat) : Bool :=
  m.offset ≤ offset && m.nextEvent.all (offset < ·)

/-- The stack in effect at an offset, and the trail that remembers it. -/
def frameAt (t : DirectoryTrail) (offset : Nat) : DirectoryStack × DirectoryTrail :=
  match t.memo.filter (TrailMemo.covers · offset) with
  | some m => (m.stack, t)
  | none =>
    let s := t.stackAt offset
    (s, { t with memo := some ⟨offset, s, t.nextEventAfter offset⟩ })

/-- Drops the events at `offset` and later; the text there is to be read again. -/
def truncateFrom (t : DirectoryTrail) (offset : Nat) : DirectoryTrail :=
  let stale := t.memo.any fun m => offset ≤ m.offset || m.nextEvent.any (offset ≤ ·)
  { t with
    events := t.events.filter (·.1 < offset)
    memo := if stale then none else t.memo }

/-- Renumbers the events after `delta` characters were taken from the head of the log.  The stack
that those left behind is in effect from the start on. -/
def shiftBack (t : DirectoryTrail) (delta : Nat) : DirectoryTrail :=
  let gone := t.events.filter (·.1 < delta)
  { t with
    base := match gone.getLast? with
      | some e => e.2
      | none => t.base
    events := (t.events.filter (delta ≤ ·.1)).map fun e => (e.1 - delta, e.2)
    memo := none }

def eventCount (t : DirectoryTrail) : Nat := t.events.length

def clear (t : DirectoryTrail) : DirectoryTrail :=
  { t with base := .root, events := [], memo := none }

end DirectoryTrail

end BuildLog
