import BuildLog.Text.Basic

/-!
# Paths — file names as written and as components

A path keeps its text as written.  What it names is its list of components: separators repeat
without meaning, and a dot counts only where it leads a relative path.  Two paths are the same
when their components are.
-/

namespace BuildLog

/-- One step of a path. -/
inductive Component
  | root
  | current
  | parent
  | normal (name : Text)
deriving Repr, DecidableEq

structure Path where
  text : Text
deriving Repr, DecidableEq, Inhabited

namespace Path

/-! ## 1. Components -/

def ofString (s : String) : Path := ⟨s.toList⟩

def toString (p : Path) : String := String.ofList p.text

def isAbsolute (p : Path) : Bool := p.text.head? = some '/'

/-- The pieces of a text between slashes; there is one more than there are slashes. -/
def pieces : Text → List Text
  | [] => [[]]
  | c :: t =>
    match pieces t with
    | [] => []
    | p :: ps => if c = '/' then [] :: p :: ps else (c :: p) :: ps

/-- What a piece stands for inside a path: nothing, if it is empty or a dot. -/
def component? (piece : Text) : Option Component :=
  if piece = [] || piece = ['.'] then none
  else if piece = ['.', '.'] then some .parent
  else some (.normal piece)

def components (p : Path) : List Component :=
  let ps := pieces p.text
  if p.isAbsolute then .root :: ps.filterMap component?
  else if ps.head? = some ['.'] then .current :: ps.filterMap component?
  else ps.filterMap component?

/-- Whether two paths have the same components. -/
def same (p q : Path) : Bool := p.components = q.components

/-- The path of `q`, taken relative to `p` unless it is absolute. -/
def join (p q : Path) : Path :=
  if q.isAbsolute then q
  else if p.text = [] || p.text.getLast? = some '/' then ⟨p.text ++ q.text⟩
  else ⟨p.text ++ '/' :: q.text⟩

/-! ## 2. Normal form -/

/-- One step from the place that the components `acc`, last one first, lead to: dots stay, and a
step to the parent takes back a named one; the root is its own parent. -/
def step (acc : List Component) : Component → List Component
  | .current => acc
  | .root => [.root]
  | .normal name => .normal name :: acc
  | .parent =>
    match acc with
    | .normal _ :: acc => acc
    | .root :: acc => .root :: acc
    | acc => .parent :: acc

def fold (cs : List Component) : List Component := (cs.foldl step []).reverse

/-- The text of one component. -/
def componentText : Component → Text
  | .root => []
  | .current => ['.']
  | .parent => ['.', '.']
  | .normal name => name

def ofComponents (cs : List Component) : Path :=
  if cs = [.root] then ⟨['/']⟩ else ⟨['/'].intercalate (cs.map componentText)⟩

/-- The path with dots dropped and each step to a parent folded into the step before it; no disk
is consulted. -/
def normalize (p : Path) : Path := ofComponents (fold p.components)

example : (normalize (.ofString "/a/./b/../c")).toString = "/a/c" := by decide +kernel
example : (normalize (.ofString "/../x")).toString = "/x" := by decide +kernel
example : (normalize (.ofString "a/../../b")).toString = "../b" := by decide +kernel
example : ((ofString "x").join (.ofString "")).toString = "x/" := by decide +kernel

end Path

end BuildLog
