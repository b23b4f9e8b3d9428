import BuildLog.Unicode.CharSet

/-!
# Pattern expressions — what a pattern's text means

A pattern matches characters of a set, conditions on the place between two characters, and
sequences, choices and repetitions of these.  Choices and repetitions are ordered: the first way
to match that works out is the one taken.
-/

namespace BuildLog

/-- A condition on the place between two characters of a text. -/
inductive Look
  | textStart
  | textEnd
  /-- Start of a line that a line feed ends. -/
  | lineStart
  /-- End of a line that a line feed ends. -/
  | lineEnd
  /-- Start of a line that LF, CR or CR LF ends. -/
  | anyLineStart
  /-- End of a line that LF, CR or CR LF ends. -/
  | anyLineEnd
  /-- A word character on one side only. -/
  | wordBoundary (ascii : Bool)
  /-- Word characters on both sides or on neither. -/
  | notWordBoundary (ascii : Bool)
  /-- A word character on the right only. -/
  | wordStart (ascii : Bool)
  /-- A word character on the left only. -/
  | wordEnd (ascii : Bool)
  /-- No word character on the left. -/
  | wordStartHalf (ascii : Bool)
  /-- No word character on the right. -/
  | wordEndHalf (ascii : Bool)
deriving Repr, DecidableEq

namespace Pattern

inductive Expr
  | empty
  /-- Matches one character of the set. -/
  | one (set : CharSet)
  /-- Matches the empty text where the condition holds. -/
  | look (cond : Look)
  /-- Matches what the body does, and notes where as group `index`. -/
  | group (index : Nat) (name : Option String) (body : Expr)
  | cat (first second : Expr)
  | alt (first second : Expr)
  /-- Matches the body from `low` to `high` times, as often as possible if `greedy`. -/
  | times (body : Expr) (low : Nat) (high : Option Nat) (greedy : Bool)
deriving Repr, DecidableEq

namespace Expr

/-- Whether every match has at least one character. -/
def consumes : Expr → Bool
  | .empty | .look _ => false
  | .one _ => true
  | .group _ _ e => e.consumes
  | .cat a b => b.consumes || a.consumes
  | .alt a b => a.consumes && b.consumes
  | .times e low _ _ => low > 0 && e.consumes

/-- Whether every match is empty. -/
def onlyEmpty : Expr → Bool
  | .empty | .look _ => true
  | .one _ => false
  | .group _ _ e => e.onlyEmpty
  | .cat a b => b.onlyEmpty && a.onlyEmpty
  | .alt a b => a.onlyEmpty && b.onlyEmpty
  | .times e _ high _ => high = some 0 || e.onlyEmpty

/-- A repetition in its simplest form: a body that matches nothing but the empty text need not
occur twice, one that occurs zero times is empty, and exactly once is the body itself. -/
def repeated (e : Expr) (low : Nat) (high : Option Nat) (greedy : Bool) : Expr :=
  let once := e.onlyEmpty
  let low := if once then min low 1 else low
  let high := if once then some (min (high.getD 1) 1) else high
  if high = some 0 then .empty
  else if low = 1 && high = some 1 then e
  else .times e low high greedy

/-! ## 1. Sequences -/

/-- The parts of a sequence before `rest`; what matches only the empty text without a condition is
none. -/
def partsBefore : Expr → (rest : List Expr) → List Expr
  | .empty, rest => rest
  | .cat a b, rest => a.partsBefore (b.partsBefore rest)
  | e, rest => e :: rest

/-- The parts that an expression is a sequence of. -/
def parts (e : Expr) : List Expr := e.partsBefore []

def sequence (es : List Expr) : Expr :=
  match es.flatMap parts with
  | [] => .empty
  | e :: es => es.foldl .cat e

/-! ## 2. Choices -/

/-- The branches of a choice before `rest`. -/
def branchesBefore : Expr → (rest : List Expr) → List Expr
  | .alt a b, rest => a.branchesBefore (b.branchesBefore rest)
  | e, rest => e :: rest

/-- The branches that an expression is a choice of. -/
def branches (e : Expr) : List Expr := e.branchesBefore []

/-- The one character that an expression matches, if it matches no other text. -/
def char? : Expr → Option Nat
  | .one ⟨[(lo, hi)]⟩ => if lo = hi then some lo else none
  | _ => none

def isChar (e : Expr) : Bool := e.char?.isSome

/-- The set of an expression that matches one of several characters, or none. -/
def class? : Expr → Option CharSet
  | .one s => if (Expr.one s).isChar then none else some s
  | _ => none

/-- A choice of characters, or of classes, is a class. -/
def joined? (es : List Expr) : Option Expr :=
  match es.mapM char? with
  | some cs => some (.one (.ofRanges (cs.map fun c => (c, c))))
  | none =>
    match es.mapM class? with
    | some ss => some (.one (.unions ss))
    | none => none

/-- The parts of a sequence, with the characters next to one another in one list. -/
def runs : List Expr → List (List Expr)
  | [] => []
  | e :: es =>
    match runs es with
    | (f :: fs) :: rs =>
      if e.isChar && f.isChar then (e :: f :: fs) :: rs else [e] :: (f :: fs) :: rs
    | rs => [e] :: rs

/-- What two lists begin with alike. -/
def commonStart {α : Type} [DecidableEq α] : List α → List α → List α
  | a :: as, b :: bs => if a = b then a :: commonStart as bs else []
  | _, _ => []

/-- What all branches begin with, if each is a sequence of several parts. -/
def sharedStart (branches : List (List (List Expr))) : List (List Expr) :=
  match branches with
  | [] => []
  | b :: bs =>
    if (b :: bs).all (1 < ·.length) then bs.foldl commonStart b else []

/-- The choice of some branches, none of which is a choice. -/
def alternatives (es : List Expr) : Expr :=
  match joined? es, es with
  | some e, _ => e
  | none, [] => .one .none
  | none, e :: es => es.foldl .alt e

/-- The choice of some expressions, in its simplest form: characters and classes make one class,
and what all branches begin with stands before the choice. -/
def choice (es : List Expr) : Expr :=
  match es.flatMap branches with
  | [e] => e
  | es =>
    let runs := es.map fun e => runs e.parts
    match sharedStart runs with
    | [] => alternatives es
    | start =>
      let rests := runs.map fun r => sequence (r.drop start.length).flatten
      sequence (start.flatten ++ [alternatives (rests.flatMap branches)])

/-! ## 3. Groups -/

/-- The groups of an expression before `rest`. -/
def groupsBefore : Expr → (rest : List (Nat × Option String)) → List (Nat × Option String)
  | .empty, rest | .one _, rest | .look _, rest => rest
  | .group i name e, rest => (i, name) :: e.groupsBefore rest
  | .cat a b, rest | .alt a b, rest => a.groupsBefore (b.groupsBefore rest)
  | .times e _ _ _, rest => e.groupsBefore rest

/-- The groups of an expression, in order. -/
def groups (e : Expr) : List (Nat × Option String) := e.groupsBefore []

end Expr

end Pattern

end BuildLog
