import BuildLog.Rule.Basic

/-!
# Rule sets — rules in order of priority
-/

namespace BuildLog

/-- Rules in order: of two that match at the same place, the earlier one counts. -/
structure RuleSet where
  rules : List Rule
deriving Repr

namespace RuleSet

def empty : RuleSet := ⟨[]⟩

/-- Checks the rules in order: their roles, and that no name has been seen before. -/
def check (seen : List String) : List Rule → Except RuleError Unit
  | [] => .ok ()
  | r :: rs =>
    match r.validate with
    | .error e => .error e
    | .ok () =>
      if seen.contains r.name then .error (.duplicate r.name) else check (r.name :: seen) rs

/-- What a set of rules is called where a single rule would be named. -/
def setName : String := "<prefilter>"

/-- The set of some rules, if they are sound, their names differ, and one search can look for all
of them. -/
def ofRules (rs : List Rule) : Except RuleError RuleSet :=
  match check [] rs with
  | .ok () =>
    if Pattern.fitTogether (rs.map (·.pattern)) then .ok ⟨rs⟩
    else .error (.badPattern setName .tooLarge)
  | .error e => .error e

def lookup (s : RuleSet) (name : String) : Option Rule := s.rules.find? (·.name = name)

def size (s : RuleSet) : Nat := s.rules.length

def isEmpty (s : RuleSet) : Bool := s.rules.isEmpty

def names (s : RuleSet) : List String := s.rules.map (·.name)

/-- The rules with the given names, or the first name that there is no rule for. -/
def select (s : RuleSet) : List String → Except RuleError (List Rule)
  | [] => .ok []
  | n :: ns =>
    match s.lookup n with
    | none => .error (.unknown n)
    | some r =>
      match s.select ns with
      | .ok rs => .ok (r :: rs)
      | .error e => .error e

/-- The set of the named rules, in the order of the names. -/
def only (s : RuleSet) (names : List String) : Except RuleError RuleSet :=
  match s.select names with
  | .ok rs => ofRules rs
  | .error e => .error e

/-- The set with further rules, which come last. -/
def extended (s : RuleSet) (rs : List Rule) : Except RuleError RuleSet := ofRules (s.rules ++ rs)

/-- The most lines that a match of any rule may touch. -/
def maxLines (s : RuleSet) : Nat :=
  match s.rules with
  | [] => 1
  | r :: rs => rs.foldl (fun n r => max n r.lines) r.lines

end RuleSet

end BuildLog
