/-!
# Severity — how bad a message is
-/

namespace BuildLog

/-- From the least to the most severe. -/
inductive Severity
  | info
  | warning
  | error
deriving Repr, DecidableEq, Inhabited

namespace Severity

/-- Position in the order of severity. -/
def rank : Severity → Nat
  | .info => 0
  | .warning => 1
  | .error => 2

instance : LE Severity := ⟨fun a b => a.rank ≤ b.rank⟩

instance (a b : Severity) : Decidable (a ≤ b) := inferInstanceAs (Decidable (a.rank ≤ b.rank))

theorem rank_injective {a b : Severity} (h : a.rank = b.rank) : a = b := by
  cases a <;> cases b <;> simp_all [rank]

/-- The word that tools print for a severity. -/
def label : Severity → String
  | .info => "info"
  | .warning => "warning"
  | .error => "error"

/-- A severity by its exact word. -/
def ofLabel? : String → Option Severity
  | "info" => some .info
  | "warning" => some .warning
  | "error" => some .error
  | _ => none

@[simp] theorem ofLabel?_label (s : Severity) : ofLabel? s.label = some s := by
  cases s <;> rfl

/-- A severity by its word or its rank, in capital or small letters; an unknown word is given
back in small letters. -/
def parse (text : String) : Except String Severity :=
  let word := text.map Char.toLower
  match word with
  | "info" | "0" => .ok .info
  | "warning" | "1" => .ok .warning
  | "error" | "2" => .ok .error
  | _ => .error word

/-- What is said about a word that names no severity. -/
def unknownMessage (word : String) : String := "unknown severity '" ++ word ++ "'"

end Severity

/-- Totals of messages by severity. -/
structure SeverityCounts where
  errors : Nat := 0
  warnings : Nat := 0
  infos : Nat := 0
deriving Repr, DecidableEq

namespace SeverityCounts

/-- Counts one more message of severity `s`. -/
def add (n : SeverityCounts) : Severity → SeverityCounts
  | .error => { n with errors := n.errors + 1 }
  | .warning => { n with warnings := n.warnings + 1 }
  | .info => { n with infos := n.infos + 1 }

def total (n : SeverityCounts) : Nat := n.errors + n.warnings + n.infos

def ofList (ss : List Severity) : SeverityCounts := ss.foldl add {}

@[simp] theorem total_add (n : SeverityCounts) (s : Severity) : (n.add s).total = n.total + 1 := by
  cases s <;> simp [add, total] <;> omega

end SeverityCounts

end BuildLog
