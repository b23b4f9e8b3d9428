import BuildLog.Pattern.Expr

/-!
# Programs — expressions as instructions with explicit successors

An expression becomes a table of instructions that name their successors by position.  A fork
prefers its first successor, so the order of choices and the greed of repetitions are kept.
-/

namespace BuildLog.Pattern

inductive Instr
  /-- Takes one character of the set. -/
  | take (set : CharSet) (next : Nat)
  /-- Goes on where the condition holds. -/
  | check (cond : Look) (next : Nat)
  /-- Notes the place as mark `slot`; group `i` begins at mark `2 * i` and ends at `2 * i + 1`. -/
  | mark (slot : Nat) (next : Nat)
  /-- Tries the first successor, then the second. -/
  | fork (first second : Nat)
  /-- The pattern has matched. -/
  | accept
deriving Repr, DecidableEq

/-- Instructions, and the position of the one to start with. -/
structure Program where
  code : Array Instr
  entry : Nat
deriving Repr

/-- A fork that prefers to repeat, or one that prefers to stop. -/
def choose (greedy : Bool) (again stop : Nat) : Instr :=
  if greedy then .fork again stop else .fork stop again

/-- Puts `n` bodies one after the other before `next`; `emit` writes one body. -/
def emitCopies (emit : Nat → Array Instr → Nat × Array Instr) :
    (n : Nat) → (next : Nat) → Array Instr → Nat × Array Instr
  | 0, next, code => (next, code)
  | n + 1, next, code =>
    let (entry, code) := emit next code
    emitCopies emit n entry code

/-- Puts up to `n` bodies before `next`, each of which may be the last. -/
def emitOptional (emit : Nat → Array Instr → Nat × Array Instr) (greedy : Bool) (stop : Nat) :
    (n : Nat) → (next : Nat) → Array Instr → Nat × Array Instr
  | 0, next, code => (next, code)
  | n + 1, next, code =>
    let (entry, code) := emit next code
    emitOptional emit greedy stop n code.size (code.push (choose greedy entry stop))

/-- Puts a loop of one or more bodies before `next`; answers the body's entry, the position of the
fork that repeats it, and the code. -/
def emitLoop (emit : Nat → Array Instr → Nat × Array Instr) (greedy : Bool) (next : Nat)
    (code : Array Instr) : Nat × Nat × Array Instr :=
  let loop := code.size
  let (entry, code) := emit loop (code.push .accept)
  (entry, loop, code.setIfInBounds loop (choose greedy entry next))

/-- Adds the instructions of an expression that go on at `next`; answers where they begin. -/
def Expr.emit : Expr → (next : Nat) → Array Instr → Nat × Array Instr
  | .empty, next, code => (next, code)
  | .one set, next, code => (code.size, code.push (.take set next))
  | .look cond, next, code => (code.size, code.push (.check cond next))
  | .group i _ e, next, code =>
    let (entry, code') := e.emit code.size (code.push (.mark (2 * i + 1) next))
    (code'.size, code'.push (.mark (2 * i) entry))
  | .cat a b, next, code =>
    let (middle, code) := b.emit next code
    a.emit middle code
  | .alt a b, next, code =>
    let (second, code) := b.emit next code
    let (first, code) := a.emit next code
    (code.size, code.push (.fork first second))
  | .times e low high greedy, next, code =>
    match high with
    | some high =>
      let (entry, code) := emitOptional e.emit greedy next (high - low) next code
      emitCopies e.emit low entry code
    | none =>
      let (entry, loop, code) := emitLoop e.emit greedy next code
      match low with
      | 0 =>
        if e.consumes then (loop, code)
        else (code.size, code.push (choose greedy entry next))
      | low + 1 => emitCopies e.emit low entry code

/-- The program of an expression. -/
def Expr.program (e : Expr) : Program :=
  let (entry, code) := e.emit 0 #[.accept]
  ⟨code, entry⟩

end BuildLog.Pattern
