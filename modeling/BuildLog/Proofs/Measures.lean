import BuildLog.Pattern.Basic
import BuildLog.Proofs.Matches

/-!
# Measures — what is still to come from each instruction on

A measure gives a number to what a thread has still to do: a fixed one at the end of the program,
and another one than that behind it to each instruction that takes a character or notes a mark.
From a bound for what follows an expression, one for the expression together with it is computed.
The program of the expression keeps to it: each instruction gets a number, and none goes on at one
whose number is too large.
-/

namespace BuildLog.Pattern

/-! ## 1. Bounds of an expression -/

/-- What a character and a mark make of the number for what follows them; none if that must not be
so large. -/
structure Measure where
  /-- The number at the end of a program. -/
  final : Nat
  take : CharSet → Nat → Option Nat
  mark : Nat → Nat → Option Nat
  take_mono : ∀ {set m n k}, m ≤ n → take set n = some k → ∃ j ≤ k, take set m = some j
  mark_mono : ∀ {slot m n k}, m ≤ n → mark slot n = some k → ∃ j ≤ k, mark slot m = some j

/-- A bound for `count` copies, one before the other, from that for one. -/
def copiesBound (bound : Nat → Option Nat) : (count n : Nat) → Option Nat
  | 0, n => some n
  | count + 1, n => (bound n).bind (copiesBound bound count)

/-- A bound for up to `count` copies before `stop`. -/
def optionalBound (bound : Nat → Option Nat) (stop : Nat) : (count n : Nat) → Option Nat
  | 0, n => some n
  | count + 1, n => (bound n).bind fun k => optionalBound bound stop count (max k stop)

/-- A bound for any number of copies: that for one or none, if another copy does not exceed it. -/
def loopBound (bound : Nat → Option Nat) (n : Nat) : Option Nat :=
  (bound n).bind fun k =>
    (bound (max k n)).bind fun j => if j ≤ max k n then some (max k n) else none

/-- A bound for an expression together with what follows it, from one for what follows it. -/
def Expr.bound (μ : Measure) : Expr → (n : Nat) → Option Nat
  | .empty, n | .look _, n => some n
  | .one set, n => μ.take set n
  | .group i _ e, n => ((μ.mark (2 * i + 1) n).bind (e.bound μ)).bind (μ.mark (2 * i))
  | .cat a b, n => (b.bound μ n).bind (a.bound μ)
  | .alt a b, n => (a.bound μ n).bind fun i => (b.bound μ n).map (max i)
  | .times e low (some high) _, n =>
    (optionalBound (e.bound μ) n (high - low) n).bind (copiesBound (e.bound μ) low)
  | .times e low none _, n => (loopBound (e.bound μ) n).bind (copiesBound (e.bound μ) (low - 1))

/-! ## 2. Numbers for the instructions of a program -/

/-- The instructions that one goes on at. -/
def Instr.targets : Instr → List Nat
  | .take _ next | .check _ next | .mark _ next => [next]
  | .fork first second => [first, second]
  | .accept => []

variable {μ : Measure}

/-- An instruction may have the number `n`, if others have those that `v` says. -/
def Instr.Bounded (μ : Measure) (v : Nat → Nat) (n : Nat) : Instr → Prop
  | .take set next => ∃ k ≤ n, μ.take set (v next) = some k
  | .check _ next => v next ≤ n
  | .mark slot next => ∃ k ≤ n, μ.mark slot (v next) = some k
  | .fork first second => v first ≤ n ∧ v second ≤ n
  | .accept => μ.final ≤ n

theorem Instr.Bounded.congr {v w : Nat → Nat} {n : Nat} {instr : Instr}
    (h : instr.Bounded μ v n) (hw : ∀ i ∈ instr.targets, w i = v i) : instr.Bounded μ w n := by
  cases instr with
  | take _ next | check _ next | mark _ next =>
    rw [Bounded, hw next List.mem_cons_self]
    exact h
  | fork first second =>
    rw [Bounded, hw first List.mem_cons_self, hw second (List.mem_cons_of_mem _ List.mem_cons_self)]
    exact h
  | accept => exact h

theorem bounded_choose {v : Nat → Nat} {n again stop : Nat} (greedy : Bool) (ha : v again ≤ n)
    (hs : v stop ≤ n) : (choose greedy again stop).Bounded μ v n := by
  cases greedy with
  | true => exact ⟨ha, hs⟩
  | false => exact ⟨hs, ha⟩

theorem targets_choose {greedy : Bool} {again stop i : Nat}
    (h : i ∈ (choose greedy again stop).targets) : i = again ∨ i = stop := by
  cases greedy with
  | true => exact List.mem_pair.mp h
  | false => exact (List.mem_pair.mp h).symm

/-- Code that was added to, and the numbers of its instructions. -/
structure Extends (μ : Measure) (code code' : Array Instr) (v v' : Nat → Nat) : Prop where
  size_le : code.size ≤ code'.size
  instrs : ∀ i < code.size, code'[i]? = code[i]?
  numbers : ∀ i < code.size, v' i = v i
  new : ∀ i instr, code.size ≤ i → code'[i]? = some instr →
    instr.Bounded μ v' (v' i) ∧ ∀ j ∈ instr.targets, j < code'.size

namespace Extends

variable {c₀ c₁ c₂ : Array Instr} {v₀ v₁ v₂ : Nat → Nat}

theorem refl (code : Array Instr) (v : Nat → Nat) : Extends μ code code v v := by
  refine ⟨Nat.le_refl _, fun _ _ => rfl, fun _ _ => rfl, fun i instr hi h => ?_⟩
  rw [Array.getElem?_eq_none hi] at h
  cases h

theorem trans (h : Extends μ c₀ c₁ v₀ v₁) (h' : Extends μ c₁ c₂ v₁ v₂) :
    Extends μ c₀ c₂ v₀ v₂ := by
  refine ⟨Nat.le_trans h.size_le h'.size_le, fun i hi => ?_, fun i hi => ?_, fun i instr hi hc => ?_⟩
  · rw [h'.instrs i (Nat.lt_of_lt_of_le hi h.size_le), h.instrs i hi]
  · rw [h'.numbers i (Nat.lt_of_lt_of_le hi h.size_le), h.numbers i hi]
  · by_cases hlt : i < c₁.size
    · -- what came first goes on within itself
      rw [h'.instrs i hlt] at hc
      obtain ⟨hb, ht⟩ := h.new i instr hi hc
      rw [h'.numbers i hlt]
      exact ⟨hb.congr fun j hj => h'.numbers j (ht j hj),
        fun j hj => Nat.lt_of_lt_of_le (ht j hj) h'.size_le⟩
    · exact h'.new i instr (Nat.le_of_not_lt hlt) hc

end Extends

/-- The numbers with another one for the instruction at `i`. -/
def assign (v : Nat → Nat) (i n : Nat) : Nat → Nat := fun j => if j = i then n else v j

@[simp] theorem assign_self (v : Nat → Nat) (i n : Nat) : assign v i n i = n := if_pos rfl

theorem assign_of_lt {v : Nat → Nat} {i j n : Nat} (h : j < i) : assign v i n j = v j :=
  if_neg (Nat.ne_of_lt h)

/-- An instruction is added that goes on at earlier ones. -/
theorem Instr.Bounded.push {c : Array Instr} {v : Nat → Nat} {n : Nat} {instr : Instr}
    (hb : instr.Bounded μ v n) (ht : ∀ j ∈ instr.targets, j < c.size) :
    Extends μ c (c.push instr) v (assign v c.size n) := by
  refine ⟨?_, fun i hi => ?_, fun i hi => assign_of_lt hi, fun i instr' hi h => ?_⟩
  · rw [Array.size_push]
    exact Nat.le_succ _
  · rw [Array.getElem?_push, if_neg (Nat.ne_of_lt hi)]
  · have hlt : i < c.size + 1 := by
      have hlt := (Array.getElem?_eq_some_iff.mp h).1
      rwa [Array.size_push] at hlt
    obtain rfl : i = c.size := Nat.le_antisymm (Nat.le_of_lt_succ hlt) hi
    rw [Array.getElem?_push, if_pos rfl] at h
    cases h
    rw [assign_self, Array.size_push]
    exact ⟨hb.congr fun j hj => assign_of_lt (ht j hj), fun j hj => Nat.lt_succ_of_lt (ht j hj)⟩

/-! ## 3. The code of an expression -/

/-- Emitting code before an instruction with a number of at most `n` leads to one with a number of
at most what the bound says. -/
def Emits (μ : Measure) (emit : Nat → Array Instr → Nat × Array Instr)
    (bound : Nat → Option Nat) : Prop :=
  ∀ {code : Array Instr} {v : Nat → Nat} {next n m : Nat}, next < code.size → v next ≤ n →
    bound n = some m → ∃ v', Extends μ code (emit next code).2 v v'
      ∧ (emit next code).1 < (emit next code).2.size ∧ v' (emit next code).1 ≤ m

section

variable {emit : Nat → Array Instr → Nat × Array Instr} {bound : Nat → Option Nat}

theorem Emits.copies (h : Emits μ emit bound) (count : Nat) :
    Emits μ (emitCopies emit count) (copiesBound bound count) := by
  induction count with
  | zero =>
    intro code v next n m hnext hv hm
    cases hm
    exact ⟨v, .refl code v, hnext, hv⟩
  | succ count ih =>
    intro code v next n m hnext hv hm
    obtain ⟨k, hk, hm⟩ := Option.bind_eq_some_iff.mp hm
    obtain ⟨v', hext, hentry, hle⟩ := h hnext hv hk
    obtain ⟨v'', hext', hentry', hle'⟩ := ih hentry hle hm
    exact ⟨v'', hext.trans hext', hentry', hle'⟩

/-- Each of the copies may be the last. -/
theorem Emits.optional (h : Emits μ emit bound) (greedy : Bool) (count : Nat) {code : Array Instr}
    {v : Nat → Nat} {stop next s n m : Nat} (hstop : stop < code.size) (hs : v stop ≤ s)
    (hnext : next < code.size) (hv : v next ≤ n) (hm : optionalBound bound s count n = some m) :
    ∃ v', Extends μ code (emitOptional emit greedy stop count next code).2 v v'
      ∧ (emitOptional emit greedy stop count next code).1
        < (emitOptional emit greedy stop count next code).2.size
      ∧ v' (emitOptional emit greedy stop count next code).1 ≤ m := by
  induction count generalizing code v next n with
  | zero =>
    cases hm
    exact ⟨v, .refl code v, hnext, hv⟩
  | succ count ih =>
    obtain ⟨k, hk, hm⟩ := Option.bind_eq_some_iff.mp hm
    obtain ⟨v', hext, hentry, hle⟩ := h hnext hv hk
    have hstop' : stop < (emit next code).2.size := Nat.lt_of_lt_of_le hstop hext.size_le
    have hs' : v' stop ≤ s := by
      rw [hext.numbers stop hstop]
      exact hs
    -- the fork that follows a copy stops there or goes on
    have hfork : (choose greedy (emit next code).1 stop).Bounded μ v' (max k s) :=
      bounded_choose greedy (Nat.le_trans hle (Nat.le_max_left k s))
        (Nat.le_trans hs' (Nat.le_max_right k s))
    have hpush := hfork.push fun j hj =>
      (targets_choose hj).elim (fun h => h ▸ hentry) fun h => h ▸ hstop'
    have hgrown : (emit next code).2.size
        < ((emit next code).2.push (choose greedy (emit next code).1 stop)).size := by
      rw [Array.size_push]
      exact Nat.lt_succ_self _
    have hs'' : assign v' (emit next code).2.size (max k s) stop ≤ s := by
      rw [assign_of_lt hstop']
      exact hs'
    obtain ⟨w, hext', hentry', hle'⟩ := ih (Nat.lt_trans hstop' hgrown) hs'' hgrown
      (Nat.le_of_eq (assign_self v' _ _)) hm
    exact ⟨w, (hext.trans hpush).trans hext', hentry', hle'⟩

/-- A loop of one or more copies. -/
theorem Emits.loop (h : Emits μ emit bound) (greedy : Bool) {code : Array Instr} {v : Nat → Nat}
    {next n m : Nat} (hnext : next < code.size) (hv : v next ≤ n)
    (hm : loopBound bound n = some m) :
    let r := emitLoop emit greedy next code
    ∃ v', Extends μ code r.2.2 v v' ∧ r.1 < r.2.2.size ∧ r.2.1 < r.2.2.size
      ∧ v' r.1 ≤ m ∧ v' r.2.1 ≤ m ∧ v' next ≤ m := by
  intro r
  obtain ⟨k, hk, hm⟩ := Option.bind_eq_some_iff.mp hm
  obtain ⟨j, hj, hm⟩ := Option.bind_eq_some_iff.mp hm
  split at hm
  · rename_i hle
    cases hm
    -- the place of the fork is kept, with the number that it is to have
    have hsize : (code.push Instr.accept).size = code.size + 1 := Array.size_push _
    have hplace : code.size < (code.push Instr.accept).size := by omega
    obtain ⟨w, hext, hentry, hbody⟩ := h (v := assign v code.size (max k n)) hplace
      (Nat.le_of_eq (assign_self v _ _)) hj
    have hlt : code.size < (emit code.size (code.push .accept)).2.size := by
      have := hext.size_le
      omega
    have hold : ∀ i < code.size, w i = v i := by
      intro i hi
      rw [hext.numbers i (by omega), assign_of_lt hi]
    have hfork : w code.size = max k n := by
      rw [hext.numbers code.size hplace, assign_self]
    have hstay : w next ≤ max k n := by
      rw [hold next hnext]
      exact Nat.le_trans hv (Nat.le_max_right k n)
    have hsize' : r.2.2.size = (emit code.size (code.push .accept)).2.size :=
      Array.size_setIfInBounds
    refine ⟨w, ⟨by omega, fun i hi => ?_, hold, fun i instr hi hc => ?_⟩, hsize' ▸ hentry,
      hsize' ▸ hlt, Nat.le_trans hbody hle, Nat.le_of_eq hfork, hstay⟩
    · show (Array.setIfInBounds _ _ _)[i]? = _
      rw [Array.getElem?_setIfInBounds_ne (by omega), hext.instrs i (by omega),
        Array.getElem?_push, if_neg (Nat.ne_of_lt hi)]
    · change (Array.setIfInBounds _ _ _)[i]? = _ at hc
      rw [hsize']
      by_cases hi' : i = code.size
      · rw [hi', Array.getElem?_setIfInBounds_self_of_lt hlt] at hc
        cases hc
        rw [hi', hfork]
        refine ⟨bounded_choose greedy (Nat.le_trans hbody hle) hstay, fun t ht => ?_⟩
        rcases targets_choose ht with rfl | rfl
        · exact hentry
        · omega
      · rw [Array.getElem?_setIfInBounds_ne (fun h => hi' h.symm)] at hc
        exact hext.new i instr (by omega) hc
  · cases hm

end

theorem emits_push {c : Array Instr} {v : Nat → Nat} {n : Nat} {a : Instr} (hb : a.Bounded μ v n)
    (ht : ∀ j ∈ a.targets, j < c.size) :
    ∃ v', Extends μ c (c.push a) v v' ∧ c.size < (c.push a).size ∧ v' c.size ≤ n := by
  refine ⟨_, hb.push ht, ?_, Nat.le_of_eq (assign_self v _ n)⟩
  rw [Array.size_push]
  exact Nat.lt_succ_self _

/-- A mark is added before an instruction. -/
theorem emits_mark {c : Array Instr} {v : Nat → Nat} {next n k slot : Nat} (hnext : next < c.size)
    (hv : v next ≤ n) (hk : μ.mark slot n = some k) :
    ∃ v', Extends μ c (c.push (.mark slot next)) v v' ∧ c.size < (c.push (.mark slot next)).size
      ∧ v' c.size ≤ k :=
  emits_push (a := .mark slot next) (μ.mark_mono hv hk) fun _ hj => List.mem_singleton.mp hj ▸ hnext

/-- The program of an expression keeps to its bound. -/
theorem Expr.emits (μ : Measure) (e : Expr) : Emits μ e.emit (e.bound μ) := by
  induction e with
  | empty =>
    intro code v next n m hnext hv hm
    cases hm
    exact ⟨v, .refl code v, hnext, hv⟩
  | one set =>
    intro code v next n m hnext hv hm
    exact emits_push (a := .take set next) (μ.take_mono hv hm)
      fun j hj => List.mem_singleton.mp hj ▸ hnext
  | look cond =>
    intro code v next n m hnext hv hm
    cases hm
    exact emits_push (a := .check cond next) hv fun j hj => List.mem_singleton.mp hj ▸ hnext
  | group i name e ih =>
    intro code v next n m hnext hv hm
    obtain ⟨k, hk, hm⟩ := Option.bind_eq_some_iff.mp hm
    obtain ⟨j, hj, hk⟩ := Option.bind_eq_some_iff.mp hk
    obtain ⟨v₁, hext₁, hlt₁, hle₁⟩ := emits_mark hnext hv hj
    obtain ⟨v₂, hext₂, hlt₂, hle₂⟩ := ih hlt₁ hle₁ hk
    obtain ⟨v₃, hext₃, hlt₃, hle₃⟩ := emits_mark hlt₂ hle₂ hm
    exact ⟨v₃, (hext₁.trans hext₂).trans hext₃, hlt₃, hle₃⟩
  | cat a b iha ihb =>
    intro code v next n m hnext hv hm
    obtain ⟨k, hk, hm⟩ := Option.bind_eq_some_iff.mp hm
    obtain ⟨v₁, hext₁, hlt₁, hle₁⟩ := ihb hnext hv hk
    obtain ⟨v₂, hext₂, hlt₂, hle₂⟩ := iha hlt₁ hle₁ hm
    exact ⟨v₂, hext₁.trans hext₂, hlt₂, hle₂⟩
  | alt a b iha ihb =>
    intro code v next n m hnext hv hm
    obtain ⟨i, hi, hm⟩ := Option.bind_eq_some_iff.mp hm
    obtain ⟨j, hj, rfl⟩ := Option.map_eq_some_iff.mp hm
    obtain ⟨v₁, hext₁, hlt₁, hle₁⟩ := ihb hnext hv hj
    have hnext' := Nat.lt_of_lt_of_le hnext hext₁.size_le
    obtain ⟨v₂, hext₂, hlt₂, hle₂⟩ := iha hnext' (hext₁.numbers next hnext ▸ hv) hi
    have hlt₁' := Nat.lt_of_lt_of_le hlt₁ hext₂.size_le
    have hle₁' := hext₂.numbers _ hlt₁ ▸ hle₁
    obtain ⟨v₃, hext₃, hlt₃, hle₃⟩ := emits_push (a := .fork _ _)
      ⟨Nat.le_trans hle₂ (Nat.le_max_left i j), Nat.le_trans hle₁' (Nat.le_max_right i j)⟩
      fun t ht => (List.mem_pair.mp ht).elim (fun h => h ▸ hlt₂) fun h => h ▸ hlt₁'
    exact ⟨v₃, (hext₁.trans hext₂).trans hext₃, hlt₃, hle₃⟩
  | times e low high greedy ih =>
    intro code v next n m hnext hv hm
    cases high with
    | some high =>
      obtain ⟨k, hk, hm⟩ := Option.bind_eq_some_iff.mp hm
      obtain ⟨v₁, hext₁, hlt₁, hle₁⟩ := ih.optional greedy (high - low) hnext hv hnext hv hk
      obtain ⟨v₂, hext₂, hlt₂, hle₂⟩ := ih.copies low hlt₁ hle₁ hm
      exact ⟨v₂, hext₁.trans hext₂, hlt₂, hle₂⟩
    | none =>
      obtain ⟨k, hk, hm⟩ := Option.bind_eq_some_iff.mp hm
      obtain ⟨v₁, hext₁, hentry, hloop, hle, hle', hnextle⟩ := ih.loop greedy hnext hv hk
      have hnext' := Nat.lt_of_lt_of_le hnext hext₁.size_le
      cases low with
      | zero =>
        cases hm
        unfold Expr.emit
        dsimp only
        split
        · exact ⟨v₁, hext₁, hloop, hle'⟩
        · obtain ⟨v₂, hext₂, hlt₂, hle₂⟩ := emits_push (bounded_choose greedy hle hnextle)
            fun j hj => (targets_choose hj).elim (fun h => h ▸ hentry) fun h => h ▸ hnext'
          exact ⟨v₂, hext₁.trans hext₂, hlt₂, hle₂⟩
      | succ low =>
        obtain ⟨v₂, hext₂, hlt₂, hle₂⟩ := ih.copies low hentry hle hm
        exact ⟨v₂, hext₁.trans hext₂, hlt₂, hle₂⟩

/-- The instructions of the program of an expression have numbers that fit together, and that of
the first one does not exceed the bound. -/
theorem Expr.bounded_program {e : Expr} {n : Nat} (h : e.bound μ μ.final = some n) :
    ∃ v : Nat → Nat, v e.program.entry ≤ n
      ∧ ∀ (i : Nat) (instr : Instr), e.program.code[i]? = some instr → instr.Bounded μ v (v i) := by
  have hentry : 0 < #[Instr.accept].size := Nat.succ_pos 0
  obtain ⟨v, hext, -, hle⟩ := e.emits μ (v := fun _ => μ.final) hentry (Nat.le_refl μ.final) h
  refine ⟨v, hle, fun i instr hi => ?_⟩
  change (e.emit 0 #[.accept]).2[i]? = some instr at hi
  cases i with
  | zero =>
    rw [hext.instrs 0 hentry] at hi
    cases hi
    exact Nat.le_of_eq (hext.numbers 0 hentry).symm
  | succ i => exact (hext.new (i + 1) instr (Nat.succ_le_succ (Nat.zero_le i)) hi).1

/-! ## 4. Searches -/

section

variable {v : Nat → Nat} {text : Array Char}

/-- What a thread can become, with numbers that fit together: the place and the marks change as the
instruction says, and the number behind it is one that the thread's own allows. -/
inductive Thread.Becomes (μ : Measure) (v : Nat → Nat) (text : Array Char) (t : Thread) :
    Thread → Prop
  | take {set : CharSet} {c : Char} {next k : Nat} : text[t.pos]? = some c → set.contains c →
    μ.take set (v next) = some k → k ≤ v t.pc → t.Becomes μ v text ⟨next, t.pos + 1, t.marks⟩
  | mark {slot next k : Nat} : μ.mark slot (v next) = some k → k ≤ v t.pc →
    t.Becomes μ v text ⟨next, t.pos, (slot, t.pos) :: t.marks⟩
  | stay {next : Nat} : v next ≤ v t.pc → t.Becomes μ v text ⟨next, t.pos, t.marks⟩

theorem Instr.Bounded.becomes {t : Thread} {instr : Instr} (hb : instr.Bounded μ v (v t.pc)) :
    ∀ u ∈ t.successors text instr, t.Becomes μ v text u := by
  intro u hu
  cases instr with
  | accept => simp [Thread.successors] at hu
  | take set next =>
    obtain ⟨k, hk, htake⟩ := hb
    rw [Thread.successors] at hu
    split at hu
    · rename_i c hc
      split at hu
      · rename_i hset
        rw [List.mem_singleton] at hu
        exact hu ▸ .take hc hset htake hk
      · simp at hu
    · simp at hu
  | check cond next =>
    rw [Thread.successors] at hu
    split at hu
    · rw [List.mem_singleton] at hu
      exact hu ▸ .stay hb
    · simp at hu
  | mark slot next =>
    obtain ⟨k, hk, hmark⟩ := hb
    rw [Thread.successors, List.mem_singleton] at hu
    exact hu ▸ .mark hmark hk
  | fork first second =>
    rw [Thread.successors] at hu
    rcases List.mem_pair.mp hu with rfl | rfl
    · exact .stay hb.1
    · exact .stay hb.2

/-- A match of an expression comes from a thread that has what every thread keeps, and that can do
no more than end. -/
theorem Expr.exists_thread_of_find? {e : Expr} {n start : Nat} {m : Match}
    {P : (Nat → Nat) → Thread → Prop} (h : e.bound μ μ.final = some n)
    (hm : e.program.find? text start = some m)
    (hstart : ∀ v, v e.program.entry ≤ n → P v ⟨e.program.entry, m.span.start, []⟩)
    (hstep : ∀ v t u, P v t → t.Becomes μ v text u → P v u) :
    ∃ v t, P v t ∧ μ.final ≤ v t.pc ∧ m.span.stop = t.pos ∧ m.marks = t.marks := by
  obtain ⟨v, hentry, hcode⟩ := bounded_program h
  obtain ⟨-, seen, t, hrun, hstop, hmarks⟩ := exists_run_of_searchFrom hm
  refine ⟨v, t, run_of_successors (fun u instr hu hi w hw => ?_) (fun u hu => ?_) hrun,
    hcode t.pc .accept (accept_of_run hrun), hstop, hmarks⟩
  · exact hstep v u w hu ((hcode u.pc instr hi).becomes w hw)
  · rw [List.mem_singleton] at hu
    exact hu ▸ hstart v hentry

end

end BuildLog.Pattern
