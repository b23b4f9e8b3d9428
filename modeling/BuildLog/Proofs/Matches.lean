import BuildLog.Rule.Basic
import Mathlib.Data.List.Basic

/-!
# Matches — where the matches of a pattern lie

A thread of a search notes only places between the one it began at and the one it is at, so a
match lies in its text, its groups lie in the match, and successive matches do not overlap.  The
last section gives the matches as a reader of the log sees them: the places and texts of their
groups, counted from the start of the log.
-/

namespace BuildLog.Pattern

variable {code : Array Instr} {text : Array Char} {prog : Program}

/-! ## 1. Threads -/

/-- A thread that began at `start` is in the text, and so are the marks it noted. -/
structure Thread.Within (text : Array Char) (start : Nat) (t : Thread) : Prop where
  start_le : start ≤ t.pos
  le_size : t.pos ≤ text.size
  marks : ∀ m ∈ t.marks, start ≤ m.2 ∧ m.2 ≤ t.pos

theorem Thread.Within.successors {start : Nat} {t : Thread} (h : t.Within text start)
    (instr : Instr) : ∀ u ∈ t.successors text instr, u.Within text start := by
  intro u hu
  -- only `take` moves on, and only `mark` notes a place: the one the thread is at
  cases instr with
  | accept => simp [Thread.successors] at hu
  | take set next =>
    rw [Thread.successors] at hu
    split at hu
    · rename_i c hc
      split at hu
      · rw [List.mem_singleton] at hu
        subst hu
        have hlt : t.pos < text.size := (Array.getElem?_eq_some_iff.mp hc).1
        exact ⟨Nat.le_succ_of_le h.start_le, hlt, fun m hm =>
          ⟨(h.marks m hm).1, Nat.le_succ_of_le (h.marks m hm).2⟩⟩
      · simp at hu
    · simp at hu
  | check cond next =>
    rw [Thread.successors] at hu
    split at hu
    · rw [List.mem_singleton] at hu
      subst hu
      exact ⟨h.start_le, h.le_size, h.marks⟩
    · simp at hu
  | mark slot next =>
    rw [Thread.successors, List.mem_singleton] at hu
    subst hu
    refine ⟨h.start_le, h.le_size, fun m hm => ?_⟩
    rcases List.mem_cons.mp hm with rfl | hm
    · exact ⟨h.start_le, Nat.le_refl _⟩
    · exact h.marks m hm
  | fork first second =>
    rw [Thread.successors] at hu
    rcases List.mem_cons.mp hu with rfl | hu
    · exact ⟨h.start_le, h.le_size, h.marks⟩
    · rw [List.mem_singleton] at hu
      subst hu
      exact ⟨h.start_le, h.le_size, h.marks⟩

/-- What holds of the threads of a search and is kept by every instruction holds of the one that gets
to the end. -/
theorem run_of_successors {P : Thread → Prop} {fuel : Nat} {seen : Seen} {stack : List Thread}
    {t : Thread}
    (hP : ∀ u instr, P u → code[u.pc]? = some instr → ∀ v ∈ u.successors text instr, P v)
    (hstack : ∀ u ∈ stack, P u) (h : (run code text fuel seen stack).1 = some t) : P t := by
  induction fuel generalizing seen stack with
  | zero => simp [run] at h
  | succ fuel ih =>
    cases stack with
    | nil => simp [run] at h
    | cons u stack =>
      have hu := hstack u List.mem_cons_self
      have hrest : ∀ v ∈ stack, P v := fun v hv => hstack v (List.mem_cons_of_mem _ hv)
      rw [run] at h
      split at h
      · exact ih hrest h
      · split at h
        · exact ih hrest h
        · exact Option.some.inj h ▸ hu
        · -- the threads that take its place began where this one did
          rename_i instr _ hinstr
          refine ih (fun v hv => ?_) h
          rcases List.mem_append.mp hv with hv | hv
          · exact hP u instr hu hinstr v hv
          · exact hrest v hv

/-- A thread gets to the end at an instruction that accepts. -/
theorem accept_of_run {fuel : Nat} {seen : Seen} {stack : List Thread} {t : Thread}
    (h : (run code text fuel seen stack).1 = some t) : code[t.pc]? = some .accept := by
  induction fuel generalizing seen stack with
  | zero => simp [run] at h
  | succ fuel ih =>
    cases stack with
    | nil => simp [run] at h
    | cons u stack =>
      rw [run] at h
      split at h
      · exact ih h
      · split at h
        · exact ih h
        · rename_i haccept
          exact Option.some.inj h ▸ haccept
        · exact ih h

theorem run_within {start fuel : Nat} {seen : Seen} {stack : List Thread} {t : Thread}
    (hstack : ∀ u ∈ stack, u.Within text start)
    (h : (run code text fuel seen stack).1 = some t) : t.Within text start :=
  run_of_successors (fun _ instr hu _ => hu.successors instr) hstack h

/-! ## 2. Matches -/

/-- A match begins at `start` or later, lies in the text, and holds the marks it noted. -/
structure Match.Within (text : Array Char) (start : Nat) (m : Match) : Prop where
  start_le : start ≤ m.span.start
  start_le_stop : m.span.start ≤ m.span.stop
  stop_le : m.span.stop ≤ text.size
  marks : ∀ k ∈ m.marks, m.span.start ≤ k.2 ∧ k.2 ≤ m.span.stop

theorem Match.Within.mono {start start' : Nat} {m : Match} (h : m.Within text start)
    (hs : start' ≤ start) : m.Within text start' :=
  ⟨Nat.le_trans hs h.start_le, h.start_le_stop, h.stop_le, h.marks⟩

/-- A match is what a thread comes to that began where it starts and had noted nothing yet. -/
theorem exists_run_of_searchFrom {count start : Nat} {seen : Seen} {m : Match}
    (h : searchFrom prog text count start seen = some m) :
    (start ≤ m.span.start ∧ m.span.start < start + count)
      ∧ ∃ seen' t, (run prog.code text (enough prog.code text) seen'
        [⟨prog.entry, m.span.start, []⟩]).1 = some t ∧ m.span.stop = t.pos ∧ m.marks = t.marks := by
  induction count generalizing start seen with
  | zero => simp [searchFrom] at h
  | succ count ih =>
    rw [searchFrom] at h
    split at h
    · rename_i t _ hrun
      cases h
      exact ⟨⟨Nat.le_refl _, Nat.lt_add_of_pos_right (Nat.succ_pos count)⟩, seen, t, by rw [hrun],
        rfl, rfl⟩
    · obtain ⟨⟨hle, hlt⟩, hrun⟩ := ih h
      exact ⟨⟨Nat.le_of_succ_le hle, by omega⟩, hrun⟩

theorem searchFrom_within {count start : Nat} {seen : Seen} {m : Match}
    (hc : start + count ≤ text.size + 1) (h : searchFrom prog text count start seen = some m) :
    m.Within text start := by
  obtain ⟨⟨hle, hlt⟩, seen', t, hrun, hstop, hmarks⟩ := exists_run_of_searchFrom h
  have ht : t.Within text m.span.start := by
    refine run_within (fun u hu => ?_) hrun
    rw [List.mem_singleton] at hu
    subst hu
    exact ⟨Nat.le_refl _, by show m.span.start ≤ text.size; omega, by simp⟩
  refine ⟨hle, ?_, ?_, ?_⟩
  · rw [hstop]
    exact ht.start_le
  · rw [hstop]
    exact ht.le_size
  · rw [hmarks, hstop]
    exact ht.marks

theorem find?_within {start : Nat} {m : Match} (hs : start ≤ text.size + 1)
    (h : prog.find? text start = some m) : m.Within text start :=
  searchFrom_within (by omega) h

theorem findNext?_within {last : Option Nat} {start : Nat} {m : Match} (hs : start ≤ text.size)
    (h : prog.findNext? text last start = some m) : m.Within text start := by
  rw [Program.findNext?] at h
  split at h
  · cases h
  · rename_i m' hm'
    split at h
    · exact (find?_within (by omega) h).mono (Nat.le_succ start)
    · rw [← Option.some.inj h]
      exact find?_within (by omega) hm'

theorem findAll_within {fuel : Nat} {last : Option Nat} {start : Nat} (hs : start ≤ text.size) :
    ∀ m ∈ prog.findAll text fuel last start, m.Within text start := by
  induction fuel generalizing last start with
  | zero => simp [Program.findAll]
  | succ fuel ih =>
    intro m hm
    rw [Program.findAll] at hm
    split at hm
    · simp at hm
    · rename_i m' hm'
      have hw := findNext?_within hs hm'
      rcases List.mem_cons.mp hm with rfl | hm
      · exact hw
      · exact (ih hw.stop_le m hm).mono (Nat.le_trans hw.start_le hw.start_le_stop)

/-- Each of the successive matches is one that a search finds. -/
theorem find?_of_mem_findAll {fuel : Nat} {last : Option Nat} {start : Nat} {m : Match}
    (hm : m ∈ prog.findAll text fuel last start) : ∃ start', prog.find? text start' = some m := by
  induction fuel generalizing last start with
  | zero => simp [Program.findAll] at hm
  | succ fuel ih =>
    rw [Program.findAll] at hm
    split at hm
    · simp at hm
    · rename_i m' hm'
      rcases List.mem_cons.mp hm with rfl | hm
      · rw [Program.findNext?] at hm'
        split at hm'
        · cases hm'
        · rename_i m' hfind
          split at hm'
          · exact ⟨start + 1, hm'⟩
          · exact ⟨start, hfind.trans hm'⟩
      · exact ih hm

theorem findAll_pairwise {fuel : Nat} {last : Option Nat} {start : Nat} (hs : start ≤ text.size) :
    (prog.findAll text fuel last start).Pairwise fun m n => m.span.stop ≤ n.span.start := by
  induction fuel generalizing last start with
  | zero => simp [Program.findAll]
  | succ fuel ih =>
    rw [Program.findAll]
    split
    · exact List.Pairwise.nil
    · rename_i m hm
      -- each further search begins where the match before it ends
      have hw := findNext?_within hs hm
      exact List.Pairwise.cons (fun n hn => (findAll_within hw.stop_le n hn).start_le)
        (ih hw.stop_le)

theorem Match.Within.group {start i : Nat} {m : Match} {s : Span} (h : m.Within text start)
    (hg : m.group i = some s) : m.span.start ≤ s.start ∧ s.stop ≤ m.span.stop := by
  rw [Match.group] at hg
  split at hg
  · rw [← Option.some.inj hg]
    exact ⟨Nat.le_refl _, Nat.le_refl _⟩
  · split at hg
    · rename_i a b ha hb
      have hmem : ∀ {k v}, m.marks.lookup k = some v → (k, v) ∈ m.marks := by
        intro k v hkv
        obtain ⟨l₁, l₂, hl, -⟩ := List.lookup_eq_some_iff.mp hkv
        rw [hl]
        simp
      rw [← Option.some.inj hg]
      exact ⟨(h.marks _ (hmem ha)).1, (h.marks _ (hmem hb)).2⟩
    · cases hg

end BuildLog.Pattern

namespace BuildLog

/-! ## 3. What a reader of the log sees -/

namespace Found

/-- The whole match. -/
def span (f : Found) : Span := (f.group 0).getD ⟨0, 0⟩

def start (f : Found) : Nat := f.span.start

/-- The same match in a text that begins `delta` characters further on. -/
def shift (f : Found) (delta : Nat) : Found :=
  ⟨fun i => (f.group i).map (·.shift delta), f.groupText⟩

@[simp] theorem groupText_shift (f : Found) (delta i : Nat) :
    (f.shift delta).groupText i = f.groupText i := rfl

@[simp] theorem group_shift (f : Found) (delta i : Nat) :
    (f.shift delta).group i = (f.group i).map (·.shift delta) := rfl

@[simp] theorem span_ofMatch (input : Array Char) (m : Pattern.Match) :
    (ofMatch input m).span = m.span := rfl

@[simp] theorem span_ofMatch_shift (input : Array Char) (m : Pattern.Match) (delta : Nat) :
    ((ofMatch input m).shift delta).span = m.span.shift delta := rfl

theorem shift_shift (f : Found) (a b : Nat) : (f.shift a).shift b = f.shift (a + b) := by
  simp only [shift, Option.map_map, Found.mk.injEq, and_true]
  funext i
  cases f.group i with
  | none => rfl
  | some s => simp [Span.shift, Nat.add_assoc]

/-- The match lies between two places of the log, and its groups lie in it. -/
structure Within (start stop : Nat) (f : Found) : Prop where
  start_le : start ≤ f.start
  start_le_stop : f.start ≤ f.span.stop
  stop_le : f.span.stop ≤ stop
  group : ∀ i s, f.group i = some s → f.start ≤ s.start ∧ s.stop ≤ f.span.stop

theorem Within.shift {start stop : Nat} {f : Found} {m : Pattern.Match} {input : Array Char}
    (h : m.Within input start) (hf : f = ofMatch input m) (delta : Nat)
    (hstop : stop = input.size + delta) : (f.shift delta).Within (start + delta) stop := by
  subst hf hstop
  refine ⟨Nat.add_le_add_right h.start_le delta, Nat.add_le_add_right h.start_le_stop delta,
    Nat.add_le_add_right h.stop_le delta, fun i s hs => ?_⟩
  rw [group_shift, Option.map_eq_some_iff] at hs
  obtain ⟨s', hs', rfl⟩ := hs
  have hg := h.group hs'
  exact ⟨Nat.add_le_add_right hg.1 delta, Nat.add_le_add_right hg.2 delta⟩

end Found

/-- The matches of a pattern in a text that begins at offset `base` of the log. -/
def Pattern.hits (p : Pattern) (t : Text) (base : Nat) : List Found :=
  (p.allMatches t.toArray).map fun m => (Found.ofMatch t.toArray m).shift base

namespace Pattern

theorem hits_shift (p : Pattern) (t : Text) (base delta : Nat) :
    p.hits t (base + delta) = (p.hits t base).map (·.shift delta) := by
  rw [hits, hits, List.map_map]
  congr 1
  funext m
  exact (Found.shift_shift _ base delta).symm

theorem within_of_mem_hits {p : Pattern} {t : Text} {base : Nat} {f : Found}
    (h : f ∈ p.hits t base) : f.Within base (base + t.length) := by
  obtain ⟨m, hm, rfl⟩ := List.mem_map.mp h
  have hw : m.Within t.toArray 0 := findAll_within (Nat.zero_le _) m hm
  have := Found.Within.shift hw rfl base (Nat.add_comm base t.toArray.size)
  rwa [Nat.zero_add, List.size_toArray] at this

theorem hits_pairwise (p : Pattern) (t : Text) (base : Nat) :
    (p.hits t base).Pairwise fun f g => f.span.stop ≤ g.start := by
  rw [hits, List.pairwise_map]
  refine (findAll_pairwise (Nat.zero_le _)).imp fun h => ?_
  exact Nat.add_le_add_right h base

end Pattern

end BuildLog
