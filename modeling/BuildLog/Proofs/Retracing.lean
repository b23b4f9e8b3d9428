import BuildLog.Proofs.Hops

/-!
# Retracing — steps add up, and a step can be taken back

Two steps in one direction are one longer step: the file that a hop must leave is that of the message
it starts from, whether a step remembers it or finds it anew.  Where the file does not count, the hops
back from a message are the hops that led to it, taken in reverse.
-/

namespace BuildLog

/-! ## 1. The other direction -/

namespace Direction

def opposite : Direction → Direction
  | .forward => .backward
  | .backward => .forward

theorem opposite_beyond {d : Direction} {a b : Nat} :
    d.opposite.Beyond (some a) b ↔ d.Beyond (some b) a := by
  cases d <;> simp [opposite, Beyond]

/-- Of two offsets one lies beyond the other. -/
theorem beyond_or_beyond (d : Direction) {a b : Nat} (h : a ≠ b) :
    d.Beyond (some a) b ∨ d.Beyond (some b) a := by
  cases d <;> simp only [Beyond, Option.mem_some_iff, forall_eq'] <;> omega

theorem ofInt_congr {a b : Int} (h : 0 < a ↔ 0 < b) : ofInt a = ofInt b := by
  unfold ofInt
  simp only [h]

theorem ofInt_neg {n : Int} (hn : n ≠ 0) : ofInt (-n) = (ofInt n).opposite := by
  unfold ofInt
  by_cases h : 0 < n
  · rw [if_pos h, if_neg (by omega)]
    rfl
  · rw [if_neg h, if_pos (by omega)]
    rfl

end Direction

namespace Navigation

section

variable {cfg : NavigationSettings} {disk : Disk} {table : FileTable} {newFile : Bool}
  {d : Direction} {ms : List Message}

/-! ## 2. Hops after hops -/

theorem hops_zero_iff {position last : Option Nat} :
    Hops cfg disk table newFile d ms 0 position last ↔ position = last := by
  constructor
  · rintro ⟨⟩
    rfl
  · rintro rfl
    exact .none position

theorem hops_succ_iff {n : Nat} {position last : Option Nat} :
    Hops cfg disk table newFile d ms (n + 1) position last
      ↔ ∃ m, Hop cfg disk table newFile d ms position m
        ∧ Hops cfg disk table newFile d ms n (some m.start) last := by
  constructor
  · rintro ⟨⟩
    rename_i m first rest
    exact ⟨m, first, rest⟩
  · rintro ⟨m, first, rest⟩
    exact .hop first rest

/-- A walk is cut after any of its hops. -/
theorem hops_add_iff {k n : Nat} {position last : Option Nat} :
    Hops cfg disk table newFile d ms (k + n) position last
      ↔ ∃ middle, Hops cfg disk table newFile d ms k position middle
        ∧ Hops cfg disk table newFile d ms n middle last := by
  induction k generalizing position with
  | zero => simp [hops_zero_iff]
  | succ k ih =>
    rw [Nat.succ_add, hops_succ_iff]
    simp only [ih, hops_succ_iff]
    constructor
    · rintro ⟨m, first, middle, before, after⟩
      exact ⟨middle, ⟨m, first, before⟩, after⟩
    · rintro ⟨middle, ⟨m, first, before⟩, after⟩
      exact ⟨m, first, middle, before, after⟩

/-- Hops end where a message starts. -/
theorem exists_start_of_hops {n : Nat} (hn : n ≠ 0) {position last : Option Nat}
    (h : Hops cfg disk table newFile d ms n position last) : ∃ start, last = some start := by
  induction n generalizing position with
  | zero => exact absurd rfl hn
  | succ n ih =>
    obtain ⟨m, -, rest⟩ := hops_succ_iff.mp h
    by_cases hzero : n = 0
    · rw [hzero, hops_zero_iff] at rest
      exact ⟨m.start, rest.symm⟩
    · exact ih hzero rest

/-! ## 3. Hops back -/

section

variable (hms : ms.Pairwise (·.start < ·.start))
include hms

/-- From the message that a hop led to, the nearest one behind is the one it started from: nothing
that a step may end at lies between them. -/
theorem Hop.back {l m : Message} (hl : l ∈ ms) (hel : Eligible cfg table l)
    (h : Hop cfg disk table false d ms (some l.start) m) :
    Hop cfg disk table false d.opposite ms (some m.start) l := by
  have hlm : d.Beyond (some l.start) m.start := h.mayEnd.beyond
  refine ⟨⟨hl, hel, Direction.opposite_beyond.mpr hlm, nofun⟩, fun m' hm' => ?_⟩
  have hm'm : d.Beyond (some m'.start) m.start := Direction.opposite_beyond.mp hm'.beyond
  by_cases heq : m'.start = l.start
  · left
    exact Option.some.inj (((find?_start hms).mpr ⟨hm'.mem, heq⟩).symm.trans
      ((find?_start hms).mpr ⟨hl, rfl⟩))
  · right
    apply Direction.opposite_beyond.mpr
    apply (d.beyond_or_beyond heq).resolve_right
    -- else the hop would have ended at `m'`, which lies on the way to `m`
    intro hbetween
    rcases h.nearest m' ⟨hm'.mem, hm'.eligible, hbetween, nofun⟩ with rfl | hbeyond
    · exact hm'm.asymm hm'm
    · exact hm'm.asymm hbeyond

theorem Hops.back {n : Nat} {l : Message} {last : Option Nat} (hl : l ∈ ms)
    (hel : Eligible cfg table l)
    (h : Hops cfg disk table false d ms n (some l.start) last) :
    Hops cfg disk table false d.opposite ms n last (some l.start) := by
  induction n generalizing l with
  | zero => exact hops_zero_iff.mpr (hops_zero_iff.mp h).symm
  | succ n ih =>
    obtain ⟨m, first, rest⟩ := hops_succ_iff.mp h
    -- the hops after the first are taken back first
    have hrest := ih first.mayEnd.mem first.mayEnd.eligible rest
    exact hops_add_iff.mpr ⟨some m.start, hrest, .hop (first.back hms hl hel) (.none _)⟩

end

end

/-! ## 4. Steps -/

/-- A step works out just if there are the hops that it is asked for. -/
theorem step_eq_ok_iff (nav : Navigation) {n : Int} (hn : n ≠ 0) (newFile : Bool) (disk : Disk)
    {p : Parse} (hms : p.messages.Pairwise (·.start < ·.start)) (table : FileTable)
    {r : Nat × Navigation} : nav.step n newFile disk p table = .ok r
      ↔ Hops nav.settings disk table newFile (.ofInt n) p.messages n.natAbs nav.current (some r.1)
        ∧ r.2 = { nav with current := some r.1 } := by
  obtain ⟨start, nav'⟩ := r
  obtain ⟨-, hno, hresult⟩ | ⟨-, ⟨hno, hresult⟩ | ⟨start', hend, hresult⟩⟩ :
      _ ∨ _ ∧ (_ ∨ _) := step_cases nav hn newFile disk hms table
  · rw [hresult]
    exact iff_of_false nofun fun h => hno _ h.1
  · rw [hresult]
    exact iff_of_false nofun fun h => hno _ h.1
  · rw [hresult, hend, Except.ok.injEq, Prod.mk.injEq, Option.some.injEq, eq_comm (a := start')]
    apply and_congr_right
    rintro rfl
    exact eq_comm

/-- Two steps in one direction work out just if one step over as many messages does, and lead to the
same message.  If the current message is one that a step may end at, then a step to any file that
works out is taken back by the step over as many messages in the other direction. -/
theorem step_add_and_neg (nav : Navigation) (disk : Disk) {p : Parse}
    (hms : p.messages.Pairwise (·.start < ·.start)) (table : FileTable) :
    (∀ (newFile : Bool) (a b : Int), 0 < a ∧ 0 < b ∨ a < 0 ∧ b < 0 → ∀ r,
        (∃ first, nav.step a newFile disk p table = .ok first
            ∧ first.2.step b newFile disk p table = .ok r)
          ↔ nav.step (a + b) newFile disk p table = .ok r)
      ∧ ∀ m ∈ p.messages, nav.current = some m.start → Eligible nav.settings table m →
        ∀ n : Int, n ≠ 0 → ∀ first, nav.step n false disk p table = .ok first →
          first.2.step (-n) false disk p table = .ok (m.start, nav) := by
  constructor
  · intro newFile a b hab r
    have ha : a ≠ 0 := by omega
    have hb : b ≠ 0 := by omega
    have hda : Direction.ofInt a = Direction.ofInt (a + b) := Direction.ofInt_congr (by omega)
    have hdb : Direction.ofInt b = Direction.ofInt (a + b) := Direction.ofInt_congr (by omega)
    have hcount : (a + b).natAbs = a.natAbs + b.natAbs := by omega
    rw [step_eq_ok_iff nav (by omega) newFile disk hms table, hcount, hops_add_iff]
    constructor
    · rintro ⟨first, hfirst, hsecond⟩
      rw [step_eq_ok_iff nav ha newFile disk hms table, hda] at hfirst
      obtain ⟨hops, hnav⟩ := hfirst
      rw [step_eq_ok_iff _ hb newFile disk hms table, hdb, hnav] at hsecond
      exact ⟨⟨some first.1, hops, hsecond.1⟩, hsecond.2⟩
    · rintro ⟨⟨middle, before, after⟩, hnav⟩
      obtain ⟨start, rfl⟩ := exists_start_of_hops (by omega) before
      refine ⟨(start, { nav with current := some start }), ?_, ?_⟩
      · rw [step_eq_ok_iff nav ha newFile disk hms table, hda]
        exact ⟨before, rfl⟩
      · rw [step_eq_ok_iff _ hb newFile disk hms table, hdb]
        exact ⟨after, hnav⟩
  · intro m hm hcurrent hel n hn first hfirst
    rw [step_eq_ok_iff nav hn false disk hms table, hcurrent] at hfirst
    obtain ⟨hops, hnav⟩ := hfirst
    rw [step_eq_ok_iff _ (by omega) false disk hms table, Direction.ofInt_neg hn, Int.natAbs_neg,
      hnav]
    refine ⟨hops.back hms hm hel, ?_⟩
    rw [← hcurrent]

/-- Two messages are in one file and then two in another.  A step to the first file and one to the
next lead where one step over two files leads; and two messages on from the second one and two back is
the second one again. -/
theorem step_add_and_neg_capitals :
    let s := (Session.start .capitals { pattern := some .slash } { workingDir := ⟨['/']⟩ } {} {}
      (.ofText "A\nA\nB\nB\n".toList)).serveAll [.read .empty 8]
    let nav : Navigation := { current := some 2 }
    s.parse.messages.Pairwise (·.start < ·.start)
      ∧ ((0 : Int) < 1 ∧ (0 : Int) < 1 ∨ (1 : Int) < 0 ∧ (1 : Int) < 0)
      ∧ (∃ first, Navigation.step {} 1 true .empty s.parse s.table = .ok first
        ∧ first.2.step 1 true .empty s.parse s.table = .ok (4, { current := some 4 }))
      ∧ ∃ m ∈ s.parse.messages, nav.current = some m.start ∧ Eligible nav.settings s.table m
        ∧ nav.step 2 false .empty s.parse s.table = .ok (6, { nav with current := some 6 })
        ∧ Navigation.step { nav with current := some 6 } (-2) false .empty s.parse s.table
          = .ok (m.start, nav) := by
  intro s nav
  have hms : s.parse.messages.Pairwise (·.start < ·.start) := Session.starts_serveAll _ _ _ _ _ _ _ _
  have hsign : (0 : Int) < 1 ∧ (0 : Int) < 1 ∨ (1 : Int) < 0 ∧ (1 : Int) < 0 := by decide
  have htwo : Navigation.step {} 2 true .empty s.parse s.table = .ok (4, { current := some 4 }) := by
    decide +kernel
  have hfirst : nav.step 2 false .empty s.parse s.table
      = .ok (6, { nav with current := some 6 }) := by
    decide +kernel
  have hlive : s.parse.messages.any (fun m => m.start = 2 && eligible {} s.table m) := by
    decide +kernel
  obtain ⟨m, hm, hat⟩ := List.any_eq_true.mp hlive
  rw [Bool.and_eq_true, decide_eq_true_iff, eligible_iff] at hat
  obtain ⟨hstart, hel⟩ := hat
  refine ⟨hms, hsign, ?_, m, hm, congrArg some hstart.symm, hel, hfirst, ?_⟩
  · exact ((step_add_and_neg {} .empty hms s.table).1 true 1 1 hsign _).mpr htwo
  · exact (step_add_and_neg nav .empty hms s.table).2 m hm (congrArg some hstart.symm) hel 2
      (by decide) _ hfirst

end Navigation

end BuildLog
