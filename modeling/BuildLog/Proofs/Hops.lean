import BuildLog.Proofs.Sweeping

/-!
# Hops — where a step between messages leads

A hop leads to the nearest message beyond a position that a step may end at, and a step is as many
hops as it is asked for.  It fails if no message may be stepped to at all, or if the hops run out;
and then the navigation stays where it is.
-/

namespace BuildLog

/-! ## 1. What a step is to do -/

namespace Direction

/-- An offset lies further on than a position.  Without a position, every offset does. -/
def Beyond (d : Direction) (position : Option Nat) (offset : Nat) : Prop :=
  ∀ c ∈ position, match d with
    | .forward => c < offset
    | .backward => offset < c

/-- The direction of a number of messages. -/
def ofInt (n : Int) : Direction := if 0 < n then .forward else .backward

theorem Beyond.asymm {d : Direction} {a b : Nat} (h : d.Beyond (some a) b) :
    ¬ d.Beyond (some b) a := by
  intro h'
  have hab := h a rfl
  have hba := h' b rfl
  cases d <;> exact Nat.lt_asymm hab hba

end Direction

/-- Whatever was asked of a session, its messages are in order. -/
theorem Session.starts_serveAll (cfg : ScanSettings) (p : Option DirectoryPattern)
    (workingDir : Path) (searchPath : List (Option Path)) (nav : NavigationSettings)
    (sources : Sources) (log : Transcript) (rs : List Request) :
    let s := (start cfg { pattern := p } { workingDir, searchPath } nav sources log).serveAll rs
    s.parse.messages.Pairwise (·.start < ·.start) := by
  intro s
  exact (balanced_serveAll (balanced_start cfg p workingDir searchPath nav sources log) rs).starts

namespace Navigation

/-- A message that may be stepped to: it is severe enough and, if visited places are to be skipped,
its place was not gone to. -/
structure Eligible (cfg : NavigationSettings) (table : FileTable) (m : Message) : Prop where
  severe : cfg.skipThreshold ≤ m.severity
  unvisited : cfg.skipVisited → ∀ p, table.place? m.place = some p → ¬ p.visited

section

variable (cfg : NavigationSettings) (disk : Disk) (table : FileTable) (newFile : Bool)
  (d : Direction) (ms : List Message)

/-- A message that a hop from a position may end at.  If the hop is to lead to another file, then
the message is not in the file of the message that begins at the position. -/
structure MayEnd (position : Option Nat) (m : Message) : Prop where
  mem : m ∈ ms
  eligible : Eligible cfg table m
  beyond : d.Beyond position m.start
  leaves : newFile → ∀ l ∈ ms, position = some l.start →
    ¬ (filePath disk table l).same (filePath disk table m)

/-- A hop ends at the nearest message that it may end at. -/
structure Hop (position : Option Nat) (m : Message) : Prop where
  mayEnd : MayEnd cfg disk table newFile d ms position m
  nearest : ∀ m', MayEnd cfg disk table newFile d ms position m' →
    m' = m ∨ d.Beyond (some m.start) m'.start

/-- Hops, one after the other. -/
inductive Hops : Nat → Option Nat → Option Nat → Prop
  | none (position : Option Nat) : Hops 0 position position
  | hop {n : Nat} {position last : Option Nat} {m : Message}
    (first : Hop cfg disk table newFile d ms position m) (rest : Hops n (some m.start) last) :
    Hops (n + 1) position last

end

/-! ## 2. One hop -/

theorem eligible_iff {cfg : NavigationSettings} {table : FileTable} {m : Message} :
    eligible cfg table m ↔ Eligible cfg table m := by
  unfold eligible
  rw [Bool.and_eq_true, decide_eq_true_iff, Bool.not_eq_true', Bool.and_eq_false_iff]
  constructor
  · rintro ⟨hsevere, hvisited⟩
    refine ⟨hsevere, fun hskip p hp => ?_⟩
    rw [hskip, hp] at hvisited
    simpa using hvisited
  · rintro ⟨hsevere, hvisited⟩
    refine ⟨hsevere, ?_⟩
    cases hskip : cfg.skipVisited with
    | false => exact .inl rfl
    | true =>
      refine .inr ?_
      cases hp : table.place? m.place with
      | none => rfl
      | some p => simpa using hvisited hskip p hp

theorem mem_beyond {d : Direction} {position : Option Nat} {ms : List Message} {m : Message} :
    m ∈ beyond d position ms ↔ m ∈ ms ∧ d.Beyond position m.start := by
  cases d with
  | forward => cases position <;> simp [beyond, Direction.Beyond]
  | backward => cases position <;> simp [beyond, Direction.Beyond]

/-- The messages beyond a position are listed with the nearest first. -/
theorem pairwise_beyond {ms : List Message} (hms : ms.Pairwise (·.start < ·.start)) (d : Direction)
    (position : Option Nat) :
    (beyond d position ms).Pairwise fun m m' => d.Beyond (some m.start) m'.start := by
  cases d with
  | forward =>
    refine (hms.filter _).imp fun {m m'} hlt => ?_
    rintro _ ⟨⟩
    exact hlt
  | backward =>
    refine List.pairwise_reverse.mpr ((hms.filter _).imp fun {m m'} hlt => ?_)
    rintro _ ⟨⟩
    exact hlt

/-- Of messages in order, the one that begins at an offset. -/
theorem find?_start {ms : List Message} (hms : ms.Pairwise (·.start < ·.start)) {c : Nat}
    {m : Message} : ms.find? (·.start = c) = some m ↔ m ∈ ms ∧ m.start = c :=
  find?_key Message.start hms

section

variable {cfg : NavigationSettings} {disk : Disk} {table : FileTable} {newFile : Bool}
  {d : Direction} {ms : List Message}

variable (disk table newFile ms) in
/-- The path that a hop from a position is not to lead to. -/
def left? (position : Option Nat) : Option Path :=
  if newFile then (position.bind fun c => ms.find? (·.start = c)).map (filePath disk table)
  else none

variable (hms : ms.Pairwise (·.start < ·.start))
include hms

theorem left?_any_eq_false {position : Option Nat} {m : Message} :
    (left? disk table newFile ms position).any (·.same (filePath disk table m)) = false
      ↔ (newFile → ∀ l ∈ ms, position = some l.start →
        ¬ (filePath disk table l).same (filePath disk table m)) := by
  unfold left?
  cases newFile with
  | false => simp
  | true =>
    rw [if_pos rfl, Option.any_map, Option.any_eq_false]
    simp only [Option.bind_eq_some_iff, find?_start hms, Bool.not_eq_true, forall_const]
    constructor
    · exact fun h l hl hpos => h l ⟨l.start, hpos, hl, rfl⟩
    · rintro h l ⟨_, hpos, hl, rfl⟩
      exact h l hl hpos

/-- A hop leads to the nearest message that it may end at. -/
theorem hop?_eq_some_iff {position : Option Nat} {m : Message} :
    hop? (eligible cfg table) (filePath disk table) d position
        (left? disk table newFile ms position) ms = some m
      ↔ Hop cfg disk table newFile d ms position m := by
  have hmayEnd : ∀ {m}, m ∈ beyond d position ms ∧ (eligible cfg table m
        && !(left? disk table newFile ms position).any (·.same (filePath disk table m)))
      ↔ MayEnd cfg disk table newFile d ms position m := by
    intro m
    rw [mem_beyond, Bool.and_eq_true, Bool.not_eq_true', eligible_iff, left?_any_eq_false hms]
    exact ⟨fun ⟨⟨h₁, h₂⟩, h₃, h₄⟩ => ⟨h₁, h₃, h₂, h₄⟩, fun ⟨h₁, h₃, h₂, h₄⟩ => ⟨⟨h₁, h₂⟩, h₃, h₄⟩⟩
  unfold hop?
  rw [find?_eq_some_iff_of_pairwise (fun _ _ h => h.asymm) (pairwise_beyond hms d position), hmayEnd]
  constructor
  · rintro ⟨hm, hnearest⟩
    refine ⟨hm, fun m' hm' => ?_⟩
    obtain ⟨hmem, hf⟩ := hmayEnd.mpr hm'
    exact hnearest m' hmem hf
  · rintro ⟨hm, hnearest⟩
    exact ⟨hm, fun m' hmem hf => hnearest m' (hmayEnd.mp ⟨hmem, hf⟩)⟩

/-- The file that is left behind a hop is that of the message it led to. -/
theorem left?_some {m : Message} (hm : m ∈ ms) : left? disk table newFile ms (some m.start)
    = if newFile then some (filePath disk table m) else none := by
  have hfind : ms.find? (·.start = m.start) = some m := (find?_start hms).mpr ⟨hm, rfl⟩
  unfold left?
  rw [Option.bind_some, hfind]
  rfl

theorem hops?_eq_some_iff {n : Nat} {position last : Option Nat} :
    hops? (eligible cfg table) (filePath disk table) newFile d ms n position
        (left? disk table newFile ms position) = some last
      ↔ Hops cfg disk table newFile d ms n position last := by
  induction n generalizing position with
  | zero =>
    rw [hops?, Option.some.injEq]
    constructor
    · rintro rfl
      exact .none position
    · rintro ⟨⟩
      rfl
  | succ n ih =>
    rw [hops?]
    cases hhop : hop? (eligible cfg table) (filePath disk table) d position
        (left? disk table newFile ms position) ms with
    | none =>
      refine ⟨nofun, ?_⟩
      rintro ⟨⟩
      rename_i first _
      rw [(hop?_eq_some_iff hms).mpr first] at hhop
      cases hhop
    | some m =>
      have hm := (hop?_eq_some_iff hms).mp hhop
      dsimp only
      rw [← left?_some hms hm.mayEnd.mem, ih]
      constructor
      · exact .hop hm
      · rintro ⟨⟩
        rename_i first rest
        rw [(hop?_eq_some_iff hms).mpr first] at hhop
        cases hhop
        exact rest

end

/-! ## 3. A whole step -/

/-- Hops end at a message that is accepted. -/
theorem exists_of_hops? {accept : Message → Bool} {pathOf : Message → Path} {newFile : Bool}
    {d : Direction} {ms : List Message} {n : Nat} {position last : Option Nat} {left : Option Path}
    (h : hops? accept pathOf newFile d ms (n + 1) position left = some last) :
    ∃ m ∈ ms, accept m ∧ last = some m.start := by
  induction n generalizing position left with
  | zero =>
    rw [hops?] at h
    split at h
    · cases h
    · rename_i m hm
      rw [hops?] at h
      cases h
      have haccept := List.find?_some hm
      rw [Bool.and_eq_true] at haccept
      exact ⟨m, (mem_beyond.mp (List.mem_of_find?_eq_some hm)).1, haccept.1, rfl⟩
  | succ n ih =>
    rw [hops?] at h
    split at h
    · cases h
    · exact ih h

theorem any_eligible {cfg : NavigationSettings} {table : FileTable} {ms : List Message} :
    ms.any (eligible cfg table) ↔ ∃ m ∈ ms, Eligible cfg table m := by
  rw [List.any_eq_true]
  simp only [eligible_iff]

/-- A step is refused if there is nothing to step to, and is its hops otherwise. -/
theorem step_eq (nav : Navigation) {n : Int} (hn : n ≠ 0) (newFile : Bool) (disk : Disk) (p : Parse)
    (table : FileTable) : nav.step n newFile disk p table =
      if p.messages.any (eligible nav.settings table) then
        match hops? (eligible nav.settings table) (filePath disk table) newFile (.ofInt n)
            p.messages n.natAbs nav.current (left? disk table newFile p.messages nav.current) with
        | none => .error (.noFurther (.ofInt n))
        | some position => .ok (position.getD 0, { nav with current := position })
      else .error .noneRecorded := by
  unfold step
  dsimp only
  rw [if_neg hn]
  cases p.messages.any (eligible nav.settings table) with
  | false => rfl
  | true => rfl

/-- A step answers where a message starts. -/
theorem messageAtStart?_of_step {nav nav' : Navigation} {n : Int} {newFile : Bool} {disk : Disk}
    {p : Parse} {table : FileTable} {start : Nat}
    (h : nav.step n newFile disk p table = .ok (start, nav')) :
    (p.messageAtStart? start).isSome := by
  by_cases hn : n = 0
  · unfold step at h
    dsimp only at h
    rw [if_pos hn] at h
    split at h
    · cases h
    · split at h
      · rename_i c hc
        cases h
        exact (Option.filter_eq_some_iff.mp hc).2
      · cases h
  · rw [step_eq nav hn] at h
    split at h
    · split at h
      · cases h
      · rename_i position hhops
        cases h
        obtain ⟨k, hk⟩ := Nat.exists_eq_succ_of_ne_zero (Int.natAbs_ne_zero.mpr hn)
        rw [hk] at hhops
        obtain ⟨m, hm, -, rfl⟩ := exists_of_hops? hhops
        exact List.find?_isSome.mpr ⟨m, hm, decide_eq_true rfl⟩
    · cases h

/-- A session whose step fails is where it was. -/
theorem navigation_of_step_error (n : Int) (newFile : Bool) (disk : Disk) (s : Session)
    (e : NavigationError)
    (h : (s.stepWith (fun nav p t => nav.step n newFile disk p t) disk).1 = .error e) :
    (s.stepWith (fun nav p t => nav.step n newFile disk p t) disk).2.navigation = s.navigation := by
  unfold Session.stepWith at h ⊢
  dsimp only at h ⊢
  split at h
  · rfl
  · rename_i start nav' hstep
    -- a step that succeeds leads to a message
    obtain ⟨m, hm⟩ := Option.isSome_iff_exists.mp (messageAtStart?_of_step hstep)
    rw [hm] at h
    cases h

/-- What may come of a step. -/
theorem step_cases (nav : Navigation) {n : Int} (hn : n ≠ 0) (newFile : Bool) (disk : Disk)
    {p : Parse} (hms : p.messages.Pairwise (·.start < ·.start)) (table : FileTable) :
    let hops := Hops nav.settings disk table newFile (.ofInt n) p.messages n.natAbs nav.current
    let result := nav.step n newFile disk p table
    ((∀ m ∈ p.messages, ¬ Eligible nav.settings table m) ∧ (∀ last, ¬ hops last)
        ∧ result = .error .noneRecorded)
      ∨ (∃ m ∈ p.messages, Eligible nav.settings table m)
        ∧ ((∀ last, ¬ hops last) ∧ result = .error (.noFurther (.ofInt n))
          ∨ ∃ start, (∀ last, hops last ↔ last = some start)
            ∧ result = .ok (start, { nav with current := some start })) := by
  intro hops result
  obtain ⟨k, hk⟩ := Nat.exists_eq_succ_of_ne_zero (Int.natAbs_ne_zero.mpr hn)
  have hiff : ∀ last, hops? (eligible nav.settings table) (filePath disk table) newFile (.ofInt n)
      p.messages n.natAbs nav.current (left? disk table newFile p.messages nav.current) = some last
      ↔ hops last := fun last => hops?_eq_some_iff hms
  have hlast : ∀ last, hops last → ∃ m ∈ p.messages, eligible nav.settings table m
      ∧ last = some m.start := by
    intro last hl
    have h := (hiff last).mpr hl
    rw [hk] at h
    exact exists_of_hops? h
  have hresult : result = _ := step_eq nav hn newFile disk p table
  by_cases hany : p.messages.any (eligible nav.settings table)
  · rw [if_pos hany] at hresult
    refine .inr ⟨any_eligible.mp hany, ?_⟩
    cases hhops : hops? (eligible nav.settings table) (filePath disk table) newFile (.ofInt n)
        p.messages n.natAbs nav.current (left? disk table newFile p.messages nav.current) with
    | none =>
      rw [hhops] at hresult
      refine .inl ⟨fun last hl => ?_, hresult⟩
      rw [(hiff last).mpr hl] at hhops
      cases hhops
    | some last =>
      obtain ⟨m, -, -, rfl⟩ := hlast last ((hiff last).mp hhops)
      rw [hhops] at hresult
      refine .inr ⟨m.start, fun last => ?_, hresult⟩
      rw [← hiff, hhops, Option.some.injEq, eq_comm]
  · rw [if_neg hany] at hresult
    have hnone : ∀ m ∈ p.messages, ¬ eligible nav.settings table m := by
      simpa using hany
    refine .inl ⟨fun m hm => mt eligible_iff.mpr (hnone m hm), fun last hl => ?_, hresult⟩
    obtain ⟨m, hm, haccept, -⟩ := hlast last hl
    exact hnone m hm haccept

/-- For messages in order, a step finds nothing just if there is nothing to step to.  Otherwise it is
the hops it is asked for, in its direction: it answers and remembers where the last one ends, or says
that there are not that many.  If it fails, nothing changes. -/
theorem step_iff_hops (nav : Navigation) {n : Int} (hn : n ≠ 0) (newFile : Bool) (disk : Disk)
    {p : Parse} (hms : p.messages.Pairwise (·.start < ·.start)) (table : FileTable) :
    let d := Direction.ofInt n
    let hops := Hops nav.settings disk table newFile d p.messages n.natAbs nav.current
    let result := nav.step n newFile disk p table
    (result = .error .noneRecorded ↔ ∀ m ∈ p.messages, ¬ Eligible nav.settings table m)
      ∧ (∀ start nav', result = .ok (start, nav')
        ↔ hops (some start) ∧ nav' = { nav with current := some start })
      ∧ (result = .error (.noFurther d)
        ↔ (∃ m ∈ p.messages, Eligible nav.settings table m) ∧ ∀ start, ¬ hops (some start))
      ∧ (∀ e, result = .error e → e = .noneRecorded ∨ e = .noFurther d)
      ∧ ∀ (s : Session) (e : NavigationError),
        (s.stepWith (fun nav p t => nav.step n newFile disk p t) disk).1 = .error e →
          (s.stepWith (fun nav p t => nav.step n newFile disk p t) disk).2.navigation
            = s.navigation := by
  intro d hops result
  have hkept := navigation_of_step_error n newFile disk
  obtain ⟨hnone, hno, hresult⟩ | ⟨⟨m, hm, hel⟩, ⟨hno, hresult⟩ | ⟨start, hend, hresult⟩⟩ :
      _ ∨ _ ∧ (_ ∨ _) := step_cases nav hn newFile disk hms table
  · rw [show result = _ from hresult]
    refine ⟨iff_of_true rfl hnone, fun start nav' => iff_of_false nofun fun h => hno _ h.1,
      iff_of_false nofun ?_, fun e he => .inl (Except.error.inj he).symm, hkept⟩
    rintro ⟨⟨m, hm, hel⟩, -⟩
    exact hnone m hm hel
  · rw [show result = _ from hresult]
    exact ⟨iff_of_false nofun fun hnone => hnone m hm hel,
      fun start nav' => iff_of_false nofun fun h => hno _ h.1,
      iff_of_true rfl ⟨⟨m, hm, hel⟩, fun start => hno _⟩,
      fun e he => .inr (Except.error.inj he).symm, hkept⟩
  · rw [show result = _ from hresult]
    refine ⟨iff_of_false nofun fun hnone => hnone m hm hel, fun start' nav' => ?_,
      iff_of_false nofun fun h => h.2 start ((hend _).mpr rfl), nofun, hkept⟩
    rw [show hops (some start') ↔ _ from hend _, Except.ok.injEq, Prod.mk.injEq,
      Option.some.injEq, eq_comm (a := start')]
    refine and_congr_right ?_
    rintro rfl
    exact eq_comm

/-- Two messages are in one file and then two in another.  Hops back from the end lead to the last one
and to the nearest in the other file.  From where no message begins, the next one is reached in any
file; and from the third one there is no other file further on. -/
theorem step_iff_hops_capitals :
    let s := (Session.start .capitals { pattern := some .slash } { workingDir := ⟨['/']⟩ } {} {}
      (.ofText "A\nA\nB\nB\n".toList)).serveAll [.read .empty 8]
    s.parse.messages.Pairwise (·.start < ·.start)
      ∧ Hops {} .empty s.table true .backward s.parse.messages 2 none (some 2)
      ∧ Hops {} .empty s.table true .forward s.parse.messages 1 (some 3) (some 4)
      ∧ ∀ start, ¬ Hops {} .empty s.table true .forward s.parse.messages 1 (some 4) (some start) := by
  intro s
  have hms : s.parse.messages.Pairwise (·.start < ·.start) := Session.starts_serveAll _ _ _ _ _ _ _ _
  refine ⟨hms, ?_, ?_, ?_⟩
  · have h := step_iff_hops {} (n := -2) (by decide) true .empty hms s.table
    exact ((h.2.1 2 { current := some 2 }).mp (by decide +kernel)).1
  · have h := step_iff_hops { current := some 3 } (n := 1) (by decide) true .empty hms s.table
    exact ((h.2.1 4 { current := some 4 }).mp (by decide +kernel)).1
  · have h := step_iff_hops { current := some 4 } (n := 1) (by decide) true .empty hms s.table
    exact (h.2.2.1.mp (by decide +kernel)).2

end Navigation

end BuildLog
