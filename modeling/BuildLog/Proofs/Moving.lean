import BuildLog.Proofs.Edits
import BuildLog.Proofs.Hops
import BuildLog.Proofs.Letters
import Mathlib.Data.List.Forall2

/-!
# Moving — the next message of a log that was edited

An edit moves the text behind it, and the messages with it.  What it does not move is the offset that
the last step led to: the next step starts from where the current message was.  It leads to the
message that it would have led to just if none that it may end at lies between there and where the
current message is now.
-/

namespace BuildLog

/-! ## 1. Edits -/

namespace Edit

def apply (s : Session) : Edit → Session
  | .insert offset t => s.insert offset t
  | .delete span => s.delete span

@[simp] theorem navigation_apply (s : Session) (e : Edit) :
    (e.apply s).navigation = s.navigation := by
  cases e <;> rfl

end Edit

/-! ## 2. The next message -/

namespace Navigation

/-- The first message beyond an offset that a step may end at. -/
def next? (cfg : NavigationSettings) (table : FileTable) (ms : List Message) (c : Nat) :
    Option Message :=
  (ms.filter (c < ·.start)).find? (eligible cfg table)

theorem next?_eq_some_iff {cfg : NavigationSettings} {table : FileTable} {ms : List Message}
    (hms : ms.Pairwise (·.start < ·.start)) {c : Nat} {m : Message} :
    next? cfg table ms c = some m ↔ (m ∈ ms ∧ c < m.start ∧ Eligible cfg table m)
      ∧ ∀ x ∈ ms, c < x.start → Eligible cfg table x → x = m ∨ m.start < x.start := by
  unfold next?
  rw [find?_eq_some_iff_of_pairwise (fun _ _ => Nat.lt_asymm) (hms.filter _)]
  simp only [List.mem_filter, decide_eq_true_iff, eligible_iff, and_assoc, and_imp]

/-- Of messages in order, the next ones of two offsets begin at the same one just if no message that
a step may end at begins between them. -/
theorem start_next?_eq_iff {cfg : NavigationSettings} {table : FileTable} {ms : List Message}
    (hms : ms.Pairwise (·.start < ·.start)) (c c' : Nat) :
    (next? cfg table ms c).map Message.start = (next? cfg table ms c').map Message.start
      ↔ ∀ m ∈ ms, Eligible cfg table m → (c < m.start ↔ c' < m.start) := by
  -- a message beyond one offset is not before the next one, which is beyond the other
  have hbeyond : ∀ {a b}, (next? cfg table ms a).map Message.start
        = (next? cfg table ms b).map Message.start →
      ∀ m ∈ ms, Eligible cfg table m → a < m.start → b < m.start := by
    intro a b heq m hm hel ha
    have hsome : (next? cfg table ms a).isSome :=
      List.find?_isSome.mpr ⟨m, List.mem_filter.mpr ⟨hm, decide_eq_true ha⟩, eligible_iff.mpr hel⟩
    obtain ⟨x, hx⟩ := Option.isSome_iff_exists.mp hsome
    rw [hx, Option.map_some, eq_comm, Option.map_eq_some_iff] at heq
    obtain ⟨y, hy, hstart⟩ := heq
    have hb : b < x.start := hstart ▸ ((next?_eq_some_iff hms).mp hy).1.2.1
    rcases ((next?_eq_some_iff hms).mp hx).2 m hm ha hel with rfl | hlt
    · exact hb
    · exact Nat.lt_trans hb hlt
  refine ⟨fun heq m hm hel => ⟨hbeyond heq m hm hel, hbeyond heq.symm m hm hel⟩, fun h => ?_⟩
  congr 1
  refine Option.ext fun m => ?_
  rw [next?_eq_some_iff hms, next?_eq_some_iff hms]
  constructor
  · rintro ⟨⟨hm, hc, hel⟩, hfirst⟩
    exact ⟨⟨hm, (h m hm hel).mp hc, hel⟩, fun x hx hx' hxel => hfirst x hx ((h x hx hxel).mpr hx') hxel⟩
  · rintro ⟨⟨hm, hc, hel⟩, hfirst⟩
    exact ⟨⟨hm, (h m hm hel).mpr hc, hel⟩, fun x hx hx' hxel => hfirst x hx ((h x hx hxel).mp hx') hxel⟩

end Navigation

namespace Session

open Navigation

theorem balanced_apply {s : Session} (h : s.parseState.Balanced) (e : Edit) :
    (e.apply s).parseState.Balanced :=
  match e with
  | .insert offset t => balanced_serve h (.insert offset t)
  | .delete span => balanced_serve h (.delete span)

/-- A step to the next message leads to the first one beyond the current one. -/
theorem toOption_nextMessage {s : Session} {disk : Disk} {c : Nat}
    (hcurrent : s.navigation.current = some c)
    (hms : (s.parseAll disk).2.parse.messages.Pairwise (·.start < ·.start)) :
    (s.nextMessage disk 1).1.toOption = next? s.navigation.settings (s.parseAll disk).2.table
      (s.parseAll disk).2.parse.messages c := by
  have hnavigation : (s.parseAll disk).2.navigation = s.navigation := rfl
  unfold nextMessage stepWith
  dsimp only
  rw [step_eq _ (by decide), hnavigation, hcurrent]
  generalize hr : (s.parseAll disk).2 = r at hms
  -- one hop, in any file
  have hhops : hops? (eligible s.navigation.settings r.table) (filePath disk r.table) false
      (.ofInt 1) r.parse.messages (1 : Int).natAbs (some c)
        (left? disk r.table false r.parse.messages (some c))
      = (next? s.navigation.settings r.table r.parse.messages c).map (some ·.start) := by
    have hhop : hop? (eligible s.navigation.settings r.table) (filePath disk r.table) (.ofInt 1)
        (some c) (left? disk r.table false r.parse.messages (some c)) r.parse.messages
        = next? s.navigation.settings r.table r.parse.messages c := by
      show (beyond .forward (some c) r.parse.messages).find? _ = _
      unfold next? beyond
      dsimp only
      congr 1
      funext m
      exact Bool.and_true _
    show hops? _ _ _ _ _ (0 + 1) _ _ = _
    rw [hops?, hhop]
    cases next? s.navigation.settings r.table r.parse.messages c with
    | none => rfl
    | some m => rfl
  cases hnext : next? s.navigation.settings r.table r.parse.messages c with
  | none =>
    rw [hhops, hnext]
    split
    · rfl
    · rename_i hstep
      split at hstep <;> cases hstep
  | some m =>
    obtain ⟨⟨hm, -, hel⟩, -⟩ := (next?_eq_some_iff hms).mp hnext
    have hfind : r.parse.messageAtStart? m.start = some m := (find?_start hms).mpr ⟨hm, rfl⟩
    rw [if_pos (any_eligible.mpr ⟨m, hm, hel⟩), hhops, hnext]
    dsimp only [Option.map_some, Option.getD_some]
    rw [hfind]
    rfl

/-- After an edit, a message is an old one that was moved. -/
structure Moved (e : Edit) (cfg : NavigationSettings) (t u : FileTable) (m m' : Message) : Prop where
  start : m'.start = e.move m.start
  severity : m'.severity = m.severity
  /-- If visited places are to be skipped, its place is visited if it was. -/
  mark : cfg.skipVisited →
    (u.place? m'.place).any (·.visited) = (t.place? m.place).any (·.visited)

instance (e : Edit) (cfg : NavigationSettings) (t u : FileTable) (m m' : Message) :
    Decidable (Moved e cfg t u m m') :=
  decidable_of_iff (m'.start = e.move m.start ∧ m'.severity = m.severity ∧ (cfg.skipVisited →
      (u.place? m'.place).any (·.visited) = (t.place? m.place).any (·.visited)))
    ⟨fun ⟨h₁, h₂, h₃⟩ => ⟨h₁, h₂, h₃⟩, fun ⟨h₁, h₂, h₃⟩ => ⟨h₁, h₂, h₃⟩⟩

theorem Moved.eligible {e : Edit} {cfg : NavigationSettings} {t u : FileTable} {m m' : Message}
    (h : Moved e cfg t u m m') : eligible cfg u m' = eligible cfg t m := by
  unfold Navigation.eligible
  rw [h.severity]
  cases hskip : cfg.skipVisited with
  | false => rfl
  | true => rw [h.mark hskip]

/-- The first message that a step may end at is moved with the others. -/
theorem start_find?_of_moved {e : Edit} {cfg : NavigationSettings} {t u : FileTable}
    {old new : List Message} (h : List.Forall₂ (Moved e cfg t u) old new) :
    (new.find? (eligible cfg u)).map Message.start
      = (old.find? (eligible cfg t)).map fun m => e.move m.start := by
  induction h with
  | nil => rfl
  | @cons m m' old new hm hrest ih =>
    rw [List.find?_cons, List.find?_cons, hm.eligible]
    cases eligible cfg t m with
    | false => exact ih
    | true => exact congrArg some hm.start

/-- Whatever was asked of a session, let an edit move the messages behind the current one.  Then
the next step leads to the message that it would have led to, where this is now, just if each message
that it may end at lies on the same side of the offset of the current message before the edit, which
is where the step starts from, as of that after it. -/
theorem nextMessage_edit_iff (cfg : ScanSettings) (p : Option DirectoryPattern) (workingDir : Path)
    (searchPath : List (Option Path)) (nav : NavigationSettings) (sources : Sources)
    (log : Transcript) (rs : List Request) (disk : Disk) (e : Edit) (c : Nat) :
    let s := (start cfg { pattern := p } { workingDir, searchPath } nav sources log).serveAll rs
    let before := (s.parseAll disk).2
    let after := ((e.apply s).parseAll disk).2
    s.navigation.current = some c →
    List.Forall₂ (Moved e s.navigation.settings before.table after.table)
      (before.parse.messages.filter (c < ·.start))
      (after.parse.messages.filter (e.move c < ·.start)) →
    (((e.apply s).nextMessage disk 1).1.toOption.map Message.start
        = (s.nextMessage disk 1).1.toOption.map (fun m => e.move m.start)
      ↔ ∀ m ∈ after.parse.messages, Eligible s.navigation.settings after.table m →
        (c < m.start ↔ e.move c < m.start)) := by
  intro s before after hcurrent hmoved
  have hs : s.parseState.Balanced :=
    balanced_serveAll (balanced_start cfg p workingDir searchPath nav sources log) rs
  have hbefore : before.parse.messages.Pairwise (·.start < ·.start) :=
    (hs.read disk s.log.length).starts
  have hafter : after.parse.messages.Pairwise (·.start < ·.start) :=
    ((balanced_apply hs e).read disk (e.apply s).log.length).starts
  have hexpected : (s.nextMessage disk 1).1.toOption.map (fun m => e.move m.start)
      = (next? s.navigation.settings after.table after.parse.messages (e.move c)).map
        Message.start := by
    rw [toOption_nextMessage hcurrent hbefore]
    exact (start_find?_of_moved hmoved).symm
  -- the navigation is not told of the edit
  have hcurrent' : (e.apply s).navigation.current = some c := by
    rw [Edit.navigation_apply, hcurrent]
  rw [hexpected, toOption_nextMessage hcurrent' hafter, Edit.navigation_apply]
  exact start_next?_eq_iff hafter c (e.move c)

/-- If the line before the first of two messages is deleted, the step from it leads to the second as
before.  If a line is put in there, it leads back to the first. -/
theorem nextMessage_edit_capitals :
    let s := (start .capitals { pattern := none } { workingDir := ⟨['/']⟩ } {} {}
      (.ofText "x\nA\nyyy\nB\n".toList)).serveAll [.nextMessage .empty 1]
    let before := (s.parseAll .empty).2
    s.navigation.current = some 2
      ∧ ∀ e ∈ [Edit.delete ⟨0, 2⟩, .insert 0 "z\n".toList],
        let after := ((e.apply s).parseAll .empty).2
        List.Forall₂ (Moved e s.navigation.settings before.table after.table)
            (before.parse.messages.filter (2 < ·.start))
            (after.parse.messages.filter (e.move 2 < ·.start))
          ∧ (((e.apply s).nextMessage .empty 1).1.toOption.map Message.start
              = (s.nextMessage .empty 1).1.toOption.map (fun m => e.move m.start)
            ↔ ∀ m ∈ after.parse.messages, Eligible s.navigation.settings after.table m →
              (2 < m.start ↔ e.move 2 < m.start)) := by
  intro s before
  have hcurrent : s.navigation.current = some 2 := by decide +kernel
  refine ⟨hcurrent, ?_⟩
  intro e he after
  have hmoved : List.Forall₂ (Moved e s.navigation.settings before.table after.table)
      (before.parse.messages.filter (2 < ·.start))
      (after.parse.messages.filter (e.move 2 < ·.start)) := by
    refine List.forall₂_iff_get.mpr ?_
    rcases List.mem_pair.mp he with rfl | rfl <;> decide +kernel
  exact ⟨hmoved, nextMessage_edit_iff .capitals none ⟨['/']⟩ [none] {} {} _ _ .empty e 2 hcurrent
    hmoved⟩

/-- Of three messages the second is the current one, and a line is put in before the first.  All that
is found is what was found, two characters further on; and the next step leads to the second message
again. -/
theorem nextMessage_edit_differs :
    let s := (start .capitals { pattern := none } { workingDir := ⟨['/']⟩ } {} {}
      (.ofText "A\nA\nA\n".toList)).serveAll
        [.nextMessage .empty 1, .nextMessage .empty 1, .read .empty 6]
    let u := ((Edit.insert 0 "x\n".toList).apply s)
    s.navigation.current = some 2
      ∧ s.parse.messages.map Message.start = [0, 2, 4]
      ∧ (u.parseAll .empty).2.parse.messages.map (fun m => (m.start, m.rule, m.severity, m.location))
        = s.parse.messages.map (fun m => (m.start + 2, m.rule, m.severity, m.location))
      ∧ (s.nextMessage .empty 1).1.toOption.map Message.start = some 4
      ∧ (u.nextMessage .empty 1).1.toOption.map Message.start = some 4 := by
  decide +kernel

end Session

end BuildLog
