import BuildLog.Proofs.Shifting

/-!
# Chronicles — a trail answers what a plain record of the changes says

A chronicle keeps the directories that were entered before its first change, and the changes
themselves; what is in effect at an offset is worked out from all of them each time.  A trail keeps
a stack for each change instead, and remembers its last answer.  Whatever is done to both, the trail
answers as the chronicle does.
-/

namespace BuildLog

/-! ## 1. Calls -/

namespace DirectoryTrail

/-- What can be done to a trail. -/
inductive Call
  | apply (es : List (Nat × DirectoryEvent))
  | truncateFrom (offset : Nat)
  | shiftBack (delta : Nat)
  | clear
  | frameAt (offset : Nat)

def call (t : DirectoryTrail) : Call → DirectoryTrail
  | .apply es => t.apply es
  | .truncateFrom offset => t.truncateFrom offset
  | .shiftBack delta => t.shiftBack delta
  | .clear => t.clear
  | .frameAt offset => (t.frameAt offset).2

def callAll (t : DirectoryTrail) (calls : List Call) : DirectoryTrail := calls.foldl call t

end DirectoryTrail

/-! ## 2. Chronicles -/

/-- The directories before the first change, the innermost first, and the changes. -/
structure Chronicle where
  base : List Path := []
  events : List (Nat × DirectoryEvent) := []

namespace Chronicle

open DirectoryTrail (Call)

/-- The directories at an offset: those that the changes up to it lead to. -/
def pathsAt (c : Chronicle) (offset : Nat) : List Path := BuildLog.pathsAt c.events c.base offset

/-- The directories that the changes before an offset leave behind. -/
def pathsBefore (c : Chronicle) (offset : Nat) : List Path :=
  pathsAfter (c.events.filter (·.1 < offset)) c.base

def call (c : Chronicle) : Call → Chronicle
  | .apply es => { c with events := c.events ++ es }
  | .truncateFrom offset => { c with events := c.events.filter (·.1 < offset) }
  | .shiftBack delta =>
    { base := c.pathsBefore delta
      events := (c.events.filter (delta ≤ ·.1)).map fun e => (e.1 - delta, e.2) }
  | .clear => {}
  | .frameAt _ => c

def callAll (c : Chronicle) (calls : List Call) : Chronicle := calls.foldl call c

/-- Changes may be recorded only in order, and after all that were recorded before. -/
def Allows (c : Chronicle) : Call → Prop
  | .apply es => es.Pairwise (·.1 ≤ ·.1) ∧ ∀ e ∈ es, ∀ x ∈ c.events, x.1 ≤ e.1
  | _ => True

def AllowsAll (c : Chronicle) : List Call → Prop
  | [] => True
  | a :: calls => c.Allows a ∧ AllowsAll (c.call a) calls

instance (c : Chronicle) : (a : Call) → Decidable (c.Allows a)
  | .apply _ => inferInstanceAs (Decidable (_ ∧ _))
  | .truncateFrom _ | .shiftBack _ | .clear | .frameAt _ => isTrue trivial

instance decidableAllowsAll : (c : Chronicle) → (calls : List Call) → Decidable (c.AllowsAll calls)
  | _, [] => isTrue trivial
  | c, a :: calls =>
    have := decidableAllowsAll (c.call a) calls
    inferInstanceAs (Decidable (_ ∧ _))

variable (c : Chronicle)

theorem pathsBefore_eq (k : Nat) :
    c.pathsBefore k = if k = 0 then c.base else c.pathsAt (k - 1) := by
  by_cases hk : k = 0
  · subst hk
    simp [pathsBefore, pathsAfter]
  · rw [if_neg hk, pathsBefore, pathsAt, BuildLog.pathsAt]
    congr 1
    apply List.filter_congr
    intro e _
    rw [decide_eq_decide]
    omega

/-- After the changes from `k` on are dropped, what held just before `k` holds from there on. -/
theorem pathsAt_truncateFrom (k o : Nat) :
    (c.call (.truncateFrom k)).pathsAt o = if k = 0 then c.base else c.pathsAt (min o (k - 1)) := by
  have hfilter : (c.call (.truncateFrom k)).pathsAt o
      = pathsAfter ((c.events.filter (·.1 < k)).filter (·.1 ≤ o)) c.base := rfl
  rw [hfilter, List.filter_filter]
  by_cases hk : k = 0
  · subst hk
    simp [pathsAfter]
  · rw [if_neg hk, pathsAt, BuildLog.pathsAt]
    congr 1
    apply List.filter_congr
    intro e _
    rw [← Bool.decide_and, decide_eq_decide]
    omega

/-- A chronicle in order that loses its head says at each offset what it said further on. -/
theorem pathsAt_shiftBack (h : c.events.Pairwise (·.1 ≤ ·.1)) (delta o : Nat) :
    (c.call (.shiftBack delta)).pathsAt o = c.pathsAt (o + delta) := by
  have hcut := filter_lt_append (fun e : Nat × DirectoryEvent => e.1) h delta
  -- the changes up to an offset behind the head are those in the head, and those behind it
  have hsplit : c.pathsAt (o + delta)
      = BuildLog.pathsAt (c.events.filter (delta ≤ ·.1)) (c.pathsBefore delta) (o + delta) := by
    have hhead : BuildLog.pathsAt (c.events.filter (·.1 < delta)) c.base (o + delta)
        = c.pathsBefore delta := by
      rw [BuildLog.pathsAt, List.filter_eq_self.mpr]
      · rfl
      · intro e he
        have := of_decide_eq_true (List.mem_filter.mp he).2
        exact decide_eq_true (by omega)
    rw [pathsAt, ← hhead, ← pathsAt_append, hcut]
  rw [hsplit]
  show pathsAfter (((c.events.filter _).map _).filter _) _ = pathsAfter _ _
  rw [List.filter_map, pathsAfter, List.foldl_map]
  congr 1
  apply List.filter_congr
  intro e he
  have := of_decide_eq_true (List.mem_filter.mp he).2
  show decide (e.1 - delta ≤ o) = decide (e.1 ≤ o + delta)
  rw [decide_eq_decide]
  omega

end Chronicle

/-! ## 3. A trail and its chronicle -/

namespace DirectoryTrail

/-- A chronicle says of every offset what the trail says of it. -/
structure Told (t : DirectoryTrail) (c : Chronicle) : Prop where
  sound : t.Sound
  ordered : c.events.Pairwise (·.1 ≤ ·.1)
  listed : ∀ x ∈ t.events, ∃ e ∈ c.events, e.1 = x.1
  base : t.base.paths = c.base
  stackAt : ∀ o, (t.stackAt o).paths = c.pathsAt o

theorem told_of_pattern (p : Option DirectoryPattern) : Told { pattern := p } {} :=
  ⟨sound_of_pattern p, List.Pairwise.nil, nofun, rfl, fun _ => rfl⟩

theorem mem_setEvent {offset : Nat} {s : DirectoryStack} {es : List (Nat × DirectoryStack)}
    {x : Nat × DirectoryStack} (hx : x ∈ setEvent offset s es) : x = (offset, s) ∨ x ∈ es := by
  induction es with
  | nil => exact .inl (List.mem_singleton.mp hx)
  | cons e es ih =>
    rw [setEvent] at hx
    split at hx
    · exact List.mem_cons.mp hx
    · split at hx
      · exact (List.mem_cons.mp hx).imp id (List.mem_cons_of_mem e)
      · rcases List.mem_cons.mp hx with rfl | hx
        · exact .inr List.mem_cons_self
        · exact (ih hx).imp id (List.mem_cons_of_mem e)

/-- Only changes leave stacks. -/
theorem mem_record {t : DirectoryTrail} {s : DirectoryStack} {es : List (Nat × DirectoryEvent)}
    {x : Nat × DirectoryStack} (hx : x ∈ (t.record s es).events) :
    x ∈ t.events ∨ ∃ e ∈ es, e.1 = x.1 := by
  induction es generalizing t s with
  | nil => exact .inl hx
  | cons e es ih =>
    obtain ⟨s', stamp, -, hrec⟩ := record_cons t s e es
    rw [hrec] at hx
    rcases ih hx with hx | ⟨e', he', heq⟩
    · exact (mem_setEvent hx).elim (fun h => .inr ⟨e, List.mem_cons_self, h ▸ rfl⟩) .inl
    · exact .inr ⟨e', List.mem_cons_of_mem e he', heq⟩

theorem mem_apply {t : DirectoryTrail} {es : List (Nat × DirectoryEvent)}
    {x : Nat × DirectoryStack} (hx : x ∈ (t.apply es).events) :
    x ∈ t.events ∨ ∃ e ∈ es, e.1 = x.1 := by
  unfold DirectoryTrail.apply at hx
  split at hx
  · exact .inl hx
  · dsimp only at hx
    split at hx <;> exact mem_record hx

namespace Told

variable {t : DirectoryTrail} {c : Chronicle} (h : t.Told c)
include h

theorem apply {es : List (Nat × DirectoryEvent)} (hes : c.Allows (.apply es)) :
    (t.apply es).Told (c.call (.apply es)) := by
  have hfollow : t.Follow es := by
    refine ⟨hes.1, fun e he x hx => ?_⟩
    obtain ⟨y, hy, heq⟩ := h.listed x hx
    exact heq ▸ hes.2 e he y hy
  have hrec := recorded_apply h.sound hfollow
  refine ⟨h.sound.apply hfollow, ?_, fun x hx => ?_, ?_, fun o => ?_⟩
  · exact List.pairwise_append.mpr ⟨h.ordered, hes.1, fun x hx e he => hes.2 e he x hx⟩
  · rcases mem_apply hx with hx | ⟨e, he, heq⟩
    · obtain ⟨y, hy, heq⟩ := h.listed x hx
      exact ⟨y, List.mem_append_left es hy, heq⟩
    · exact ⟨e, List.mem_append_right c.events he, heq⟩
  · rw [hrec.base, h.base]
    rfl
  · rw [hrec.paths, h.stackAt]
    exact (pathsAt_append _ _ _ _).symm

theorem truncateFrom (k : Nat) : (t.truncateFrom k).Told (c.call (.truncateFrom k)) := by
  refine ⟨h.sound.truncateFrom k, h.ordered.filter _, fun x hx => ?_, h.base, fun o => ?_⟩
  · obtain ⟨hx, hlt⟩ := List.mem_filter.mp hx
    obtain ⟨e, he, heq⟩ := h.listed x hx
    exact ⟨e, List.mem_filter.mpr ⟨he, heq ▸ hlt⟩, heq⟩
  · rw [stackAt_truncateFrom, c.pathsAt_truncateFrom]
    split
    · exact h.base
    · exact h.stackAt _

theorem base_shiftBack (delta : Nat) : (t.shiftBack delta).base.paths = c.pathsBefore delta := by
  rw [DirectoryTrail.base_shiftBack, c.pathsBefore_eq]
  split
  · exact h.base
  · exact h.stackAt _

theorem shiftBack (delta : Nat) : (t.shiftBack delta).Told (c.call (.shiftBack delta)) := by
  refine ⟨h.sound.shiftBack delta, ?_, fun x hx => ?_, h.base_shiftBack delta, fun o => ?_⟩
  · exact List.pairwise_map.mpr
      ((h.ordered.filter _).imp fun hle => Nat.sub_le_sub_right hle delta)
  · obtain ⟨x', hx', rfl⟩ := List.mem_map.mp hx
    obtain ⟨hx', hle⟩ := List.mem_filter.mp hx'
    obtain ⟨e, he, heq⟩ := h.listed x' hx'
    exact ⟨(e.1 - delta, e.2), List.mem_map_of_mem (List.mem_filter.mpr ⟨he, heq ▸ hle⟩),
      congrArg (· - delta) heq⟩
  · rw [stackAt_shiftBack h.sound.sorted, c.pathsAt_shiftBack h.ordered, h.stackAt]

theorem frameAt (o : Nat) : (t.frameAt o).2.Told c := by
  obtain ⟨memo, hmemo⟩ := t.frameAt_snd o
  have hsound := h.sound.frameAt o
  rw [hmemo] at hsound ⊢
  exact ⟨hsound, h.ordered, h.listed, h.base, h.stackAt⟩

theorem call {a : Call} (ha : c.Allows a) : (t.call a).Told (c.call a) := by
  cases a with
  | apply es => exact h.apply ha
  | truncateFrom k => exact h.truncateFrom k
  | shiftBack delta => exact h.shiftBack delta
  | clear => exact ⟨Sound.clear t, List.Pairwise.nil, nofun, rfl, fun _ => rfl⟩
  | frameAt o => exact h.frameAt o

theorem callAll {calls : List Call} (ha : c.AllowsAll calls) :
    (t.callAll calls).Told (c.callAll calls) := by
  induction calls generalizing t c with
  | nil => exact h
  | cons a calls ih => exact ih (h.call ha.1) ha.2

/-- The stack that is answered. -/
theorem frameAt_eq (o : Nat) : (t.frameAt o).1.paths = c.pathsAt o := by
  rw [frameAt_fst h.sound, h.stackAt]

end Told

/-! ## 4. What is answered -/

/-- Whether a call leaves alone what was in effect before the first change. -/
def Call.KeepsBase : Call → Prop
  | .shiftBack _ | .clear => False
  | _ => True

theorem base_record (t : DirectoryTrail) (s : DirectoryStack) (es : List (Nat × DirectoryEvent)) :
    (t.record s es).base = t.base := by
  induction es generalizing t s with
  | nil => rfl
  | cons e es ih =>
    obtain ⟨s', stamp, -, hrec⟩ := record_cons t s e es
    rw [hrec, ih]
    rfl

theorem base_call (t : DirectoryTrail) {a : Call} (ha : a.KeepsBase) : (t.call a).base = t.base := by
  cases a with
  | apply es =>
    show (t.apply es).base = t.base
    unfold DirectoryTrail.apply
    split
    · rfl
    · dsimp only
      split <;> exact base_record t _ es
  | truncateFrom k => rfl
  | shiftBack delta => exact ha.elim
  | clear => exact ha.elim
  | frameAt o =>
    obtain ⟨memo, hmemo⟩ := t.frameAt_snd o
    show (t.frameAt o).2.base = t.base
    rw [hmemo]

theorem base_callAll (t : DirectoryTrail) {calls : List Call} (ha : ∀ a ∈ calls, a.KeepsBase) :
    (t.callAll calls).base = t.base := by
  induction calls generalizing t with
  | nil => rfl
  | cons a calls ih =>
    have hrest := ih (t.call a) fun b hb => ha b (List.mem_cons_of_mem a hb)
    exact hrest.trans (base_call t (ha a List.mem_cons_self))

/-- Without changes, what was in effect before the first one is in effect everywhere. -/
theorem frameAt_truncateFrom_zero (t : DirectoryTrail) (o : Nat) :
    ((t.truncateFrom 0).frameAt o).1 = t.base := by
  have hmemo : (t.truncateFrom 0).memo = none := by
    unfold truncateFrom
    cases t.memo <;> simp
  have hevents : (t.truncateFrom 0).events = [] := by simp [truncateFrom]
  unfold frameAt
  rw [hmemo]
  show (t.truncateFrom 0).stackAt o = t.base
  unfold stackAt
  rw [hevents]
  rfl

/-- Whatever is done to a trail, if changes are recorded in order: it answers as the chronicle does,
and what it remembers makes no difference; when it loses its head it answers what it answered
further on, and what the lost changes left behind stays, however much is dropped later. -/
theorem frameAt_callAll (p : Option DirectoryPattern) (calls : List Call)
    (h : Chronicle.AllowsAll {} calls) :
    let t := callAll { pattern := p } calls
    let c := Chronicle.callAll {} calls
    (∀ o, (t.frameAt o).1.paths = c.pathsAt o)
      ∧ (∀ o, (t.frameAt o).1 = (frameAt { t with memo := none } o).1)
      ∧ (∀ delta o, ((t.shiftBack delta).frameAt o).1 = (t.frameAt (o + delta)).1)
      ∧ ∀ delta later, (∀ a ∈ later, a.KeepsBase) → ∀ o,
        ((((t.shiftBack delta).callAll later).truncateFrom 0).frameAt o).1.paths
          = c.pathsBefore delta := by
  intro t c
  have ht : t.Told c := (told_of_pattern p).callAll h
  refine ⟨ht.frameAt_eq, fun o => ?_, fun delta o => ?_, fun delta later hlater o => ?_⟩
  · rw [frameAt_fst ht.sound]
    rfl
  · rw [frameAt_fst (ht.sound.shiftBack delta), frameAt_fst ht.sound,
      stackAt_shiftBack ht.sound.sorted]
  · rw [frameAt_truncateFrom_zero, base_callAll _ hlater, ht.base_shiftBack]

/-- A build goes down two directories, and from the second to a third one beside it.  The trail is
asked in between; then it loses its head, and all that is left is dropped. -/
theorem frameAt_callAll_recursive :
    let calls : List Call :=
      [.apply [(0, .enter (.ofString "/top")), (40, .enter (.ofString "sub"))], .frameAt 50,
        .apply [(60, .leave), (60, .enter (.ofString "lib"))], .frameAt 70]
    let t := callAll { pattern := none } calls
    Chronicle.AllowsAll {} calls
      ∧ (t.frameAt 65).1.paths = [.ofString "/top/lib", .ofString "/top"]
      ∧ ((((t.shiftBack 30).callAll [.frameAt 5, .truncateFrom 20]).truncateFrom 0).frameAt 9).1.paths
        = [.ofString "/top"] := by
  intro calls t
  have h : Chronicle.AllowsAll {} calls := by decide
  obtain ⟨hanswer, -, -, hleft⟩ := frameAt_callAll none calls h
  refine ⟨h, ?_, ?_⟩
  · rw [hanswer]
    decide
  · rw [hleft 30 _ (by simp [Call.KeepsBase])]
    decide

end DirectoryTrail

end BuildLog
