import BuildLog.Directory
import BuildLog.Proofs.Matches

/-!
# Trails — a trail answers what its events come to

A trail keeps stacks, and remembers its last answer.  Here the answer at an offset is related to
the announced changes themselves: it is the stack that they lead to, one after the other, from the
stack before the first.  Only the paths of a stack are compared, not its stamps.
-/

namespace BuildLog

/-! ## 1. Announced changes -/

namespace DirectoryStack

/-- The directories entered and not left, the innermost first. -/
def paths (s : DirectoryStack) : List Path := s.entered.map (·.path)

theorem directory?_eq (s : DirectoryStack) : s.directory? = s.paths.head? := by
  rw [directory?, paths, List.head?_map]

end DirectoryStack

/-- The directories after one more change. -/
def DirectoryEvent.act (ps : List Path) : DirectoryEvent → List Path
  | .enter dir => (match ps.head? with | some base => base.join dir | none => dir) :: ps
  | .leave => ps.drop 1

theorem DirectoryStack.paths_push (s : DirectoryStack) (stamp : Nat) (dir : Path) :
    (s.push stamp dir).paths = DirectoryEvent.act s.paths (.enter dir) := by
  unfold push DirectoryEvent.act
  rw [← directory?_eq]
  cases s.directory? with
  | none => rfl
  | some base => rfl

theorem DirectoryStack.paths_pop (s : DirectoryStack) :
    s.pop.paths = DirectoryEvent.act s.paths .leave := List.map_drop

/-- The directories after some changes in turn. -/
def pathsAfter (es : List (Nat × DirectoryEvent)) (ps : List Path) : List Path :=
  es.foldl (fun ps e => e.2.act ps) ps

/-- The directories at an offset: those after the changes up to it. -/
def pathsAt (es : List (Nat × DirectoryEvent)) (ps : List Path) (offset : Nat) : List Path :=
  pathsAfter (es.filter (·.1 ≤ offset)) ps

theorem pathsAfter_append (es es' : List (Nat × DirectoryEvent)) (ps : List Path) :
    pathsAfter (es ++ es') ps = pathsAfter es' (pathsAfter es ps) := List.foldl_append

theorem pathsAt_append (es es' : List (Nat × DirectoryEvent)) (ps : List Path) (offset : Nat) :
    pathsAt (es ++ es') ps offset = pathsAt es' (pathsAt es ps offset) offset := by
  rw [pathsAt, List.filter_append, pathsAfter_append]
  rfl

theorem pathsAt_of_lt {es : List (Nat × DirectoryEvent)} {offset : Nat}
    (h : ∀ e ∈ es, offset < e.1) (ps : List Path) : pathsAt es ps offset = ps := by
  have hnil : es.filter (·.1 ≤ offset) = [] := by
    rw [List.filter_eq_nil_iff]
    intro e he
    have := h e he
    simp only [decide_eq_true_eq]
    omega
  rw [pathsAt, hnil]
  rfl

namespace DirectoryTrail

variable {t : DirectoryTrail}

/-! ## 2. Sound trails -/

/-- The events are in order, and the remembered answer is right wherever it is used. -/
structure Sound (t : DirectoryTrail) : Prop where
  sorted : t.events.Pairwise (·.1 < ·.1)
  memo : ∀ m, t.memo = some m → ∀ o, TrailMemo.covers m o → t.stackAt o = m.stack
  next : ∀ m, t.memo = some m → ∀ n, m.nextEvent = some n → ∃ e ∈ t.events, e.1 = n

theorem sound_of_pattern (p : Option DirectoryPattern) : Sound { pattern := p } :=
  ⟨List.Pairwise.nil, nofun, nofun⟩

theorem stackAt_congr {u : DirectoryTrail} {o p : Nat}
    (h : t.events.filter (·.1 ≤ o) = u.events.filter (·.1 ≤ p)) (hb : t.base = u.base) :
    t.stackAt o = u.stackAt p := by
  rw [stackAt, stackAt, h, hb]

/-- Between an offset and the next event, the stack stays. -/
theorem stackAt_of_covers (hs : t.events.Pairwise (·.1 < ·.1)) {o p : Nat} {s : DirectoryStack}
    (h : TrailMemo.covers ⟨o, s, t.nextEventAfter o⟩ p) : t.stackAt p = t.stackAt o := by
  simp only [TrailMemo.covers, Bool.and_eq_true, decide_eq_true_eq] at h
  obtain ⟨hop, hnext⟩ := h
  apply stackAt_congr _ rfl
  apply List.filter_congr
  intro e he
  rw [decide_eq_decide]
  refine ⟨fun hep => ?_, fun heo => Nat.le_trans heo hop⟩
  by_contra hlt
  -- `e` is after `o`, so the next event is `e` or before it, and is not after `p`
  unfold nextEventAfter at hnext
  cases hf : t.events.find? (o < ·.1) with
  | none =>
    have := List.find?_eq_none.mp hf e he
    simp only [decide_eq_true_eq] at this
    omega
  | some e' =>
    rw [hf] at hnext
    simp only [Option.map_some, Option.all_some, decide_eq_true_eq] at hnext
    obtain ⟨-, l₁, l₂, hl, hnot⟩ := List.find?_eq_some_iff_append.mp hf
    rw [hl] at he hs
    have hlast := (List.pairwise_append.mp hs).2.1
    rcases List.mem_append.mp he with he | he
    · have := hnot e he
      simp only [Bool.not_eq_true', decide_eq_false_iff_not] at this
      omega
    · rcases List.mem_cons.mp he with rfl | he
      · omega
      · have := (List.pairwise_cons.mp hlast).1 e he
        omega

theorem frameAt_fst (h : t.Sound) (o : Nat) : (t.frameAt o).1 = t.stackAt o := by
  unfold frameAt
  cases hm : t.memo.filter (TrailMemo.covers · o) with
  | none => rfl
  | some m =>
    have hm := Option.filter_eq_some_iff.mp hm
    exact (h.memo m hm.1 o hm.2).symm

theorem frameAt_snd (t : DirectoryTrail) (o : Nat) :
    ∃ memo, (t.frameAt o).2 = { t with memo := memo } := by
  unfold frameAt
  cases t.memo.filter (TrailMemo.covers · o) with
  | none => exact ⟨_, rfl⟩
  | some m => exact ⟨t.memo, rfl⟩

theorem Sound.frameAt (h : t.Sound) (o : Nat) : (t.frameAt o).2.Sound := by
  unfold DirectoryTrail.frameAt
  cases t.memo.filter (TrailMemo.covers · o) with
  | some m => exact h
  | none =>
    -- a new answer is good up to the next event, which is one of the recorded ones
    refine ⟨h.sorted, fun m hm p hp => ?_, fun m hm n hn => ?_⟩
    · cases hm
      exact stackAt_of_covers h.sorted hp
    · cases hm
      obtain ⟨e, he, rfl⟩ := Option.map_eq_some_iff.mp hn
      exact ⟨e, List.mem_of_find?_eq_some he, rfl⟩

/-! ## 3. Dropping events -/

/-- After the events from `k` on are dropped, what held just before `k` holds from there on. -/
theorem stackAt_truncateFrom (t : DirectoryTrail) (k o : Nat) :
    (t.truncateFrom k).stackAt o = if k = 0 then t.base else t.stackAt (min o (k - 1)) := by
  by_cases hk : k = 0
  · subst hk
    simp [truncateFrom, stackAt]
  · rw [if_neg hk]
    refine stackAt_congr (t := t.truncateFrom k) (u := t) ?_ rfl
    show (t.events.filter (·.1 < k)).filter (·.1 ≤ o) = _
    rw [List.filter_filter]
    apply List.filter_congr
    intro e _
    rw [← Bool.decide_and, decide_eq_decide]
    omega

theorem Sound.truncateFrom (h : t.Sound) (k : Nat) : (t.truncateFrom k).Sound := by
  -- an answer is kept only if neither it nor the event that ends it is dropped
  have hstale : ∀ m, (t.truncateFrom k).memo = some m →
      t.memo = some m ∧ m.offset < k ∧ ∀ n, m.nextEvent = some n → n < k := by
    intro m hm
    unfold DirectoryTrail.truncateFrom at hm
    dsimp only at hm
    split at hm
    · cases hm
    · rename_i hfresh
      rw [hm] at hfresh
      simp only [Option.any_some, Bool.or_eq_true, decide_eq_true_eq, not_or, Nat.not_le] at hfresh
      refine ⟨hm, hfresh.1, fun n hn => ?_⟩
      simpa [hn] using hfresh.2
  refine ⟨h.sorted.filter _, fun m hm o ho => ?_, fun m hm n hn => ?_⟩
  · obtain ⟨hm, hoff, hnext⟩ := hstale m hm
    rw [stackAt_truncateFrom, if_neg (by omega)]
    -- asked at `o` or just before `k`: the kept answer covers both
    apply h.memo m hm
    simp only [TrailMemo.covers, Bool.and_eq_true, decide_eq_true_eq] at ho ⊢
    refine ⟨by omega, ?_⟩
    cases hn : m.nextEvent with
    | none => rfl
    | some n =>
      have := ho.2
      rw [hn] at this
      simp only [Option.all_some, decide_eq_true_eq] at this ⊢
      omega
  · obtain ⟨hm, -, hnext⟩ := hstale m hm
    obtain ⟨e, he, rfl⟩ := h.next m hm n hn
    exact ⟨e, List.mem_filter.mpr ⟨he, by simpa using hnext _ hn⟩, rfl⟩

theorem Sound.clear (t : DirectoryTrail) : t.clear.Sound := ⟨List.Pairwise.nil, nofun, nofun⟩

theorem Sound.shiftBack (h : t.Sound) (delta : Nat) : (t.shiftBack delta).Sound := by
  refine ⟨?_, nofun, nofun⟩
  show ((t.events.filter (delta ≤ ·.1)).map fun e => (e.1 - delta, e.2)).Pairwise (·.1 < ·.1)
  rw [List.pairwise_map, List.pairwise_filter]
  refine h.sorted.imp fun hlt ha hb => ?_
  simp only [decide_eq_true_eq] at ha hb
  omega

/-! ## 4. Recording events -/

/-- An event that comes last is put at the end, in place of one at the same offset. -/
theorem setEvent_of_last {es : List (Nat × DirectoryStack)} (hs : es.Pairwise (·.1 < ·.1))
    {offset : Nat} (h : ∀ e ∈ es, e.1 ≤ offset) (s : DirectoryStack) :
    setEvent offset s es = es.filter (·.1 < offset) ++ [(offset, s)] := by
  induction es with
  | nil => rfl
  | cons e es ih =>
    have he := h e List.mem_cons_self
    have hlt := (List.pairwise_cons.mp hs).1
    rw [setEvent, if_neg (by omega)]
    by_cases heq : offset = e.1
    · -- an event at the last offset has none after it
      have hnil : es = [] := by
        cases es with
        | nil => rfl
        | cons e' es =>
          have h₁ := hlt e' List.mem_cons_self
          have h₂ := h e' (List.mem_cons_of_mem e List.mem_cons_self)
          omega
      subst hnil
      simp [heq]
    · rw [if_neg heq, ih (List.pairwise_cons.mp hs).2 fun x hx => h x (List.mem_cons_of_mem e hx),
        List.filter_cons_of_pos (by simp only [decide_eq_true_eq]; omega), List.cons_append]

/-- The trail with the stack set from an offset on. -/
def set (t : DirectoryTrail) (offset : Nat) (s : DirectoryStack) : DirectoryTrail :=
  { t with events := setEvent offset s t.events }

/-- No event is recorded after an offset. -/
def EndsBy (t : DirectoryTrail) (offset : Nat) : Prop := ∀ e ∈ t.events, e.1 ≤ offset

theorem lastStack_eq_stackAt {offset : Nat} (h : t.EndsBy offset) : t.lastStack = t.stackAt offset := by
  have hall : t.events.filter (·.1 ≤ offset) = t.events :=
    List.filter_eq_self.mpr fun e he => decide_eq_true (h e he)
  rw [lastStack, stackAt, hall]

section Set

variable {offset : Nat} {s : DirectoryStack}

theorem events_set (hs : t.events.Pairwise (·.1 < ·.1)) (h : t.EndsBy offset) :
    (t.set offset s).events = t.events.filter (·.1 < offset) ++ [(offset, s)] :=
  setEvent_of_last hs h s

theorem sorted_set (hs : t.events.Pairwise (·.1 < ·.1)) (h : t.EndsBy offset) :
    (t.set offset s).events.Pairwise (·.1 < ·.1) := by
  rw [events_set hs h, List.pairwise_append]
  refine ⟨hs.filter _, List.pairwise_singleton _ _, fun e he x hx => ?_⟩
  rw [List.mem_singleton] at hx
  subst hx
  simpa using (List.mem_filter.mp he).2

theorem endsBy_set (hs : t.events.Pairwise (·.1 < ·.1)) (h : t.EndsBy offset) :
    (t.set offset s).EndsBy offset := by
  intro e he
  rw [events_set hs h] at he
  rcases List.mem_append.mp he with he | he
  · exact h e (List.mem_filter.mp he).1
  · rw [List.mem_singleton] at he
    subst he
    exact Nat.le_refl _

theorem stackAt_set (hs : t.events.Pairwise (·.1 < ·.1)) (h : t.EndsBy offset) (o : Nat) :
    (t.set offset s).stackAt o = if offset ≤ o then s else t.stackAt o := by
  unfold stackAt
  rw [events_set hs h, List.filter_append]
  by_cases ho : offset ≤ o
  · rw [if_pos ho, List.filter_cons_of_pos (by simpa using ho), List.filter_nil,
      List.getLast?_concat]
  · rw [if_neg ho, List.filter_cons_of_neg (by simpa using ho), List.filter_nil, List.append_nil,
      List.filter_filter]
    -- before the offset, the event that was set has not happened
    have hcongr : t.events.filter (fun e => decide (e.1 ≤ o) && decide (e.1 < offset))
        = t.events.filter (·.1 ≤ o) := by
      apply List.filter_congr
      intro e _
      rw [← Bool.decide_and, decide_eq_decide]
      omega
    rw [hcongr]
    rfl

theorem exists_event_set (hs : t.events.Pairwise (·.1 < ·.1)) (h : t.EndsBy offset) {n : Nat}
    (hn : ∃ e ∈ t.events, e.1 = n) : ∃ e ∈ (t.set offset s).events, e.1 = n := by
  obtain ⟨e, he, rfl⟩ := hn
  rw [events_set hs h]
  by_cases hlt : e.1 < offset
  · exact ⟨e, List.mem_append_left _ (List.mem_filter.mpr ⟨he, by simpa using hlt⟩), rfl⟩
  · have := h e he
    exact ⟨(offset, s), List.mem_append_right _ List.mem_cons_self, by show offset = e.1; omega⟩

end Set

/-- Further changes: they come in order, and after all recorded events. -/
structure Follow (t : DirectoryTrail) (es : List (Nat × DirectoryEvent)) : Prop where
  sorted : es.Pairwise (·.1 ≤ ·.1)
  endsBy : ∀ e ∈ es, t.EndsBy e.1

/-- What recording further changes comes to, seen from the trail before. -/
structure Recorded (t : DirectoryTrail) (es : List (Nat × DirectoryEvent))
    (u : DirectoryTrail) : Prop where
  pattern : u.pattern = t.pattern
  base : u.base = t.base
  sorted : u.events.Pairwise (·.1 < ·.1)
  exists_event : ∀ n, (∃ e ∈ t.events, e.1 = n) → ∃ e ∈ u.events, e.1 = n
  stackAt_of_lt : ∀ o, (∀ e ∈ es, o < e.1) → u.stackAt o = t.stackAt o
  paths : ∀ o, (u.stackAt o).paths = pathsAt es (t.stackAt o).paths o

theorem Recorded.nil (hs : t.events.Pairwise (·.1 < ·.1)) : Recorded t [] t :=
  ⟨rfl, rfl, hs, fun _ h => h, fun _ _ => rfl, fun _ => rfl⟩

/-- One change is recorded by setting the stack that it leads to; stamps count only the
enterings. -/
theorem record_cons (t : DirectoryTrail) (s : DirectoryStack) (e : Nat × DirectoryEvent)
    (es : List (Nat × DirectoryEvent)) :
    ∃ s' stamp, s'.paths = e.2.act s.paths
      ∧ t.record s (e :: es) = record { t.set e.1 s' with nextStamp := stamp } s' es := by
  obtain ⟨offset, ev⟩ := e
  cases ev with
  | enter dir => exact ⟨s.push t.nextStamp dir, t.nextStamp + 1, s.paths_push _ dir, rfl⟩
  | leave => exact ⟨s.pop, t.nextStamp, s.paths_pop, rfl⟩

theorem recorded_record {es : List (Nat × DirectoryEvent)} (hs : t.events.Pairwise (·.1 < ·.1))
    (h : t.Follow es) : Recorded t es (t.record t.lastStack es) := by
  induction es generalizing t with
  | nil => exact .nil hs
  | cons e es ih =>
    obtain ⟨s', stamp, hact, hrec⟩ := record_cons t t.lastStack e es
    have hend : t.EndsBy e.1 := h.endsBy e List.mem_cons_self
    have hle := (List.pairwise_cons.mp h.sorted).1
    -- `u` is the trail with the first change recorded; the others follow it
    let u : DirectoryTrail := { t.set e.1 s' with nextStamp := stamp }
    have hu : ∀ o, u.stackAt o = if e.1 ≤ o then s' else t.stackAt o := stackAt_set hs hend
    have huEnd : u.EndsBy e.1 := endsBy_set hs hend
    have hlast : u.lastStack = s' := by
      rw [lastStack_eq_stackAt huEnd, hu, if_pos (Nat.le_refl _)]
    have hrest := ih (t := u) (sorted_set hs hend)
      ⟨(List.pairwise_cons.mp h.sorted).2, fun x hx y hy =>
        Nat.le_trans (huEnd y hy) (hle x hx)⟩
    rw [hlast] at hrest
    rw [hrec]
    -- what the other changes come to from `u` on is what all of them come to from `t` on
    refine ⟨hrest.pattern, hrest.base, hrest.sorted, fun n hn => ?_, fun o ho => ?_, fun o => ?_⟩
    · exact hrest.exists_event n (exists_event_set hs hend hn)
    · have hlt := ho e List.mem_cons_self
      rw [hrest.stackAt_of_lt o fun x hx => ho x (List.mem_cons_of_mem e hx), hu,
        if_neg (by omega)]
    · rw [hrest.paths o, hu]
      by_cases heo : e.1 ≤ o
      · have hcur : t.lastStack = t.stackAt o :=
          lastStack_eq_stackAt fun y hy => Nat.le_trans (hend y hy) heo
        rw [if_pos heo, hact, hcur, pathsAt, pathsAt,
          List.filter_cons_of_pos (by simpa using heo)]
        rfl
      · rw [if_neg heo, pathsAt, pathsAt, List.filter_cons_of_neg (by simpa using heo)]

theorem recorded_apply {es : List (Nat × DirectoryEvent)} (hs : t.Sound) (h : t.Follow es) :
    Recorded t es (t.apply es) := by
  unfold apply
  split
  · rename_i hnil
    rw [List.isEmpty_iff.mp hnil]
    exact .nil hs.sorted
  · have hrec := recorded_record hs.sorted h
    dsimp only
    -- an answer may be forgotten, which changes no stack
    split
    · exact ⟨hrec.pattern, hrec.base, hrec.sorted, hrec.exists_event, hrec.stackAt_of_lt,
        hrec.paths⟩
    · exact hrec

theorem memo_record (t : DirectoryTrail) (s : DirectoryStack) (es : List (Nat × DirectoryEvent)) :
    (t.record s es).memo = t.memo := by
  induction es generalizing t s with
  | nil => rfl
  | cons e es ih =>
    obtain ⟨s', stamp, -, hrec⟩ := record_cons t s e es
    rw [hrec, ih]
    rfl

/-- An answer that is kept was good up to an event, and further changes come after that one. -/
theorem Sound.apply {es : List (Nat × DirectoryEvent)} (hs : t.Sound) (h : t.Follow es) :
    (t.apply es).Sound := by
  have hrec := recorded_apply hs h
  -- if there are changes, an answer is kept only if an event ends it
  have hkept : ∀ m, (t.apply es).memo = some m →
      t.memo = some m ∧ (es = [] ∨ ∃ n, m.nextEvent = some n) := by
    intro m hm
    unfold DirectoryTrail.apply at hm
    split at hm
    · rename_i hnil
      exact ⟨hm, .inl (List.isEmpty_iff.mp hnil)⟩
    · dsimp only at hm
      split at hm
      · cases hm
      · rename_i hany
        rw [memo_record] at hm hany
        rw [hm] at hany
        refine ⟨hm, .inr ?_⟩
        simpa [Option.ne_none_iff_exists'] using hany
  refine ⟨hrec.sorted, fun m hm o ho => ?_, fun m hm n hn => ?_⟩
  · obtain ⟨hm, hnext⟩ := hkept m hm
    rw [← hs.memo m hm o ho]
    apply hrec.stackAt_of_lt
    intro e he
    rcases hnext with rfl | ⟨n, hn⟩
    · cases he
    · obtain ⟨x, hx, rfl⟩ := hs.next m hm n hn
      have hxe := h.endsBy e he x hx
      simp only [TrailMemo.covers, hn, Option.all_some, Bool.and_eq_true, decide_eq_true_eq] at ho
      omega
  · exact hrec.exists_event n (hs.next m (hkept m hm).1 n hn)

end DirectoryTrail

/-! ## 5. Reading a text -/

namespace DirectoryPattern

theorem scan_pairwise (d : DirectoryPattern) (text : Text) (base : Nat) :
    (d.scan text base).Pairwise (·.1 ≤ ·.1) := by
  unfold scan
  rw [List.pairwise_filterMap]
  have hw : ∀ m ∈ d.pattern.allMatches text.toArray, m.span.start ≤ m.span.stop := fun m hm =>
    (Pattern.findAll_within (Nat.zero_le _) m hm).start_le_stop
  refine (Pattern.findAll_pairwise (Nat.zero_le _)).imp_of_mem fun hm _ hle a ha b hb => ?_
  obtain ⟨x, -, rfl⟩ := Option.map_eq_some_iff.mp ha
  obtain ⟨y, -, rfl⟩ := Option.map_eq_some_iff.mp hb
  have := hw _ hm
  show base + _ ≤ base + _
  omega

theorem le_of_mem_scan {d : DirectoryPattern} {text : Text} {base : Nat}
    {e : Nat × DirectoryEvent} (h : e ∈ d.scan text base) :
    base ≤ e.1 ∧ e.1 ≤ base + text.length := by
  obtain ⟨m, hm, he⟩ := List.mem_filterMap.mp h
  obtain ⟨x, -, rfl⟩ := Option.map_eq_some_iff.mp he
  have hw : m.Within text.toArray 0 := Pattern.findAll_within (Nat.zero_le _) m hm
  have h₁ := hw.start_le_stop
  have h₂ := hw.stop_le
  rw [List.size_toArray] at h₂
  show base ≤ base + m.span.start ∧ base + m.span.start ≤ base + text.length
  omega

end DirectoryPattern

/-- The changes that a pattern finds in a text, if there is one. -/
def turns (p : Option DirectoryPattern) (text : Text) (base : Nat) : List (Nat × DirectoryEvent) :=
  match p with
  | none => []
  | some d => d.scan text base

theorem turns_pairwise (p : Option DirectoryPattern) (text : Text) (base : Nat) :
    (turns p text base).Pairwise (·.1 ≤ ·.1) := by
  cases p with
  | none => exact List.Pairwise.nil
  | some d => exact d.scan_pairwise text base

theorem le_of_mem_turns {p : Option DirectoryPattern} {text : Text} {base : Nat}
    {e : Nat × DirectoryEvent} (h : e ∈ turns p text base) :
    base ≤ e.1 ∧ e.1 ≤ base + text.length := by
  cases p with
  | none => cases h
  | some d => exact DirectoryPattern.le_of_mem_scan h

/-- A text that is read after the events from there on were dropped adds the changes it
announces. -/
theorem DirectoryTrail.recorded_process {t : DirectoryTrail} (hs : t.Sound) (text : Text)
    (base : Nat) : Recorded (t.truncateFrom base) (turns t.pattern text base)
        ((t.truncateFrom base).process text base)
      ∧ ((t.truncateFrom base).process text base).Sound := by
  have hscan : (t.truncateFrom base).scan text base = turns t.pattern text base := rfl
  have hfollow : (t.truncateFrom base).Follow (turns t.pattern text base) := by
    refine ⟨turns_pairwise _ _ _, fun e he x hx => ?_⟩
    have h₁ := (le_of_mem_turns he).1
    have h₂ := (List.mem_filter.mp hx).2
    simp only [decide_eq_true_eq] at h₂
    omega
  unfold process
  rw [hscan]
  exact ⟨recorded_apply (hs.truncateFrom base) hfollow, (hs.truncateFrom base).apply hfollow⟩

end BuildLog
