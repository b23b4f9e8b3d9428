import BuildLog.Proofs.Loading
import BuildLog.Rule.Document

/-!
# Groups — where the groups of a match begin and end

A group notes its beginning and its end apart, each time a thread comes by.  Between the two the
thread is inside the group, and it cannot end there.  So the last beginning that a match has noted
comes before the last end, and the two give a span.
-/

namespace BuildLog.Pattern

/-! ## 1. Inside and outside -/

/-- Whether a thread may be inside group `i`: it may where the number is 0, and it must where a mark
has just begun the group.  At the end of the program it may not. -/
def Measure.inside (i : Nat) : Measure where
  final := 1
  take _ n := some n
  mark slot n :=
    if slot = 2 * i then if n = 0 then some 0 else none
    else if slot = 2 * i + 1 then some 0 else some n
  take_mono := by
    intro set m n k h hk
    cases hk
    exact ⟨m, h, rfl⟩
  mark_mono := by
    intro slot m n k h hk
    by_cases hbegin : slot = 2 * i
    · by_cases hn : n = 0
      · have hm : m = 0 := Nat.le_zero.mp (hn ▸ h)
        exact ⟨k, Nat.le_refl k, by simpa [hbegin, hn, hm] using hk⟩
      · simp [hbegin, hn] at hk
    · by_cases hend : slot = 2 * i + 1
      · exact ⟨k, Nat.le_refl k, by simpa [hend] using hk⟩
      · have hnk : n = k := by simpa [hbegin, hend] using hk
        exact ⟨m, hnk ▸ h, by simp [hbegin, hend]⟩

namespace Measure

theorem mark_inside_begin (i n : Nat) :
    (inside i).mark (2 * i) n = if n = 0 then some 0 else none := if_pos rfl

theorem mark_inside_end (i n : Nat) : (inside i).mark (2 * i + 1) n = some 0 := by
  simp [inside]

theorem mark_inside_other {i slot : Nat} (h : slot / 2 ≠ i) (n : Nat) :
    (inside i).mark slot n = some n := by
  have hother : slot ≠ 2 * i ∧ slot ≠ 2 * i + 1 := by omega
  simp [inside, hother]

end Measure

/-- There is a bound, and it does not exceed the number it is computed from. -/
def Lowers (bound : Nat → Option Nat) : Prop := ∀ n, ∃ m ≤ n, bound n = some m

section

variable {bound : Nat → Option Nat}

theorem Lowers.copies (h : Lowers bound) (count : Nat) : Lowers (copiesBound bound count) := by
  induction count with
  | zero => exact fun n => ⟨n, Nat.le_refl n, rfl⟩
  | succ count ih =>
    intro n
    obtain ⟨k, hk, hbound⟩ := h n
    obtain ⟨m, hm, hcopies⟩ := ih k
    refine ⟨m, Nat.le_trans hm hk, ?_⟩
    rw [copiesBound, hbound, Option.bind_some, hcopies]

theorem Lowers.optional (h : Lowers bound) (stop count : Nat) {n : Nat} (hn : n ≤ stop) :
    ∃ m ≤ stop, optionalBound bound stop count n = some m := by
  induction count generalizing n with
  | zero => exact ⟨n, hn, rfl⟩
  | succ count ih =>
    obtain ⟨k, hk, hbound⟩ := h n
    have hmax : max k stop ≤ stop := by omega
    rw [optionalBound, hbound, Option.bind_some]
    exact ih hmax

theorem Lowers.loop (h : Lowers bound) (n : Nat) : loopBound bound n = some n := by
  obtain ⟨k, hk, hbound⟩ := h n
  have hmax : max k n = n := Nat.max_eq_right hk
  rw [loopBound, hbound, Option.bind_some, hmax, hbound, Option.bind_some, if_pos hk]

end

/-- Whatever an expression is, a thread can come from outside a group and get outside again. -/
theorem Expr.lowers_inside (i : Nat) (e : Expr) : Lowers (e.bound (.inside i)) := by
  induction e with
  | empty | one | look => exact fun n => ⟨n, Nat.le_refl n, rfl⟩
  | group j name e ih =>
    intro n
    rw [bound]
    by_cases hj : j = i
    · -- all of the group's body is inside it
      subst hj
      obtain ⟨m, hm, hbound⟩ := ih 0
      obtain rfl : m = 0 := Nat.le_zero.mp hm
      refine ⟨0, Nat.zero_le n, ?_⟩
      rw [Measure.mark_inside_end, Option.bind_some, hbound, Option.bind_some,
        Measure.mark_inside_begin, if_pos rfl]
    · have hbegin : 2 * j / 2 ≠ i := by omega
      have hend : (2 * j + 1) / 2 ≠ i := by omega
      obtain ⟨m, hm, hbound⟩ := ih n
      refine ⟨m, hm, ?_⟩
      rw [Measure.mark_inside_other hend, Option.bind_some, hbound, Option.bind_some,
        Measure.mark_inside_other hbegin]
  | cat a b iha ihb =>
    intro n
    obtain ⟨k, hk, hb⟩ := ihb n
    obtain ⟨m, hm, ha⟩ := iha k
    refine ⟨m, Nat.le_trans hm hk, ?_⟩
    rw [bound, hb, Option.bind_some, ha]
  | alt a b iha ihb =>
    intro n
    obtain ⟨j, hj, ha⟩ := iha n
    obtain ⟨k, hk, hb⟩ := ihb n
    refine ⟨max j k, Nat.max_le.mpr ⟨hj, hk⟩, ?_⟩
    rw [bound, ha, hb, Option.bind_some, Option.map_some]
  | times e low high greedy ih =>
    intro n
    cases high with
    | some high =>
      obtain ⟨k, hk, hoptional⟩ := ih.optional n (high - low) (Nat.le_refl n)
      obtain ⟨m, hm, hcopies⟩ := ih.copies low k
      refine ⟨m, Nat.le_trans hm hk, ?_⟩
      rw [bound, hoptional, Option.bind_some, hcopies]
    | none =>
      obtain ⟨m, hm, hcopies⟩ := ih.copies (low - 1) n
      refine ⟨m, hm, ?_⟩
      rw [bound, ih.loop n, Option.bind_some, hcopies]

/-! ## 2. Marks -/

/-- The last mark of group `i`, where the last one comes first. -/
def lastMark? (i : Nat) (marks : List (Nat × Nat)) : Option (Nat × Nat) :=
  marks.find? fun m => m.1 / 2 = i

/-- The marks of a thread were noted in order, and it is inside group `i` if the last mark of the
group begins it. -/
structure Thread.Orderly (i : Nat) (v : Nat → Nat) (t : Thread) : Prop where
  noted : ∀ m ∈ t.marks, m.2 ≤ t.pos
  descending : t.marks.Pairwise fun a b => b.2 ≤ a.2
  inside : ∀ p, lastMark? i t.marks = some (2 * i, p) → v t.pc = 0

theorem Thread.Orderly.becomes {i : Nat} {v : Nat → Nat} {text : Array Char} {t u : Thread}
    (h : t.Orderly i v) (hu : t.Becomes (.inside i) v text u) : u.Orderly i v := by
  cases hu with
  | take _ _ htake hk =>
    cases htake
    exact ⟨fun m hm => Nat.le_succ_of_le (h.noted m hm), h.descending,
      fun p hp => Nat.le_zero.mp (h.inside p hp ▸ hk)⟩
  | stay hk =>
    exact ⟨h.noted, h.descending, fun p hp => Nat.le_zero.mp (h.inside p hp ▸ hk)⟩
  | @mark slot next k hmark hk =>
    refine ⟨?_, List.pairwise_cons.mpr ⟨h.noted, h.descending⟩, fun p hp => ?_⟩
    · intro m hm
      rcases List.mem_cons.mp hm with rfl | hm
      · exact Nat.le_refl _
      · exact h.noted m hm
    · show v next = 0
      by_cases hslot : slot / 2 = i
      · -- the mark just noted is the last one of the group, and it begins it
        have hbegin : slot = 2 * i := by
          simp [lastMark?, hslot] at hp
          exact hp.1
        rw [hbegin, Measure.mark_inside_begin] at hmark
        by_contra hne
        rw [if_neg hne] at hmark
        cases hmark
      · rw [Measure.mark_inside_other hslot] at hmark
        cases hmark
        have hlast : lastMark? i t.marks = some (2 * i, p) := by
          simpa [lastMark?, hslot] using hp
        have := h.inside p hlast
        omega

/-- If the last mark of a group ends it, it ends it no earlier than the last beginning. -/
theorem lookup_le_lookup {i p q : Nat} {marks : List (Nat × Nat)}
    (hdesc : marks.Pairwise fun a b => b.2 ≤ a.2)
    (hlast : ∀ r, lastMark? i marks ≠ some (2 * i, r)) (hp : marks.lookup (2 * i) = some p)
    (hq : marks.lookup (2 * i + 1) = some q) : p ≤ q := by
  induction marks with
  | nil => simp at hp
  | cons m marks ih =>
    obtain ⟨slot, r⟩ := m
    obtain ⟨hle, hdesc⟩ := List.pairwise_cons.mp hdesc
    by_cases hbegin : slot = 2 * i
    · exact absurd (by simp [lastMark?, hbegin]) (hlast r)
    · have hne : (2 * i == slot) = false := by simpa using Ne.symm hbegin
      rw [List.lookup_cons, hne] at hp
      by_cases hend : slot = 2 * i + 1
      · rw [List.lookup_cons, hend, BEq.rfl] at hq
        obtain ⟨before, after, hmarks, -⟩ := List.lookup_eq_some_iff.mp hp
        have hmem : (2 * i, p) ∈ marks := by simp [hmarks]
        exact Option.some.inj hq ▸ hle _ hmem
      · have hne' : (2 * i + 1 == slot) = false := by simpa using Ne.symm hend
        rw [List.lookup_cons, hne'] at hq
        have hslot : slot / 2 ≠ i := by omega
        refine ih hdesc (fun r' => ?_) hp hq
        simpa [lastMark?, hslot] using hlast r'

/-! ## 3. Matches -/

/-- The groups of a match of an expression begin before they end. -/
theorem Expr.group_ordered_of_find? {e : Expr} {text : Array Char} {start i : Nat} {m : Match}
    {s : Span} (hm : e.program.find? text start = some m) (hs : m.group i = some s)
    (hle : m.span.start ≤ m.span.stop) : s.start ≤ s.stop := by
  rw [Match.group] at hs
  split at hs
  · exact Option.some.inj hs ▸ hle
  · split at hs
    · rename_i p q hp hq
      rw [← Option.some.inj hs]
      obtain ⟨n, hn, hbound⟩ := e.lowers_inside i (Measure.inside i).final
      have hstart : ∀ v : Nat → Nat, v e.program.entry ≤ n →
          Thread.Orderly i v ⟨e.program.entry, m.span.start, []⟩ :=
        fun v _ => ⟨by simp, by simp, by simp [lastMark?]⟩
      obtain ⟨v, t, ht, hend, -, hmarks⟩ :=
        exists_thread_of_find? hbound hm hstart fun _ _ _ ht hu => ht.becomes hu
      -- a thread that ends is outside the group
      have hlast : ∀ r, lastMark? i m.marks ≠ some (2 * i, r) := by
        intro r hr
        rw [ht.inside r (hmarks ▸ hr)] at hend
        exact absurd hend (Nat.not_succ_le_zero 0)
      exact lookup_le_lookup (hmarks ▸ ht.descending) hlast hp hq
    · cases hs

end BuildLog.Pattern

namespace BuildLog

/-! ## 4. Patterns that are read -/

/-- The program of a pattern is that of its expression. -/
def Pattern.Compiled (p : Pattern) : Prop := p.program = p.expr.program

/-- The patterns of some rules are compiled. -/
def RuleSet.Compiled (s : RuleSet) : Prop := ∀ r ∈ s.rules, r.pattern.Compiled

theorem Pattern.compiled_of_ofString {f : Flags} {source : String} {p : Pattern}
    (h : ofString f source = .ok p) : p.Compiled := by
  unfold ofString at h
  split at h
  · cases h
  · split at h
    · cases h
      rfl
    · cases h

theorem Rule.compiled_of_ofPattern {name source : String} {r : Rule}
    (h : ofPattern name source = .ok r) : r.pattern.Compiled := by
  unfold ofPattern at h
  split at h
  · rename_i p hp
    cases h
    exact Pattern.compiled_of_ofString hp
  · cases h

theorem RuleRecord.compiled_of_rule {record : RuleRecord} {r : Rule} (h : record.rule = .ok r) :
    r.pattern.Compiled := by
  unfold rule at h
  split at h
  · cases h
  · rename_i r' hr'
    dsimp only at h
    split at h
    · cases h
    · cases h
      have hp : r'.pattern.Compiled := Rule.compiled_of_ofPattern hr'
      exact hp

namespace RuleSet

theorem compiled_of_rulesOf {records : List RuleRecord} {rs : List Rule}
    (h : rulesOf records = .ok rs) : ∀ r ∈ rs, r.pattern.Compiled := by
  induction records generalizing rs with
  | nil =>
    cases h
    simp
  | cons record records ih =>
    unfold rulesOf at h
    split at h
    · cases h
    · rename_i r hr
      split at h
      · cases h
      · rename_i rs' hrs'
        cases h
        intro q hq
        rcases List.mem_cons.mp hq with rfl | hq
        · exact RuleRecord.compiled_of_rule hr
        · exact ih hrs' q hq

/-- The rules of a document are compiled. -/
theorem compiled_of_ofDocument {text : String} {s : RuleSet} (h : ofDocument text = .ok s) :
    s.Compiled := by
  unfold ofDocument at h
  split at h
  · cases h
  · split at h
    · cases h
    · rename_i rs hrs
      rw [Compiled, ofRules_eq_ok h]
      exact compiled_of_rulesOf hrs

/-- The rules of the catalog are compiled. -/
theorem compiled_of_builtin {s : RuleSet} (h : builtin = .ok s) : s.Compiled := by
  rw [builtin_eq_ok] at h
  cases h
  intro r hr
  obtain ⟨g, -, rfl⟩ := List.mem_map.mp hr
  rfl

theorem Compiled.only {s s' : RuleSet} (h : s.Compiled) {names : List String}
    (hs' : s.only names = .ok s') : s'.Compiled :=
  fun r hr => h r (mem_of_only hs' r hr)

theorem Compiled.extended {s s' : RuleSet} (h : s.Compiled) {rs : List Rule}
    (hrs : ∀ r ∈ rs, r.pattern.Compiled) (hs' : s.extended rs = .ok s') : s'.Compiled := by
  intro r hr
  rw [ofRules_eq_ok hs'] at hr
  rcases List.mem_append.mp hr with hr | hr
  · exact h r hr
  · exact hrs r hr

end RuleSet

/-- One span lies in another. -/
def Span.LiesIn (s t : Span) : Prop := t.start ≤ s.start ∧ s.stop ≤ t.stop

theorem Span.LiesIn.shift {s t : Span} (h : s.LiesIn t) (delta : Nat) :
    (s.shift delta).LiesIn (t.shift delta) :=
  ⟨Nat.add_le_add_right h.1 delta, Nat.add_le_add_right h.2 delta⟩

/-- The groups of a match of a compiled pattern are spans of the text, and lie in the match. -/
theorem Pattern.Compiled.group_lies {p : Pattern} (hp : p.Compiled) {text : Array Char}
    {m : Match} (hm : m ∈ p.allMatches text) {i : Nat} {s : Span} (hs : m.group i = some s) :
    s.start ≤ s.stop ∧ s.stop ≤ text.size ∧ s.LiesIn m.span := by
  have hwithin : m.Within text 0 := findAll_within (Nat.zero_le _) m hm
  obtain ⟨start, hfind⟩ := find?_of_mem_findAll hm
  rw [hp] at hfind
  have hlies := hwithin.group hs
  exact ⟨Expr.group_ordered_of_find? hfind hs hwithin.start_le_stop,
    Nat.le_trans hlies.2 hwithin.stop_le, hlies⟩

end BuildLog
