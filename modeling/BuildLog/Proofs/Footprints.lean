import BuildLog.Pattern.Footprint
import Mathlib.Algebra.Order.Ring.Nat

/-!
# Footprints — expressions whose automata are small enough

How many bytes an automaton takes at most is read off the expression: each part takes a certain
number, whatever has been counted before it.  If these numbers add up to no more than the limit,
then the expression is not refused.
-/

namespace BuildLog.Pattern.Footprint

/-! ## 1. Counting with a bound -/

/-- Counting a part succeeds if there is room for `n` bytes, takes no more, and answers what `Q`
says. -/
def Takes {α : Type} (part : Count α) (n : Nat) (Q : α → Prop := fun _ => True) : Prop :=
  ∀ t : Tally, t.bytes + n ≤ limit → ∃ a t', part.run t = some (a, t') ∧ t'.bytes ≤ t.bytes + n ∧ Q a

section

variable {α β : Type} {x : Count α} {f : α → Count β} {m n : Nat} {P : α → Prop} {Q : β → Prop}

theorem Takes.mono (h : Takes x m P) (hmn : m ≤ n) : Takes x n P := by
  intro t ht
  obtain ⟨a, t', hrun, hbytes, hP⟩ := h t (by omega)
  exact ⟨a, t', hrun, by omega, hP⟩

theorem takes_pure {a : α} (ha : P a) : Takes (pure a) 0 P := fun t _ => ⟨a, t, rfl, by omega, ha⟩

/-- Of two parts, one after the other, the second takes what is left. -/
theorem Takes.bind {k : Nat} (hx : Takes x m P) (hf : ∀ a, P a → Takes (f a) n Q)
    (hk : m + n ≤ k) : Takes (x >>= f) k Q := by
  intro t ht
  obtain ⟨a, t', hrun, hbytes, ha⟩ := hx t (by omega)
  obtain ⟨b, t'', hrun', hbytes', hb⟩ := hf a ha t' (by omega)
  refine ⟨b, t'', ?_, by omega, hb⟩
  rw [StateT.run_bind, hrun]
  exact hrun'

theorem takes_get : Takes get 0 := fun t _ => ⟨t, t, rfl, by omega, trivial⟩

theorem takes_modify {g : Tally → Tally} (hg : ∀ t, (g t).bytes = t.bytes) :
    Takes (modify g) 0 := fun t _ => ⟨(), g t, rfl, by rw [hg]; omega, trivial⟩

end

theorem takes_take (n : Nat) : Takes (take n) n := by
  intro t ht
  refine ⟨(), { t with bytes := t.bytes + n }, ?_, Nat.le_refl _, trivial⟩
  have hroom : ¬ limit < t.bytes + n := Nat.not_lt.mpr ht
  simp [take, hroom]

theorem takes_state (more : Nat) : Takes (state more) (32 + more) := by
  refine (takes_take _).bind (n := 0) (fun _ _ t _ => ?_) (Nat.le_refl _)
  exact ⟨t.states, { t with states := t.states + 1 }, rfl, Nat.le_refl _, trivial⟩

theorem takes_plain (n : Nat) : Takes (plain n) (32 * n) := by
  induction n with
  | zero => exact takes_pure trivial
  | succ n ih => exact (takes_state 0).bind (fun _ _ => ih) (by omega)

theorem takes_choices (n : Nat) : Takes (choices n) (4 * n) :=
  (takes_take (n * choiceBytes)).mono (by unfold choiceBytes; omega)

section

variable {part : Count Unit} {m : Nat} (h : Takes part m)
include h

theorem Takes.times (n : Nat) : Takes (times part n) (n * m) := by
  induction n with
  | zero => exact (takes_pure trivial).mono (Nat.zero_le _)
  | succ n ih => exact h.bind (fun _ _ => ih) (by rw [Nat.succ_mul]; omega)

theorem Takes.branch : Takes (branch part) (m + 72) := by
  unfold Footprint.branch
  refine takes_get.bind (n := m + 72) (fun t _ => ?_) (by omega)
  dsimp only
  refine h.bind (n := 72) (fun _ _ => ?_) (by omega)
  refine Takes.bind (n := 72) (takes_modify fun _ => rfl) (fun _ _ => ?_) (by omega)
  split
  · exact (takes_pure trivial).mono (by omega)
  · split
    · exact (takes_plain 2).bind (fun _ _ => takes_choices 2) (by omega)
    · exact (takes_choices 1).mono (by omega)

theorem Takes.choice : Takes (choice part) m := by
  unfold Footprint.choice
  refine takes_get.bind (n := m) (fun t _ => ?_) (by omega)
  dsimp only
  refine Takes.bind (n := m) (takes_modify fun _ => rfl) (fun _ _ => ?_) (by omega)
  exact h.bind (fun _ _ => takes_modify fun _ => rfl) (by omega)

end

/-! ## 2. Classes -/

/-- How many ranges some sequences have. -/
def rangesOf (seqs : List (List ByteRange)) : Nat := (seqs.map List.length).sum

theorem rangesOf_cons (seq : List ByteRange) (seqs : List (List ByteRange)) :
    rangesOf (seq :: seqs) = seq.length + rangesOf seqs := rfl

theorem takes_find (known : Known) (key : List Nat) {build : Count Nat} {n : Nat}
    (h : Takes build n) : Takes (known.find key build) n := by
  have hbuild : Takes (do let id ← build; return (id, { known with
      table := known.table.insert (hash key % known.places) (key, id) })) n :=
    h.bind (fun _ _ => takes_pure trivial) (Nat.le_refl _)
  unfold Known.find
  dsimp only
  split
  · split
    · exact (takes_pure trivial).mono (Nat.zero_le _)
    · exact hbuild
  · exact hbuild

theorem byFirst_ne_nil {seqs : List (List ByteRange)} (h : seqs.all List.isEmpty = false) :
    byFirst seqs ≠ [] := by
  induction seqs with
  | nil => cases h
  | cons seq seqs ih =>
    cases seq with
    | nil => exact ih (by simpa using h)
    | cons r rs =>
      rw [byFirst]
      split
      · split <;> exact List.cons_ne_nil _ _
      · exact List.cons_ne_nil _ _

/-- Each group has lost one range at least. -/
theorem length_byFirst_le (seqs : List (List ByteRange)) :
    ((byFirst seqs).map fun g => rangesOf g.2).sum + (byFirst seqs).length ≤ rangesOf seqs := by
  induction seqs with
  | nil => exact Nat.le_refl _
  | cons seq seqs ih =>
    rw [rangesOf_cons]
    cases seq with
    | nil => exact Nat.le_trans ih (Nat.le_add_left _ _)
    | cons r rs =>
      rw [byFirst]
      generalize byFirst seqs = groups at ih
      rcases groups with _ | ⟨⟨s, group⟩, groups⟩
      · simp [rangesOf]
      · dsimp only
        split
        · simp only [List.map_cons, List.sum_cons, List.length_cons, rangesOf_cons] at ih ⊢
          omega
        · have hone : rangesOf [rs] = rs.length := Nat.add_zero _
          simp only [List.map_cons, List.sum_cons, List.length_cons, hone] at ih ⊢
          omega

/-- The states behind some groups. -/
theorem takes_forwardStates {target depth : Nat}
    (hstate : ∀ seqs known, Takes (forwardState target depth seqs known) (40 * rangesOf seqs))
    (groups : List (ByteRange × List (List ByteRange))) (known : Known) :
    Takes (forwardStates target depth groups known) (40 * (groups.map fun g => rangesOf g.2).sum)
      fun r => r.1.length = 3 * groups.length := by
  induction groups generalizing known with
  | nil =>
    rw [forwardStates]
    exact takes_pure rfl
  | cons g groups ih =>
    rw [forwardStates, List.map_cons, List.sum_cons, Nat.mul_add]
    refine (hstate g.2 known).bind (fun _ _ => (ih _).bind (n := 0) (fun r hr => takes_pure ?_)
      (Nat.le_refl _)) (Nat.le_refl _)
    simp only [List.length_cons, hr]
    omega

theorem takes_forwardState (target depth : Nat) (seqs : List (List ByteRange)) (known : Known) :
    Takes (forwardState target depth seqs known) (40 * rangesOf seqs) := by
  induction depth generalizing seqs known with
  | zero =>
    rw [forwardState]
    exact (takes_pure trivial).mono (Nat.zero_le _)
  | succ depth ih =>
    rw [forwardState]
    split
    · exact (takes_pure trivial).mono (Nat.zero_le _)
    · rename_i hall
      have hpos := List.length_pos_iff.mpr (byFirst_ne_nil (by simpa using hall))
      have hle := length_byFirst_le seqs
      -- the ranges that the groups have lost pay for this state and its transitions
      refine (takes_forwardStates ih (byFirst seqs) known).bind
        (n := 32 + (byFirst seqs).length * 8) (fun r hr => ?_) (by omega)
      obtain ⟨key, known⟩ := r
      dsimp only at hr ⊢
      rw [hr, Nat.mul_div_cancel_left _ (by decide)]
      exact takes_find known key (takes_state _)

theorem takes_forwardClass (seqs : List (List ByteRange)) :
    Takes (forwardClass seqs) (32 + 40 * rangesOf seqs) :=
  (takes_state 0).bind (fun target _ => (takes_forwardState target 4 seqs _).bind
    (fun _ _ => takes_pure trivial) (Nat.le_refl _)) (Nat.le_refl _)

theorem takes_backwardStates (target : Nat) (seq : List ByteRange) (known : Known) :
    Takes (backwardStates target seq known) (32 * seq.length) := by
  induction seq generalizing target known with
  | nil => exact takes_pure trivial
  | cons r rs ih =>
    rw [backwardStates]
    exact (takes_find known _ (takes_state 0)).bind (fun _ _ => ih _ _)
      (by rw [List.length_cons]; omega)

theorem takes_backwardBranches (target : Nat) (seqs : List (List ByteRange)) (known : Known) :
    Takes (backwardBranches target seqs known) (32 * rangesOf seqs + 4 * seqs.length) := by
  induction seqs generalizing known with
  | nil => exact takes_pure trivial
  | cons seq seqs ih =>
    rw [backwardBranches, rangesOf_cons, List.length_cons]
    exact (takes_backwardStates target seq known).bind (fun _ _ => (takes_choices 1).bind
      (fun _ _ => ih _) (Nat.le_refl _)) (by omega)

theorem takes_backwardClass (seqs : List (List ByteRange)) :
    Takes (backwardClass seqs) (64 + 32 * rangesOf seqs + 4 * seqs.length) :=
  (takes_state 0).bind (fun _ _ => (takes_state 0).bind (fun target _ =>
    takes_backwardBranches target seqs _) (Nat.le_refl _)) (by omega)

/-- The sequences for the characters from `lo` to `hi`, with at most `fuel` cuts one in the other. -/
def sequencesIn : (fuel lo hi : Nat) → List (List ByteRange)
  | 0, _, _ => []
  | fuel + 1, lo, hi =>
    match Utf8.cut? lo hi with
    | some m =>
      if lo ≤ m ∧ m < hi then sequencesIn fuel lo m ++ sequencesIn fuel (m + 1) hi else []
    | none => [List.zipWith ByteRange.mk (Utf8.encode lo) (Utf8.encode hi)]

theorem sequencesOf_eq {fuel lo hi : Nat} (h : hi - lo < fuel) :
    Utf8.sequencesOf lo hi = sequencesIn fuel lo hi := by
  induction fuel generalizing lo hi with
  | zero => cases h
  | succ fuel ih =>
    rw [Utf8.sequencesOf, sequencesIn]
    cases Utf8.cut? lo hi with
    | none => rfl
    | some m =>
      dsimp only
      split
      · rw [ih (by omega), ih (by omega)]
      · rfl

/-- The sequences for the characters of a range, none of which is a surrogate. -/
def sequencesFor (lo hi : Nat) : List (List ByteRange) :=
  let before := min hi 0xD7FF
  let after := max lo 0xE000
  (if lo ≤ before then sequencesIn (before - lo + 1) lo before else [])
    ++ (if after ≤ hi then sequencesIn (hi - after + 1) after hi else [])

theorem sequences_eq (lo hi : Nat) : Utf8.sequences lo hi = sequencesFor lo hi := by
  unfold Utf8.sequences sequencesFor
  dsimp only
  rw [sequencesOf_eq (Nat.lt_succ_self _), sequencesOf_eq (Nat.lt_succ_self _)]

theorem length_encode_le (n : Nat) : (Utf8.encode n).length ≤ 4 := by
  unfold Utf8.encode
  split
  · simp
  · split
    · simp
    · split <;> simp

theorem length_le_of_mem_sequencesIn {fuel lo hi : Nat} {seq : List ByteRange}
    (h : seq ∈ sequencesIn fuel lo hi) : seq.length ≤ 4 := by
  induction fuel generalizing lo hi with
  | zero => simp [sequencesIn] at h
  | succ fuel ih =>
    rw [sequencesIn] at h
    split at h
    · split at h
      · exact (List.mem_append.mp h).elim ih ih
      · simp at h
    · rw [List.mem_singleton] at h
      subst h
      have := length_encode_le lo
      simp
      omega

/-- A sequence has at most as many ranges as a character has bytes. -/
theorem rangesOf_sequences_le (rs : List (Nat × Nat)) :
    rangesOf (rs.flatMap fun r => sequencesFor r.1 r.2)
      ≤ 4 * (rs.flatMap fun r => sequencesFor r.1 r.2).length := by
  have hle : ∀ seqs : List (List ByteRange), (∀ seq ∈ seqs, seq.length ≤ 4) →
      rangesOf seqs ≤ 4 * seqs.length := by
    intro seqs h
    induction seqs with
    | nil => exact Nat.le_refl _
    | cons seq seqs ih =>
      obtain ⟨hseq, hseqs⟩ := List.forall_mem_cons.mp h
      have := ih hseqs
      rw [rangesOf_cons, List.length_cons]
      omega
  refine hle _ fun seq hseq => ?_
  obtain ⟨r, -, hr⟩ := List.mem_flatMap.mp hseq
  rcases List.mem_append.mp hr with h | h <;> split at h
  · exact length_le_of_mem_sequencesIn h
  · simp at h
  · exact length_le_of_mem_sequencesIn h
  · simp at h

/-- The bytes that a set takes at most. -/
def setWeight (s : CharSet) : Nat :=
  if s.isAscii then 64 + 8 * s.ranges.length
  else 64 + 164 * (s.ranges.flatMap fun r => sequencesFor r.1 r.2).length

theorem takes_countSet (backward : Bool) (s : CharSet) :
    Takes (countSet backward s) (setWeight s) := by
  unfold countSet setWeight
  split
  · exact (takes_plain 1).bind (fun _ _ => (takes_state _).bind (fun _ _ => takes_pure trivial)
      (Nat.le_refl _)) (by unfold transitionBytes; omega)
  · have hranges := rangesOf_sequences_le s.ranges
    simp only [← sequences_eq] at hranges ⊢
    split
    · exact (takes_backwardClass _).mono (by omega)
    · exact (takes_forwardClass _).mono (by omega)

/-! ## 3. Choices of words -/

/-- How many letters some words have, with one more for each word. -/
def lettersOf (ws : List (List Nat)) : Nat := (ws.map List.length).sum

theorem lettersOf_cons (w : List Nat) (ws : List (List Nat)) :
    lettersOf (w :: ws) = w.length + lettersOf ws := rfl

/-- How many letters the words behind the first bytes have, with one more for each word. -/
def lettersBehind (groups : List (Nat × List (List Nat))) : Nat :=
  (groups.map fun g => lettersOf g.2 + g.2.length).sum

theorem insertWord_le (b : Nat) (w : List Nat) (groups : List (Nat × List (List Nat))) :
    lettersBehind (insertWord b w groups) = lettersBehind groups + (w.length + 1)
      ∧ (insertWord b w groups).length ≤ groups.length + 1 := by
  induction groups with
  | nil => exact ⟨by simp [insertWord, lettersBehind, lettersOf], Nat.le_refl _⟩
  | cons g groups ih =>
    obtain ⟨c, ws⟩ := g
    rw [insertWord]
    split
    · exact ⟨by simp [lettersBehind, lettersOf]; omega, Nat.le_refl _⟩
    · split
      · exact ⟨by simp [lettersBehind, lettersOf]; omega, Nat.le_succ _⟩
      · obtain ⟨hletters, hlength⟩ := ih
        refine ⟨?_, Nat.succ_le_succ hlength⟩
        simp only [lettersBehind, List.map_cons, List.sum_cons] at hletters ⊢
        omega

theorem byByte_le (ws : List (List Nat)) :
    lettersBehind (byByte ws) ≤ lettersOf ws ∧ (byByte ws).length ≤ ws.length := by
  -- what is done with each word, whatever function does it
  have hfold : ∀ {f : List (Nat × List (List Nat)) → List Nat → List (Nat × List (List Nat))},
      (∀ groups, f groups [] = groups) → (∀ groups b w, f groups (b :: w) = insertWord b w groups) →
      ∀ groups, lettersBehind (ws.foldl f groups) ≤ lettersBehind groups + lettersOf ws
        ∧ (ws.foldl f groups).length ≤ groups.length + ws.length := by
    intro f hnil hcons
    induction ws with
    | nil => exact fun _ => ⟨Nat.le_refl _, Nat.le_refl _⟩
    | cons w ws ih =>
      intro groups
      rw [List.foldl_cons, lettersOf_cons, List.length_cons]
      cases w with
      | nil =>
        have h := ih groups
        rw [hnil]
        exact ⟨by simp; omega, by omega⟩
      | cons b w =>
        have hinsert := insertWord_le b w groups
        have h := ih (insertWord b w groups)
        rw [hcons, List.length_cons]
        omega
  have h : lettersBehind (byByte ws) ≤ lettersBehind [] + lettersOf ws
      ∧ (byByte ws).length ≤ 0 + ws.length := by
    unfold byByte
    exact hfold (fun _ => rfl) (fun _ _ _ => rfl) []
  have hnil : lettersBehind [] = 0 := rfl
  rw [hnil, Nat.zero_add, Nat.zero_add] at h
  exact h

/-- What the words between empty words are, in all. -/
theorem pieces_le (begun ended : Bool) (ws : List (List Nat)) :
    let ps := pieces begun ended ws
    (ps.map lettersOf).sum = lettersOf ws ∧ (ps.map List.length).sum ≤ ws.length
      ∧ ps.length ≤ ws.length + 1 ∧ ps ≠ [] := by
  induction ws generalizing begun ended with
  | nil => exact ⟨rfl, Nat.le_refl _, Nat.le_refl _, List.cons_ne_nil _ _⟩
  | cons w ws ih =>
    dsimp only
    cases w with
    | nil =>
      rw [pieces, lettersOf_cons, List.length_nil, Nat.zero_add, List.length_cons]
      split
      · obtain ⟨h₁, h₂, h₃, h₄⟩ := ih begun ended
        exact ⟨h₁, by omega, by omega, h₄⟩
      · obtain ⟨h₁, h₂, h₃, -⟩ := ih begun true
        refine ⟨?_, ?_, ?_, List.cons_ne_nil _ _⟩
        · simpa [lettersOf] using h₁
        · simp only [List.map_cons, List.sum_cons, List.length_nil]
          omega
        · rw [List.length_cons]
          omega
    | cons b w =>
      obtain ⟨h₁, h₂, h₃, h₄⟩ := ih true ended
      rw [pieces.eq_3 _ _ _ _ (List.cons_ne_nil b w), lettersOf_cons]
      generalize pieces true ended ws = ps at h₁ h₂ h₃ h₄
      cases ps with
      | nil => exact absurd rfl h₄
      | cons p ps =>
        simp only [List.map_cons, List.sum_cons, List.length_cons, lettersOf_cons] at h₁ h₂ h₃ ⊢
        exact ⟨by omega, by omega, by omega, List.cons_ne_nil _ _⟩

theorem takes_groupStates {depth : Nat}
    (hwords : ∀ ws, Takes (wordStates depth ws) (120 * (lettersOf ws + ws.length)))
    (groups : List (Nat × List (List Nat))) :
    Takes (groupStates depth groups) (120 * lettersBehind groups) := by
  induction groups with
  | nil =>
    rw [groupStates]
    exact takes_pure trivial
  | cons g groups ih =>
    rw [groupStates]
    refine (hwords g.2).bind (fun _ _ => ih) ?_
    simp only [lettersBehind, List.map_cons, List.sum_cons]
    omega

theorem takes_pieceStates {depth : Nat}
    (hwords : ∀ ws, Takes (wordStates depth ws) (120 * (lettersOf ws + ws.length)))
    (ps : List (List (List Nat))) : Takes (pieceStates depth ps)
      (120 * (ps.map lettersOf).sum + 32 * ps.length + 8 * (ps.map List.length).sum) := by
  induction ps with
  | nil =>
    rw [pieceStates]
    exact takes_pure trivial
  | cons p ps ih =>
    obtain ⟨hletters, hlength⟩ := byByte_le p
    simp only [List.map_cons, List.sum_cons, List.length_cons]
    rw [pieceStates]
    refine (takes_groupStates hwords (byByte p)).bind (n := 120 * (ps.map lettersOf).sum
      + 32 * (ps.length + 1) + 8 * (p.length + (ps.map List.length).sum)) (fun _ _ => ?_) (by omega)
    dsimp only
    split
    · exact ih.mono (by omega)
    · exact (takes_plain 1).bind (fun _ _ => ih) (by omega)
    · exact (takes_state _).bind (fun _ _ => ih) (by unfold transitionBytes; omega)

theorem takes_wordStates (depth : Nat) (ws : List (List Nat)) :
    Takes (wordStates depth ws) (120 * (lettersOf ws + ws.length)) := by
  induction depth generalizing ws with
  | zero =>
    rw [wordStates]
    exact (takes_pure trivial).mono (Nat.zero_le _)
  | succ depth ih =>
    rw [wordStates]
    split
    · exact (takes_pure trivial).mono (Nat.zero_le _)
    · rename_i hall
      have hpos : ws ≠ [] := by
        rintro rfl
        exact hall rfl
      have hpos := List.length_pos_iff.mpr hpos
      obtain ⟨h₁, h₂, h₃, -⟩ := pieces_le false false ws
      dsimp only
      have hfilter := List.length_filter_le (!·.isEmpty) (pieces false false ws)
      -- there is a word, so that one more for each word pays for the last state
      refine (takes_pieceStates ih _).bind (fun _ _ => (takes_state _).bind
        (fun _ _ => takes_pure trivial) (Nat.le_refl _)) ?_
      rw [h₁]
      unfold choiceBytes
      omega

theorem takes_countWords (ws : List (List Nat)) :
    Takes (countWords ws) (32 + 120 * (lettersOf ws + ws.length)) :=
  (takes_plain 1).bind (fun _ _ => takes_wordStates _ ws) (by omega)

/-! ## 4. Expressions -/

/-- The bytes that a repetition takes at most, if each part takes `n`. -/
def timesWeight (n low : Nat) : (high : Option Nat) → Nat
  | none => (low + 1) * n + 112
  | some high => low * n + (high - low) * (n + 40) + 72

theorem Takes.countTimes {part : Count Unit} {n : Nat} (h : Takes part n) (consumes : Bool)
    (low : Nat) (high : Option Nat) :
    Takes (countTimes part consumes low high) (timesWeight n low high) := by
  have hpart : Takes (do Footprint.plain 1; part; choices 2) (n + 40) :=
    (takes_plain 1).bind (fun _ _ => h.bind (fun _ _ => takes_choices 2) (Nat.le_refl _)) (by omega)
  cases high with
  | none =>
    simp only [timesWeight]
    by_cases hlow : low = 0
    · subst hlow
      rw [Footprint.countTimes]
      split
      · exact hpart.mono (by omega)
      · exact h.bind (fun _ _ => (takes_plain 3).bind (fun _ _ => takes_choices 4)
          (Nat.le_refl _)) (by omega)
    · rw [Footprint.countTimes]
      · exact (h.times low).bind (fun _ _ => (takes_plain 1).bind (fun _ _ => takes_choices 2)
          (Nat.le_refl _)) (by rw [Nat.add_mul]; omega)
      · exact hlow
  | some high =>
    simp only [timesWeight]
    by_cases hopt : low = 0 ∧ high = 1
    · obtain ⟨rfl, rfl⟩ := hopt
      rw [Footprint.countTimes]
      exact (takes_plain 1).bind (fun _ _ => h.bind (fun _ _ => (takes_plain 1).bind
        (fun _ _ => takes_choices 2) (Nat.le_refl _)) (Nat.le_refl _)) (by omega)
    · have hmore : Takes (if low < high then (do
          plain 1
          Footprint.times (do plain 1; part; choices 2) (high - low) : Count Unit) else pure ())
          ((high - low) * (n + 40) + 32) := by
        split
        · exact (takes_plain 1).bind (fun _ _ => hpart.times _) (by omega)
        · exact (takes_pure trivial).mono (Nat.zero_le _)
      rw [Footprint.countTimes]
      · dsimp only
        split
        · exact (takes_plain 1).bind (fun _ _ => hmore) (by omega)
        · exact (h.times low).bind (fun _ _ => hmore) (by omega)
      · exact fun hlow hhigh => hopt ⟨hlow, hhigh⟩

/-- The bytes that a choice takes at most if its branches are words. -/
def wordWeight (backward : Bool) (e : Expr) : Nat :=
  match e.branches.mapM (word? backward) with
  | some ws => 32 + 120 * (lettersOf ws + ws.length)
  | none => 0

/-- The bytes that an expression takes at most, whether its groups are noted or not. -/
def weight (backward : Bool) : Expr → Nat
  | .empty | .look _ => 32
  | .one s =>
    match (Expr.one s).char? with
    | some c => 32 * (Utf8.encode c).length
    | none => setWeight s
  | .group _ _ e => weight backward e + 64
  | .cat a b => weight backward a + weight backward b
  | .alt a b => wordWeight backward (.alt a b) + weight backward a + weight backward b + 144
  | .times e low high _ => timesWeight (weight backward e) low high

/-- A part may have a mark before it. -/
theorem Takes.marked {rest : Count Unit} {n : Nat} (h : Takes rest n) (groups : Bool) :
    Takes (do
      if groups then plain 1
      rest) (n + 32) := by
  dsimp only
  split
  · exact (takes_plain 1).bind (fun _ _ => h) (by omega)
  · exact h.mono (by omega)

theorem weight_one_le (backward : Bool) (s : CharSet) :
    weight backward (.one s) ≤ setWeight s + 128 := by
  rw [weight]
  split
  · rename_i c _
    have h := length_encode_le c
    omega
  · exact Nat.le_add_right _ _

theorem weight_foldl_cat (backward : Bool) (e : Expr) (es : List Expr) :
    weight backward (es.foldl .cat e) = weight backward e + (es.map (weight backward)).sum := by
  induction es generalizing e with
  | nil => rfl
  | cons a es ih => rw [List.foldl_cons, ih, weight, List.map_cons, List.sum_cons, Nat.add_assoc]

theorem takes_countExpr (k : Kind) (e : Expr) :
    Takes (countExpr k e) (weight k.backward e)
      ∧ Takes (countBranches k e) (weight k.backward e + 72) := by
  induction e with
  | empty =>
    rw [countExpr, countBranches]
    exact ⟨takes_plain 1, (takes_plain 1).branch⟩
  | look c =>
    rw [countBranches, countExpr]
    exact ⟨takes_plain 1, (takes_plain 1).branch⟩
  | one s =>
    have h : Takes (countExpr k (.one s)) (weight k.backward (.one s)) := by
      rw [countExpr, weight]
      cases (Expr.one s).char? with
      | some c => exact takes_plain _
      | none => exact takes_countSet k.backward s
    rw [countBranches]
    exact ⟨h, h.branch⟩
  | group i name e ih =>
    have h : Takes (countExpr k (.group i name e)) (weight k.backward (.group i name e)) := by
      have hafter : Takes (if k.groups then plain 1 else pure ()) 32 := by
        split
        · exact takes_plain 1
        · exact (takes_pure trivial).mono (Nat.zero_le _)
      rw [countExpr, weight]
      exact (ih.1.bind (fun _ _ => hafter) (Nat.le_refl _)).marked k.groups
    rw [countBranches]
    exact ⟨h, h.branch⟩
  | cat a b iha ihb =>
    have h : Takes (countExpr k (.cat a b)) (weight k.backward (.cat a b)) := by
      rw [countExpr, weight]
      split
      · exact ihb.1.bind (fun _ _ => iha.1) (by omega)
      · exact iha.1.bind (fun _ _ => ihb.1) (Nat.le_refl _)
    rw [countBranches]
    exact ⟨h, h.branch⟩
  | alt a b iha ihb =>
    have hbranches := iha.2.bind (fun _ _ => ihb.2) (Nat.le_refl _)
    rw [countExpr, countBranches, weight]
    refine ⟨?_, hbranches.mono (by omega)⟩
    unfold wordWeight
    -- a choice of words is told apart by their bytes, any other one branch by branch
    cases (Expr.alt a b).branches.mapM (word? k.backward) with
    | some ws => exact (takes_countWords ws).mono (by simp only; omega)
    | none => exact hbranches.choice.mono (by simp only; omega)
  | times e low high greedy ih =>
    have h : Takes (countExpr k (.times e low high greedy))
        (weight k.backward (.times e low high greedy)) := by
      rw [countExpr, weight]
      exact ih.1.countTimes _ low high
    rw [countBranches]
    exact ⟨h, h.branch⟩

/-- The bytes that the automaton of several expressions takes at most. -/
def weightAll (backward : Bool) (es : List Expr) : Nat :=
  200 + (es.map fun e => weight backward e + 200).sum

theorem takes_countAll (k : Kind) (es : List Expr) :
    Takes (countAll k es) (weightAll k.backward es) := by
  have hany : Takes (do plain 1; let _ ← state transitionBytes; return ()) 72 :=
    (takes_plain 1).bind (fun _ _ => (takes_state _).bind (fun _ _ => takes_pure trivial)
      (Nat.le_refl _)) (by unfold transitionBytes; omega)
  have hbody : ∀ e, Takes (branch do
      if k.groups then plain 1
      countExpr k e
      if k.groups then plain 1
      plain 1) (weight k.backward e + 200) := fun e =>
    ((takes_countExpr k e).1.bind (fun _ _ => (takes_plain 1).marked k.groups)
      (Nat.le_refl _)).marked k.groups |>.branch.mono (by omega)
  have hbodies : Takes (es.forM fun e => branch do
      if k.groups then plain 1
      countExpr k e
      if k.groups then plain 1
      plain 1) (es.map fun e => weight k.backward e + 200).sum := by
    induction es with
    | nil => exact takes_pure trivial
    | cons e es ih => exact (hbody e).bind (fun _ _ => ih) (Nat.le_refl _)
  unfold countAll weightAll
  by_cases hanchored : es.all (anchored k.backward)
  · rw [if_pos hanchored]
    exact (takes_plain 1).bind (fun _ _ => hbodies.choice) (by omega)
  · rw [if_neg hanchored]
    exact (hany.countTimes true 0 none).bind (fun _ _ => hbodies.choice)
      (by simp only [timesWeight]; omega)

/-- An expression, or several, whose automata are small enough are not refused. -/
theorem fits_of_weightAll {es : List Expr} (h : ∀ backward, weightAll backward es ≤ limit)
    (groups : Bool) : fits groups es := by
  have hcount : ∀ k, ((countAll k es).run {}).isSome := by
    intro k
    obtain ⟨a, t, hrun, -⟩ := takes_countAll k es {} (by simpa using h k.backward)
    rw [hrun]
    rfl
  rw [fits, hcount, hcount]
  rfl

end BuildLog.Pattern.Footprint
