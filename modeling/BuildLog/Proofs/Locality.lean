import BuildLog.Proofs.Reading

/-!
# Locality — patterns that look at few lines

A pattern is line by line if its matches in a text are those that it has in each line alone.  A rule
stays within its lines if a search that begins at a line finds what a search of the whole text finds
from there on, and if what it finds before the last lines does not depend on what follows them.
-/

namespace BuildLog

/-! ## 1. The lines of a text -/

namespace Text

/-- The lines of a text, each with its newline. -/
def lines : Text → List Text
  | [] => []
  | c :: t =>
    if c = '\n' then [c] :: lines t
    else
      match lines t with
      | [] => [[c]]
      | l :: ls => (c :: l) :: ls

theorem flatten_lines (t : Text) : (lines t).flatten = t := by
  induction t with
  | nil => rfl
  | cons c t ih =>
    rw [lines]
    split
    · rw [List.flatten_cons, ih]
      rfl
    · cases h : lines t with
      | nil =>
        rw [h] at ih
        rw [← ih]
        rfl
      | cons l ls =>
        rw [h, List.flatten_cons] at ih
        dsimp only
        rw [List.flatten_cons, List.cons_append, ih]

theorem lines_ne_nil {t : Text} (h : t ≠ []) : lines t ≠ [] := by
  intro hnil
  have hflat := flatten_lines t
  rw [hnil] at hflat
  exact h hflat.symm

theorem lines_append {a : Text} (ha : Terminated a) (b : Text) :
    lines (a ++ b) = lines a ++ lines b := by
  induction a with
  | nil => rfl
  | cons c a ih =>
    rw [List.cons_append, lines, lines]
    by_cases hc : c = '\n'
    · subst hc
      have ha' : Terminated a := terminated_singleton_newline.of_append ha
      rw [if_pos rfl, if_pos rfl, ih ha', List.cons_append]
    · rw [if_neg hc, if_neg hc]
      have hne : a ≠ [] := by
        rintro rfl
        exact not_terminated_append hc [] ha
      -- without its first character, the text is terminated still
      have ha' : Terminated a := by
        rcases terminated_iff.mp ha with h | h
        · cases h
        · rw [List.getLast?_cons] at h
          cases hl : a.getLast? with
          | none => exact absurd (List.getLast?_eq_none_iff.mp hl) hne
          | some d =>
            rw [hl] at h
            exact terminated_iff.mpr (.inr (hl.trans h))
      rw [ih ha']
      cases h : lines a with
      | nil => exact absurd h (lines_ne_nil hne)
      | cons l ls => rfl

end Text

/-! ## 2. Line by line -/

/-- The matches that begin in each line, when each is searched alone; an empty one behind a line's
newline begins in the next line. -/
def Pattern.hitsInLines (p : Pattern) : (base : Nat) → List Text → List Found
  | _, [] => []
  | base, l :: ls =>
    (p.hits l base).filter (·.start < base + l.length) ++ p.hitsInLines (base + l.length) ls

/-- The matches in a text are those in its lines taken alone. -/
def Pattern.LineByLine (p : Pattern) : Prop :=
  ∀ (t : Text) (base : Nat),
    (p.hits t base).filter (·.start < base + t.length) = p.hitsInLines base t.lines

namespace Pattern

variable {p : Pattern}

theorem hitsInLines_append (base : Nat) (ks ls : List Text) :
    p.hitsInLines base (ks ++ ls)
      = p.hitsInLines base ks ++ p.hitsInLines (base + ks.flatten.length) ls := by
  induction ks generalizing base with
  | nil => rfl
  | cons k ks ih =>
    rw [List.cons_append, hitsInLines, hitsInLines, ih, List.append_assoc, List.flatten_cons,
      List.length_append, Nat.add_assoc]

/-- In a line-by-line text, what begins before a line start is found before it, and the rest
behind it. -/
theorem LineByLine.hits_append (h : p.LineByLine) {a : Text} (ha : Text.Terminated a) (b : Text)
    (base : Nat) :
    (p.hits (a ++ b) base).filter (·.start < base + a.length + b.length)
      = (p.hits a base).filter (·.start < base + a.length)
        ++ (p.hits b (base + a.length)).filter (·.start < base + a.length + b.length) := by
  have hwhole := h (a ++ b) base
  rw [List.length_append, ← Nat.add_assoc] at hwhole
  rw [hwhole, Text.lines_append ha, hitsInLines_append, ← h a base, Text.flatten_lines,
    ← h b (base + a.length)]

section Append

variable (h : p.LineByLine) {a : Text} (ha : Text.Terminated a) (b : Text) (base : Nat)
  {q : Nat → Bool}
include h ha

theorem LineByLine.filter_left (hq : ∀ n, q n = true → n < base + a.length) :
    (p.hits (a ++ b) base).filter (q ·.start) = (p.hits a base).filter (q ·.start) := by
  have happ := congrArg (List.filter fun f => q f.start) (h.hits_append ha b base)
  -- of the matches behind the line start, none begins before it
  have hright : ((p.hits b (base + a.length)).filter fun f =>
      decide (f.start < base + a.length + b.length)).filter (fun f => q f.start) = [] := by
    rw [List.filter_eq_nil_iff]
    intro f hf hqf
    have h₁ := (within_of_mem_hits (List.mem_filter.mp hf).1).start_le
    have h₂ := hq f.start hqf
    omega
  rw [List.filter_append, hright, List.append_nil, filter_filter_of_imp, filter_filter_of_imp]
    at happ
  · exact happ
  · intro f _ hf
    exact decide_eq_true (hq f.start hf)
  · intro f _ hf
    have := hq f.start hf
    exact decide_eq_true (by omega)

theorem LineByLine.filter_right
    (hq : ∀ n, q n = true → base + a.length ≤ n ∧ n < base + a.length + b.length) :
    (p.hits (a ++ b) base).filter (q ·.start)
      = (p.hits b (base + a.length)).filter (q ·.start) := by
  have happ := congrArg (List.filter fun f => q f.start) (h.hits_append ha b base)
  -- the matches in `a` that begin before its end are not asked for
  have hleft : ((p.hits a base).filter fun f => decide (f.start < base + a.length)).filter
      (fun f => q f.start) = [] := by
    rw [List.filter_eq_nil_iff]
    intro f hf hqf
    have h₁ := (List.mem_filter.mp hf).2
    have h₂ := (hq f.start hqf).1
    simp only [decide_eq_true_eq] at h₁
    omega
  rw [List.filter_append, hleft, List.nil_append, filter_filter_of_imp, filter_filter_of_imp]
    at happ
  · exact happ
  · intro f _ hf
    exact decide_eq_true (hq f.start hf).2
  · intro f _ hf
    exact decide_eq_true (hq f.start hf).2

end Append

end Pattern

/-! ## 3. Directories -/

/-- The change that a match announces. -/
def DirectoryPattern.eventOf (d : DirectoryPattern) (f : Found) : Option DirectoryEvent :=
  if (d.leave.bind f.group).isSome then some .leave
  else (f.groupText d.dir).map fun t => .enter ⟨t⟩

theorem DirectoryPattern.scan_eq (d : DirectoryPattern) (text : Text) (base : Nat) :
    d.scan text base
      = (d.pattern.hits text base).filterMap fun f => (d.eventOf f).map fun e => (f.start, e) := by
  unfold scan Pattern.hits
  rw [List.filterMap_map]
  dsimp only
  congr 1
  funext m
  have hevent : d.event? text.toArray m
      = d.eventOf ((Found.ofMatch text.toArray m).shift base) := by
    unfold event? eventOf
    have hleave : (d.leave.bind ((Found.ofMatch text.toArray m).shift base).group).isSome
        = (d.leave.bind m.group).isSome := by
      cases d.leave with
      | none => rfl
      | some g => exact Option.isSome_map
    rw [hleave]
    split
    · rfl
    · show _ = Option.map _ (Option.map _ (m.group d.dir))
      rw [Option.map_map]
      rfl
  show Option.map _ (d.event? text.toArray m) = Option.map _ (d.eventOf _)
  rw [hevent, Found.start_ofMatch_shift, Nat.add_comm base]

/-- The changes of directory are announced in lines, each by itself. -/
def DirsLineByLine (p : Option DirectoryPattern) : Prop := ∀ d ∈ p, d.pattern.LineByLine

theorem filter_turns {p : Option DirectoryPattern} {t u : Text} {base base' : Nat} {q : Nat → Bool}
    (h : ∀ d ∈ p, (d.pattern.hits t base).filter (q ·.start)
      = (d.pattern.hits u base').filter (q ·.start)) :
    (turns p t base).filter (q ·.1) = (turns p u base').filter (q ·.1) := by
  cases p with
  | none => rfl
  | some d =>
    -- a change is where its match begins, so matches may be chosen before changes are read off
    have hfilter : ∀ hs : List Found,
        (hs.filterMap fun f => (d.eventOf f).map fun e => (f.start, e)).filter (q ·.1)
          = (hs.filter (q ·.start)).filterMap fun f => (d.eventOf f).map fun e => (f.start, e) := by
      intro hs
      rw [List.filter_filterMap, List.filterMap_filter]
      congr 1
      funext f
      cases hq : q f.start with
      | true =>
        cases d.eventOf f with
        | none => rfl
        | some e => simp [Option.filter, hq]
      | false =>
        cases d.eventOf f with
        | none => rfl
        | some e => simp [Option.filter, hq]
    show (d.scan t base).filter _ = (d.scan u base').filter _
    rw [d.scan_eq, d.scan_eq, hfilter, hfilter, h d rfl]

section Turns

variable {p : Option DirectoryPattern} (h : DirsLineByLine p) {a : Text} (ha : Text.Terminated a)
  (b : Text) (base : Nat)
include h ha

/-- Behind a line start, the changes from there on follow those before it. -/
theorem pathsAt_turns_append (ps : List Path) {o : Nat} (ho : base + a.length ≤ o)
    (ho' : o < base + a.length + b.length) :
    pathsAt (turns p (a ++ b) base) ps o
      = pathsAt (turns p b (base + a.length))
          (pathsAfter ((turns p (a ++ b) base).filter (·.1 < base + a.length)) ps) o := by
  let inside : Nat → Bool := fun n => decide (base + a.length ≤ n) && decide (n ≤ o)
  have hbehind : (turns p (a ++ b) base).filter (inside ·.1)
      = (turns p b (base + a.length)).filter (inside ·.1) := by
    refine filter_turns (q := inside) fun d hd => ?_
    refine (h d hd).filter_right (q := inside) ha b base fun n hn => ?_
    simp only [inside, Bool.and_eq_true, decide_eq_true_eq] at hn
    omega
  -- the changes up to `o` are those before the line start, and those from there on
  have hsplit : (turns p (a ++ b) base).filter (·.1 ≤ o)
      = (turns p (a ++ b) base).filter (·.1 < base + a.length)
        ++ (turns p (a ++ b) base).filter (inside ·.1) := by
    have hcut := filter_lt_append (fun e : Nat × DirectoryEvent => e.1)
      (turns_pairwise p (a ++ b) base) (base + a.length)
    conv_lhs => rw [← hcut, List.filter_append, List.filter_filter, List.filter_filter]
    congr 1
    · apply List.filter_congr
      intro e _
      rw [← Bool.decide_and, decide_eq_decide]
      omega
    · apply List.filter_congr
      intro e _
      exact Bool.and_comm _ _
  -- in `b`, no change comes before the line start
  have hall : (turns p b (base + a.length)).filter (inside ·.1)
      = (turns p b (base + a.length)).filter (·.1 ≤ o) := by
    apply List.filter_congr
    intro e he
    have := (le_of_mem_turns he).1
    show (decide (base + a.length ≤ e.1) && decide (e.1 ≤ o)) = decide (e.1 ≤ o)
    rw [← Bool.decide_and, decide_eq_decide]
    omega
  rw [pathsAt, hsplit, pathsAfter_append, hbehind, hall]
  rfl

end Turns

/-- The directories in effect at an offset of a log that begins in the directories `home`. -/
def dirsIn (p : Option DirectoryPattern) (home : List Path) (t : Text) (o : Nat) : List Path :=
  pathsAt (turns p t 0) home o

section Dirs

variable {p : Option DirectoryPattern} (h : DirsLineByLine p) (home : List Path) {a : Text}
  (ha : Text.Terminated a) (b : Text)
include h ha

theorem dirsIn_append_left {o : Nat} (ho : o < a.length) :
    dirsIn p home (a ++ b) o = dirsIn p home a o := by
  unfold dirsIn pathsAt
  rw [filter_turns (q := fun n => decide (n ≤ o))]
  intro d hd
  refine (h d hd).filter_left (q := fun n => decide (n ≤ o)) ha b 0 fun n hn => ?_
  simp only [decide_eq_true_eq] at hn
  omega

theorem dirsIn_append_right {o : Nat} (ho : a.length ≤ o) (ho' : o < a.length + b.length) :
    dirsIn p home (a ++ b) o
      = pathsAt (turns p b a.length)
          (if a.length = 0 then home else dirsIn p home a (a.length - 1)) o := by
  have happ := pathsAt_turns_append h ha b 0 home (o := o) (by omega) (by omega)
  have hbefore : (turns p (a ++ b) 0).filter (·.1 < a.length)
      = (turns p a 0).filter (·.1 < a.length) := by
    refine filter_turns (q := fun n => decide (n < a.length)) fun d hd => ?_
    refine (h d hd).filter_left (q := fun n => decide (n < a.length)) ha b 0 fun n hn => ?_
    simp only [decide_eq_true_eq] at hn
    omega
  -- the changes of `a` come to the directories at its last character
  have hhome : pathsAfter ((turns p a 0).filter (·.1 < a.length)) home
      = if a.length = 0 then home else dirsIn p home a (a.length - 1) := by
    by_cases hzero : a.length = 0
    · rw [if_pos hzero, hzero, List.filter_eq_nil_iff.mpr]
      · rfl
      · intro e _
        simp
    · rw [if_neg hzero, dirsIn, pathsAt]
      congr 1
      apply List.filter_congr
      intro e _
      rw [decide_eq_decide]
      omega
  rw [dirsIn, happ, Nat.zero_add, hbefore, hhome]

end Dirs

/-! ## 4. Rules that stay within their lines -/

/-- A search for a rule may begin at any line: it finds what a search of the whole text finds from
there on.  And what is found before the last lines does not depend on what follows. -/
structure Rule.WithinLines (r : Rule) : Prop where
  restart : ∀ a b : Text, Text.Terminated a →
    (r.hits (a ++ b) 0).filter (a.length ≤ ·.start) = r.hits b a.length
  extend : ∀ a b : Text, Text.Terminated a →
    (r.hits (a ++ b) 0).filter (·.start < a.tailStart (r.lines - 1))
      = (r.hits a 0).filter (·.start < a.tailStart (r.lines - 1))

/-- A rule that stays within its lines would do so with more of them. -/
theorem Rule.WithinLines.lines_le {r : Rule} (h : r.WithinLines) {n : Nat} (hn : r.lines ≤ n) :
    Rule.WithinLines { r with lines := n } := by
  refine ⟨h.restart, fun a b ha => ?_⟩
  show (r.hits (a ++ b) 0).filter (·.start < a.tailStart (n - 1))
    = (r.hits a 0).filter (·.start < a.tailStart (n - 1))
  -- the more lines are held back, the fewer are left
  have hle : a.tailStart (n - 1) ≤ a.tailStart (r.lines - 1) :=
    Text.tailStart_antitone a (Nat.sub_le_sub_right hn 1)
  have himp : ∀ t : Text, ∀ f ∈ r.hits t 0, decide (f.start < a.tailStart (n - 1)) = true →
      decide (f.start < a.tailStart (r.lines - 1)) = true := by
    intro t f _ hf
    simp only [decide_eq_true_eq] at hf ⊢
    omega
  rw [← filter_filter_of_imp (himp (a ++ b)), h.extend a b ha, filter_filter_of_imp (himp a)]

/-- A rule of one line is within it if its pattern is line by line. -/
theorem Pattern.LineByLine.withinLines {r : Rule} (h : r.pattern.LineByLine) (hr : r.lines ≤ 1) :
    r.WithinLines := by
  -- the rule leaves out empty matches, in a part of the text as in the whole
  have hcomm : ∀ (t : Text) (base : Nat) (q : Nat → Bool), (r.hits t base).filter (q ·.start)
      = ((r.pattern.hits t base).filter (q ·.start)).filter fun f => !f.span.isEmpty := by
    intro t base q
    rw [Rule.hits, List.filter_filter, List.filter_filter]
    apply List.filter_congr
    intro f _
    exact Bool.and_comm _ _
  -- a match that is not empty begins before the end of the text
  have hin : ∀ (t : Text) (base : Nat), r.hits t base
      = (r.hits t base).filter fun f => decide (base ≤ f.start) && decide (f.start < base + t.length) := by
    intro t base
    rw [List.filter_eq_self.mpr]
    intro f hf
    obtain ⟨hw, hne⟩ := Rule.within_of_mem_hits hf
    have h₁ := hw.start_le
    have h₂ := hw.stop_le
    simp only [Bool.and_eq_true, decide_eq_true_eq]
    omega
  constructor
  · intro a b ha
    let q : Nat → Bool := fun n => decide (a.length ≤ n) && decide (n < a.length + b.length)
    have hright := h.filter_right (q := q) ha b 0 fun n hn => by
      simp only [q, Bool.and_eq_true, decide_eq_true_eq] at hn
      omega
    rw [Nat.zero_add] at hright
    have hleft : (r.hits (a ++ b) 0).filter (a.length ≤ ·.start)
        = (r.hits (a ++ b) 0).filter (q ·.start) := by
      apply List.filter_congr
      intro f hf
      obtain ⟨hw, hne⟩ := Rule.within_of_mem_hits hf
      have h₂ := hw.stop_le
      rw [List.length_append] at h₂
      show _ = (decide (a.length ≤ f.start) && decide (f.start < a.length + b.length))
      rw [← Bool.decide_and, decide_eq_decide]
      omega
    rw [hleft, hin b a.length, hcomm _ _ q, hcomm _ _ q, hright]
  · intro a b ha
    -- a rule of one line holds back nothing
    have htail : a.tailStart (r.lines - 1) = a.length := by
      rw [Nat.sub_eq_zero_of_le hr, Text.tailStart_zero]
    rw [htail, hcomm _ _ fun n => decide (n < a.length), hcomm _ _ fun n => decide (n < a.length),
      h.filter_left (q := fun n => decide (n < a.length)) ha b 0]
    intro n hn
    simpa using hn

end BuildLog
