import BuildLog.Proofs.Findings

/-!
# Hits — hits in order, and the findings they come to

The hits of several rules are merged in order of their starts, and a part of the text is as good
as the whole: the hits that begin there are merged alike.  Findings are taken from hits one after
the other, so those of two lists of hits in turn are known from each list, from the file named last
and from the text claimed so far.
-/

namespace BuildLog

/-! ## 1. Lists in order -/

section Lists

variable {α : Type} {l : List α}

/-- A filter that keeps less than an earlier one makes the earlier one unnecessary. -/
theorem filter_filter_of_imp {p q : α → Bool} (h : ∀ x ∈ l, p x = true → q x = true) :
    (l.filter q).filter p = l.filter p := by
  rw [List.filter_filter]
  apply List.filter_congr
  intro x hx
  cases hp : p x with
  | false => rfl
  | true => exact h x hx hp

theorem filter_append_left {p : α → Bool} {k : List α} (hl : ∀ x ∈ l, p x = true)
    (hk : ∀ x ∈ k, p x = false) : (l ++ k).filter p = l := by
  rw [List.filter_append, List.filter_eq_self.mpr hl,
    List.filter_eq_nil_iff.mpr fun x hx => by rw [hk x hx]; exact Bool.false_ne_true,
    List.append_nil]

theorem filter_append_right {p : α → Bool} {k : List α} (hl : ∀ x ∈ l, p x = false)
    (hk : ∀ x ∈ k, p x = true) : (l ++ k).filter p = k := by
  rw [List.filter_append, List.filter_eq_self.mpr hk,
    List.filter_eq_nil_iff.mpr fun x hx => by rw [hl x hx]; exact Bool.false_ne_true,
    List.nil_append]

/-- A list in order of a key, cut at a value of the key. -/
theorem filter_lt_append (key : α → Nat) (h : l.Pairwise fun x y => key x ≤ key y) (c : Nat) :
    l.filter (fun x => key x < c) ++ l.filter (fun x => c ≤ key x) = l := by
  induction l with
  | nil => rfl
  | cons x xs ih =>
    obtain ⟨hle, hxs⟩ := List.pairwise_cons.mp h
    by_cases hx : key x < c
    · rw [List.filter_cons_of_pos (by simpa using hx), List.filter_cons_of_neg (by simpa using hx),
        List.cons_append, ih hxs]
    · -- the list is in order, so from the first key that is not before `c` on none is
      have hall : ∀ y ∈ x :: xs, c ≤ key y := by
        intro y hy
        rcases List.mem_cons.mp hy with rfl | hy
        · omega
        · have := hle y hy
          omega
      rw [List.filter_eq_nil_iff.mpr fun y hy => by simpa using hall y hy,
        List.filter_eq_self.mpr fun y hy => by simpa using hall y hy, List.nil_append]

theorem pairwise_getLast? {R : α → α → Prop} {x y : α} (hp : l.Pairwise R)
    (hl : l.getLast? = some y) (hx : x ∈ l) : x = y ∨ R x y := by
  obtain ⟨l', rfl⟩ := List.getLast?_eq_some_iff.mp hl
  rcases List.mem_append.mp hx with hx | hx
  · exact .inr ((List.pairwise_append.mp hp).2.2 x hx y List.mem_cons_self)
  · exact .inl (List.mem_singleton.mp hx)

theorem pairwise_or {R : α → α → Prop} {x y : α} (hp : l.Pairwise R) (hx : x ∈ l) (hy : y ∈ l) :
    x = y ∨ R x y ∨ R y x := by
  induction l with
  | nil => cases hx
  | cons a l ih =>
    obtain ⟨ha, hl⟩ := List.pairwise_cons.mp hp
    rcases List.mem_cons.mp hx with hxa | hxl
    · rcases List.mem_cons.mp hy with hya | hyl
      · exact .inl (hxa.trans hya.symm)
      · exact .inr (.inl (hxa ▸ ha y hyl))
    · rcases List.mem_cons.mp hy with hya | hyl
      · exact .inr (.inr (hya ▸ ha x hxl))
      · exact ih hl hxl hyl

/-- In a list in order, what is found first is what comes before all else that could be found. -/
theorem find?_eq_some_iff_of_pairwise {R : α → α → Prop} (hR : ∀ a b, R a b → ¬ R b a)
    (hl : l.Pairwise R) {f : α → Bool} {a : α} :
    l.find? f = some a ↔ (a ∈ l ∧ f a) ∧ ∀ b ∈ l, f b → b = a ∨ R a b := by
  have hfirst : ∀ {a}, l.find? f = some a → ∀ b ∈ l, f b → b = a ∨ R a b := by
    intro a ha b hb hfb
    obtain ⟨-, before, after, rfl, hbefore⟩ := List.find?_eq_some_iff_append.mp ha
    rcases List.mem_append.mp hb with hb | hb
    · have hnot := hbefore b hb
      rw [hfb] at hnot
      cases hnot
    · exact (List.mem_cons.mp hb).imp_right
        ((List.pairwise_cons.mp (List.pairwise_append.mp hl).2.1).1 b)
  constructor
  · intro ha
    exact ⟨⟨List.mem_of_find?_eq_some ha, List.find?_some ha⟩, hfirst ha⟩
  · rintro ⟨⟨ha, hfa⟩, hnearest⟩
    obtain ⟨c, hc⟩ := Option.isSome_iff_exists.mp (List.find?_isSome.mpr ⟨a, ha, hfa⟩)
    rcases hnearest c (List.mem_of_find?_eq_some hc) (List.find?_some hc) with rfl | hac
    · exact hc
    · rcases hfirst hc a ha hfa with rfl | hca
      · exact hc
      · exact absurd hca (hR a c hac)

/-- In a list in order of a key, one at most has a given key. -/
theorem find?_key (key : α → Nat) (hl : l.Pairwise fun a b => key a < key b) {c : Nat} {a : α} :
    l.find? (key · = c) = some a ↔ a ∈ l ∧ key a = c := by
  rw [find?_eq_some_iff_of_pairwise (fun _ _ => Nat.lt_asymm) hl, decide_eq_true_iff]
  refine and_iff_left_of_imp ?_
  rintro ⟨ha, rfl⟩ b hb hkey
  rw [decide_eq_true_iff] at hkey
  rcases pairwise_or hl hb ha with heq | hlt | hlt
  · exact .inl heq
  · omega
  · omega

end Lists

/-! ## 2. Hits in order -/

namespace Hit

/-- Hits in order of their starts, no two of which begin at one place. -/
def InOrder (hs : List Hit) : Prop := hs.Pairwise fun h k => h.start < k.start

theorem mem_insert {h x : Hit} {ds : List Hit} (hx : x ∈ insert h ds) : x = h ∨ x ∈ ds := by
  induction ds with
  | nil => exact .inl (List.mem_singleton.mp hx)
  | cons d ds ih =>
    rw [insert] at hx
    split at hx
    · exact List.mem_cons.mp hx
    · split at hx
      · exact .inr hx
      · rcases List.mem_cons.mp hx with rfl | hx
        · exact .inr List.mem_cons_self
        · exact (ih hx).imp id (List.mem_cons_of_mem d)

theorem inOrder_insert {h : Hit} {ds : List Hit} (hd : InOrder ds) : InOrder (insert h ds) := by
  induction ds with
  | nil => exact List.pairwise_singleton _ _
  | cons d ds ih =>
    obtain ⟨hlt, hds⟩ := List.pairwise_cons.mp hd
    rw [insert]
    split
    · rename_i hhd
      refine List.pairwise_cons.mpr ⟨fun x hx => ?_, hd⟩
      rcases List.mem_cons.mp hx with rfl | hx
      · exact hhd
      · exact Nat.lt_trans hhd (hlt x hx)
    · split
      · exact hd
      · refine List.pairwise_cons.mpr ⟨fun x hx => ?_, ih hds⟩
        rcases mem_insert hx with rfl | hx
        · omega
        · exact hlt x hx

/-- A hit is put among those that begin in some part of the text just as it is put among all. -/
theorem filter_insert (p : Nat → Bool) (h : Hit) {ds : List Hit} (hd : InOrder ds) :
    (insert h ds).filter (p ·.start)
      = if p h.start then insert h (ds.filter (p ·.start)) else ds.filter (p ·.start) := by
  induction ds with
  | nil =>
    rw [insert, List.filter_cons]
    rfl
  | cons d ds ih =>
    obtain ⟨hlt, hds⟩ := List.pairwise_cons.mp hd
    rw [insert]
    -- as `insert` decides: before `d`, in its place, or behind it
    rcases Nat.lt_trichotomy h.start d.start with hhd | heq | hgt
    · rw [if_pos hhd, List.filter_cons]
      by_cases hp : p h.start
      · rw [if_pos hp, if_pos hp]
        -- every hit that stays begins after `h`, so `h` comes first
        have hafter : ∀ x ∈ (d :: ds).filter (p ·.start), h.start < x.start := by
          intro x hx
          rcases List.mem_cons.mp (List.mem_filter.mp hx).1 with rfl | hx
          · exact hhd
          · exact Nat.lt_trans hhd (hlt x hx)
        cases hf : (d :: ds).filter (p ·.start) with
        | nil => rfl
        | cons x xs =>
          rw [insert, if_pos (hafter x (by rw [hf]; exact List.mem_cons_self))]
      · rw [if_neg hp, if_neg hp]
    · rw [if_neg (by omega), if_pos heq, heq]
      -- a hit at the same place counts already, if it stays
      by_cases hp : p d.start
      · have hkeep : (d :: ds).filter (p ·.start) = d :: ds.filter (p ·.start) :=
          List.filter_cons_of_pos hp
        rw [if_pos hp, hkeep, insert, if_neg (by omega), if_pos heq]
      · rw [if_neg hp]
    · rw [if_neg (by omega), if_neg (by omega), List.filter_cons, List.filter_cons, ih hds]
      by_cases hp : p d.start
      · rw [if_pos hp, if_pos hp]
        by_cases hph : p h.start
        · rw [if_pos hph, if_pos hph, insert, if_neg (by omega), if_neg (by omega)]
        · rw [if_neg hph, if_neg hph]
      · rw [if_neg hp, if_neg hp]

section Merge

variable {hs acc : List Hit}

theorem mem_of_mem_fold {x : Hit} (hx : x ∈ hs.foldl (fun acc h => insert h acc) acc) :
    x ∈ hs ∨ x ∈ acc := by
  induction hs generalizing acc with
  | nil => exact .inr hx
  | cons h hs ih =>
    rcases ih hx with hx | hx
    · exact .inl (List.mem_cons_of_mem h hx)
    · rcases mem_insert hx with rfl | hx
      · exact .inl List.mem_cons_self
      · exact .inr hx

theorem inOrder_fold (hacc : InOrder acc) :
    InOrder (hs.foldl (fun acc h => insert h acc) acc) := by
  induction hs generalizing acc with
  | nil => exact hacc
  | cons h hs ih => exact ih (inOrder_insert hacc)

theorem filter_fold (p : Nat → Bool) (hacc : InOrder acc) :
    (hs.foldl (fun acc h => insert h acc) acc).filter (p ·.start)
      = (hs.filter (p ·.start)).foldl (fun acc h => insert h acc) (acc.filter (p ·.start)) := by
  induction hs generalizing acc with
  | nil => rfl
  | cons h hs ih =>
    rw [List.foldl_cons, ih (inOrder_insert hacc), filter_insert p h hacc, List.filter_cons]
    by_cases hp : p h.start
    · rw [if_pos hp, if_pos hp, List.foldl_cons]
    · rw [if_neg hp, if_neg hp]

theorem mem_of_mem_merge {x : Hit} (hx : x ∈ merge hs) : x ∈ hs := by
  rcases mem_of_mem_fold hx with hx | hx
  · exact hx
  · cases hx

theorem inOrder_merge (hs : List Hit) : InOrder (merge hs) := inOrder_fold List.Pairwise.nil

theorem filter_merge (p : Nat → Bool) (hs : List Hit) :
    (merge hs).filter (p ·.start) = merge (hs.filter (p ·.start)) :=
  filter_fold p List.Pairwise.nil

/-- Of hits that begin at one place, the first counts. -/
theorem merge_of_start {c : Nat} (h : ∀ k ∈ hs, k.start = c) : merge hs = hs.head?.toList := by
  cases hs with
  | nil => rfl
  | cons k ks =>
    have hk := h k List.mem_cons_self
    have hks : ∀ x ∈ ks, x.start = c := fun x hx => h x (List.mem_cons_of_mem k hx)
    show ks.foldl (fun acc h => insert h acc) [k] = [k]
    induction ks with
    | nil => rfl
    | cons x xs ih =>
      have hx : x.start = k.start := (hks x List.mem_cons_self).trans hk.symm
      have hinsert : insert x [k] = [k] := by
        rw [insert, if_neg (by omega), if_pos hx]
      rw [List.foldl_cons, hinsert]
      exact ih (fun y hy => (List.mem_cons.mp hy).elim (fun heq => heq ▸ hk)
        fun hy => hks y (List.mem_cons_of_mem x hy)) fun y hy => hks y (List.mem_cons_of_mem x hy)

/-- A hit counts if it is the first of those that begin where it does. -/
theorem mem_merge_iff {h : Hit} : h ∈ merge hs ↔ hs.find? (·.start = h.start) = some h := by
  have hfilter : h ∈ merge hs ↔ h ∈ (merge hs).filter (·.start = h.start) := by
    rw [List.mem_filter, decide_eq_true_iff]
    exact (and_iff_left rfl).symm
  rw [hfilter, filter_merge (fun c => c = h.start), merge_of_start (c := h.start), List.head?_filter,
    Option.mem_toList]
  intro k hk
  exact of_decide_eq_true (List.mem_filter.mp hk).2

end Merge

end Hit

/-- A hit lies between two places of the log, and is not empty. -/
structure Hit.Within (start stop : Nat) (h : Hit) : Prop where
  found : h.found.Within start stop
  nonempty : h.found.start < h.found.span.stop

theorem Rule.within_of_mem_hits {r : Rule} {t : Text} {base : Nat} {f : Found}
    (h : f ∈ r.hits t base) : f.Within base (base + t.length) ∧ f.start < f.span.stop := by
  obtain ⟨hf, hne⟩ := List.mem_filter.mp h
  refine ⟨Pattern.within_of_mem_hits hf, ?_⟩
  have hstop : ¬ f.span.stop ≤ f.span.start := by simpa [Span.isEmpty] using hne
  exact Nat.lt_of_not_le hstop

theorem Rule.hits_inOrder (r : Rule) (t : Text) (base : Nat) :
    (r.hits t base).Pairwise fun f g => f.start < g.start := by
  refine ((r.pattern.hits_pairwise t base).filter _).imp_of_mem fun hf _ hle => ?_
  exact Nat.lt_of_lt_of_le (Rule.within_of_mem_hits hf).2 hle

/-- A hit of a rule takes in its whole match. -/
theorem Rule.isSome_of_mem_hits {r : Rule} {t : Text} {base : Nat} {f : Found}
    (h : f ∈ r.hits t base) : (f.group 0).isSome := by
  obtain ⟨m, -, rfl⟩ := List.mem_map.mp (List.mem_filter.mp h).1
  rfl

/-- The hits in a text further on are those of the text, moved. -/
theorem Rule.hits_shift (r : Rule) (t : Text) (base delta : Nat) :
    r.hits t (base + delta) = (r.hits t base).map (·.shift delta) := by
  unfold Rule.hits
  rw [Pattern.hits_shift, List.filter_map]
  congr 1
  apply List.filter_congr
  intro f hf
  obtain ⟨m, -, rfl⟩ := List.mem_map.mp hf
  show (!(Span.isEmpty _)) = (!(Span.isEmpty _))
  rw [Found.span_shift rfl, Found.isEmpty_shift]

theorem Rule.exists_of_mem_hits {r : Rule} {t : Text} {base : Nat} {f : Found}
    (hf : f ∈ r.hits t base) : ∃ e ∈ r.hits t 0, f = e.shift base := by
  rw [← Nat.zero_add base, Rule.hits_shift] at hf
  obtain ⟨e, he, rfl⟩ := List.mem_map.mp hf
  exact ⟨e, he, rfl⟩

namespace RuleSet

variable (s : RuleSet) (t : Text) (base : Nat)

theorem hits_inOrder : Hit.InOrder (s.hits t base) := Hit.inOrder_merge _

theorem mem_of_mem_hits {h : Hit} (hh : h ∈ s.hits t base) :
    h.rule ∈ s.rules ∧ h.found ∈ h.rule.hits t base := by
  obtain ⟨r, hr, hh⟩ := List.mem_flatMap.mp (Hit.mem_of_mem_merge hh)
  obtain ⟨f, hf, rfl⟩ := List.mem_map.mp hh
  exact ⟨hr, hf⟩

/-- A match counts if no earlier rule has one that begins at the same place. -/
theorem mem_hits_iff {h : Hit} : h ∈ s.hits t base
    ↔ ∃ before after, s.rules = before ++ h.rule :: after ∧ h.found ∈ h.rule.hits t base
      ∧ ∀ r ∈ before, ∀ f ∈ r.hits t base, f.start ≠ h.start := by
  -- a rule has one match at most that begins at a place
  have hrule : ∀ r : Rule, ((r.hits t base).map (Hit.mk r)).find? (·.start = h.start) = some h
      ↔ r = h.rule ∧ h.found ∈ r.hits t base := by
    intro r
    rw [List.find?_map, Option.map_eq_some_iff]
    constructor
    · rintro ⟨f, hf, rfl⟩
      exact ⟨rfl, List.mem_of_find?_eq_some hf⟩
    · rintro ⟨rfl, hf⟩
      exact ⟨h.found, (find?_key Found.start (h.rule.hits_inOrder t base)).mpr ⟨hf, rfl⟩, rfl⟩
  have hnone : ∀ r : Rule, ((r.hits t base).map (Hit.mk r)).find? (·.start = h.start) = none
      ↔ ∀ f ∈ r.hits t base, f.start ≠ h.start := by
    intro r
    rw [List.find?_eq_none, List.forall_mem_map]
    simp only [decide_eq_true_iff]
    rfl
  rw [hits, Hit.mem_merge_iff, List.find?_flatMap, List.findSome?_eq_some_iff]
  simp only [hrule, hnone]
  constructor
  · rintro ⟨before, r, after, hsplit, ⟨rfl, hf⟩, hbefore⟩
    exact ⟨before, after, hsplit, hf, hbefore⟩
  · rintro ⟨before, after, hsplit, hf, hbefore⟩
    exact ⟨before, h.rule, after, hsplit, ⟨rfl, hf⟩, hbefore⟩

theorem within_of_mem_hits {h : Hit} (hh : h ∈ s.hits t base) :
    h.Within base (base + t.length) :=
  ⟨(Rule.within_of_mem_hits (s.mem_of_mem_hits t base hh).2).1,
    (Rule.within_of_mem_hits (s.mem_of_mem_hits t base hh).2).2⟩

/-- The hits that begin in some part of a text are known from those of each rule there. -/
theorem filter_hits (p : Nat → Bool) :
    (s.hits t base).filter (p ·.start)
      = Hit.merge (s.rules.flatMap fun r => ((r.hits t base).filter (p ·.start)).map (Hit.mk r)) := by
  rw [hits, Hit.filter_merge, List.filter_flatMap]
  simp only [List.filter_map]
  rfl

/-- Rules that find alike in parts of two texts have the same hits there. -/
theorem filter_hits_congr {t' : Text} {base' : Nat} (p q : Nat → Bool)
    (h : ∀ r ∈ s.rules, (r.hits t base).filter (p ·.start)
      = (r.hits t' base').filter (q ·.start)) :
    (s.hits t base).filter (p ·.start) = (s.hits t' base').filter (q ·.start) := by
  rw [filter_hits, filter_hits, List.flatMap_def, List.flatMap_def]
  congr 2
  apply List.map_congr_left
  intro r hr
  rw [h r hr]

end RuleSet

/-- A finding lies between two places of the log, is not empty, and holds its link. -/
structure Finding.Within (start stop : Nat) (f : Finding) : Prop where
  start_le : start ≤ f.start
  nonempty : f.start < f.span.stop
  stop_le : f.span.stop ≤ stop
  link : f.start ≤ f.hyperlink.start ∧ f.hyperlink.stop ≤ f.span.stop

theorem Hit.Within.findingIn {start stop : Nat} {h : Hit} (hw : h.Within start stop)
    (cfg : ScanSettings) (o : Origin) : (h.findingIn cfg o).Within start stop := by
  refine ⟨hw.found.start_le, hw.nonempty, hw.found.stop_le, ?_⟩
  show h.found.start ≤ ((h.rule.hyperlink.bind h.found.group).getD h.found.span).start
    ∧ ((h.rule.hyperlink.bind h.found.group).getD h.found.span).stop ≤ h.found.span.stop
  cases hg : h.rule.hyperlink.bind h.found.group with
  | none => exact ⟨Nat.le_refl _, Nat.le_refl _⟩
  | some s =>
    obtain ⟨i, -, hs⟩ := Option.bind_eq_some_iff.mp hg
    exact hw.found.group i s hs

/-! ## 3. Findings in order -/

/-- The end of the text claimed so far: the end of the last finding's line. -/
def claimAfter (lineEnd : Nat → Nat) (claimed : Nat) (fs : List Finding) : Nat :=
  match fs.getLast? with
  | none => claimed
  | some f => lineEnd f.span.stop

/-- The file named last. -/
def originAfter (previous : Option Origin) (fs : List Finding) : Option Origin :=
  match fs.getLast? with
  | none => previous
  | some f => some f.origin

theorem claimAfter_cons (lineEnd : Nat → Nat) (claimed : Nat) (f : Finding) (fs : List Finding) :
    claimAfter lineEnd claimed (f :: fs) = claimAfter lineEnd (lineEnd f.span.stop) fs := by
  unfold claimAfter
  rw [List.getLast?_cons]
  cases fs.getLast? with
  | none => rfl
  | some g => rfl

theorem originAfter_cons (previous : Option Origin) (f : Finding) (fs : List Finding) :
    originAfter previous (f :: fs) = originAfter (some f.origin) fs := by
  unfold originAfter
  rw [List.getLast?_cons]
  cases fs.getLast? with
  | none => rfl
  | some g => rfl

theorem originAfter_none (fs : List Finding) :
    originAfter none fs = fs.getLast?.map Finding.origin := by
  unfold originAfter
  cases fs.getLast? with
  | none => rfl
  | some f => rfl

theorem max_claimAfter {lineEnd : Nat → Nat} {claimed t : Nat} (h : claimed ≤ t)
    (fs : List Finding) :
    max t (claimAfter lineEnd claimed fs) = max t (claimAfter lineEnd 0 fs) := by
  unfold claimAfter
  cases fs.getLast? with
  | none =>
    dsimp only
    omega
  | some f => rfl

theorem claimAfter_append (lineEnd : Nat → Nat) (claimed : Nat) (fs gs : List Finding) :
    claimAfter lineEnd claimed (fs ++ gs)
      = claimAfter lineEnd (claimAfter lineEnd claimed fs) gs := by
  induction fs generalizing claimed with
  | nil => rfl
  | cons f fs ih => rw [List.cons_append, claimAfter_cons, claimAfter_cons, ih]

theorem originAfter_append (previous : Option Origin) (fs gs : List Finding) :
    originAfter previous (fs ++ gs) = originAfter (originAfter previous fs) gs := by
  induction fs generalizing previous with
  | nil => rfl
  | cons f fs ih => rw [List.cons_append, originAfter_cons, originAfter_cons, ih]

section Findings

variable {cfg : ScanSettings} {dirAt : Nat → Option Path} {lineEnd : Nat → Nat}

theorem Hit.span_of_finding? {previous : Option Origin} {h : Hit} {f : Finding}
    (hf : h.finding? cfg dirAt previous = some f) :
    f.span = h.found.span ∧ ∃ o, f = h.findingIn cfg o := by
  obtain ⟨o, -, rfl⟩ := Option.map_eq_some_iff.mp hf
  exact ⟨rfl, o, rfl⟩

/-- The findings of two lists of hits in turn. -/
theorem findings_append (claimed : Nat) (previous : Option Origin) (hs ks : List Hit) :
    findings cfg dirAt lineEnd claimed previous (hs ++ ks)
      = findings cfg dirAt lineEnd claimed previous hs
        ++ findings cfg dirAt lineEnd
            (claimAfter lineEnd claimed (findings cfg dirAt lineEnd claimed previous hs))
            (originAfter previous (findings cfg dirAt lineEnd claimed previous hs)) ks := by
  induction hs generalizing claimed previous with
  | nil => rfl
  | cons h hs ih =>
    rw [List.cons_append, findings, findings]
    by_cases hlt : h.start < claimed
    · rw [if_pos hlt, if_pos hlt, ih]
    · rw [if_neg hlt, if_neg hlt]
      -- a hit that names no file claims nothing
      cases hf : h.finding? cfg dirAt previous with
      | none =>
        dsimp only
        rw [ih]
      | some f =>
        dsimp only
        rw [ih, claimAfter_cons, originAfter_cons, List.cons_append]

theorem findings_of_le {claimed claimed' : Nat} {hs : List Hit} (previous : Option Origin)
    (h : ∀ k ∈ hs, claimed ≤ k.start) (h' : ∀ k ∈ hs, claimed' ≤ k.start) :
    findings cfg dirAt lineEnd claimed previous hs
      = findings cfg dirAt lineEnd claimed' previous hs := by
  induction hs with
  | nil => rfl
  | cons k ks ih =>
    have hk := h k List.mem_cons_self
    have hk' := h' k List.mem_cons_self
    rw [findings, findings, if_neg (by omega), if_neg (by omega)]
    cases k.finding? cfg dirAt previous with
    | none =>
      exact ih (fun x hx => h x (List.mem_cons_of_mem k hx))
        (fun x hx => h' x (List.mem_cons_of_mem k hx))
    | some f => rfl

/-- Hits before the end of the claimed text do not count. -/
theorem findings_filter_claimed (claimed : Nat) (previous : Option Origin) {hs : List Hit}
    (h : Hit.InOrder hs) :
    findings cfg dirAt lineEnd claimed previous (hs.filter (claimed ≤ ·.start))
      = findings cfg dirAt lineEnd claimed previous hs := by
  conv_rhs => rw [← filter_lt_append Hit.start (h.imp Nat.le_of_lt) claimed]
  rw [findings_append]
  -- a hit before the end of the claimed text is passed over, and claims nothing itself
  have hnil : findings cfg dirAt lineEnd claimed previous (hs.filter (·.start < claimed)) = [] := by
    have hall : ∀ k ∈ hs.filter (·.start < claimed), k.start < claimed := fun k hk => by
      simpa using (List.mem_filter.mp hk).2
    revert hall
    generalize hs.filter (·.start < claimed) = ks
    intro hall
    induction ks with
    | nil => rfl
    | cons k ks ih =>
      rw [findings, if_pos (hall k List.mem_cons_self)]
      exact ih fun x hx => hall x (List.mem_cons_of_mem k hx)
  rw [hnil]
  rfl

theorem findings_congr {dirAt' : Nat → Option Path} {lineEnd' : Nat → Nat} {hs : List Hit}
    (claimed : Nat) (previous : Option Origin) (hdir : ∀ h ∈ hs, dirAt h.start = dirAt' h.start)
    (hend : ∀ h ∈ hs, lineEnd h.found.span.stop = lineEnd' h.found.span.stop) :
    findings cfg dirAt lineEnd claimed previous hs
      = findings cfg dirAt' lineEnd' claimed previous hs := by
  induction hs generalizing claimed previous with
  | nil => rfl
  | cons h hs ih =>
    have hrest := fun c p => ih c p (fun x hx => hdir x (List.mem_cons_of_mem h hx))
      (fun x hx => hend x (List.mem_cons_of_mem h hx))
    have horigin : h.finding? cfg dirAt previous = h.finding? cfg dirAt' previous := by
      unfold Hit.finding? Hit.origin?
      rw [hdir h List.mem_cons_self]
    rw [findings, findings, horigin, hrest]
    cases hf : h.finding? cfg dirAt' previous with
    | none => rfl
    | some f =>
      dsimp only
      rw [(Hit.span_of_finding? hf).1, hend h List.mem_cons_self, hrest]

theorem exists_hit_of_mem {claimed : Nat} {previous : Option Origin} {hs : List Hit} {f : Finding}
    (hf : f ∈ findings cfg dirAt lineEnd claimed previous hs) :
    ∃ h ∈ hs, ∃ o, f = h.findingIn cfg o := by
  induction hs generalizing claimed previous with
  | nil => cases hf
  | cons h hs ih =>
    rw [findings] at hf
    split at hf
    · exact (ih hf).imp fun k hk => ⟨List.mem_cons_of_mem h hk.1, hk.2⟩
    · split at hf
      · exact (ih hf).imp fun k hk => ⟨List.mem_cons_of_mem h hk.1, hk.2⟩
      · rename_i g hg
        rcases List.mem_cons.mp hf with rfl | hf
        · exact ⟨h, List.mem_cons_self, (Hit.span_of_finding? hg).2⟩
        · exact (ih hf).imp fun k hk => ⟨List.mem_cons_of_mem h hk.1, hk.2⟩

variable (cfg dirAt lineEnd) in
/-- The findings up to a hit, and those from it on.  The hit has a finding itself, unless it begins in
the text claimed before, or there is no file for it. -/
theorem findings_of_mem (claimed : Nat) (previous : Option Origin) {hs : List Hit}
    (hin : Hit.InOrder hs) {h : Hit} (hh : h ∈ hs) :
    ∃ fs gs, findings cfg dirAt lineEnd claimed previous hs = fs ++ gs
      ∧ (∀ f ∈ fs, f.start < h.start) ∧ (∀ g ∈ gs, h.start ≤ g.start)
      ∧ ((∃ o, h.findingIn cfg o ∈ gs) ∨ h.start < claimAfter lineEnd claimed fs
        ∨ h.origin? cfg dirAt (originAfter previous fs) = none) := by
  obtain ⟨ks, ls, rfl⟩ := List.append_of_mem hh
  obtain ⟨-, hls, hks⟩ := List.pairwise_append.mp hin
  refine ⟨_, _, findings_append claimed previous ks (h :: ls), fun f hf => ?_, fun g hg => ?_, ?_⟩
  · obtain ⟨k, hk, o, rfl⟩ := exists_hit_of_mem hf
    exact hks k hk h List.mem_cons_self
  · obtain ⟨l, hl, o, rfl⟩ := exists_hit_of_mem hg
    rcases List.mem_cons.mp hl with rfl | hl
    · exact Nat.le_refl _
    · exact Nat.le_of_lt ((List.pairwise_cons.mp hls).1 l hl)
  · rw [findings]
    split
    · rename_i hlt
      exact .inr (.inl hlt)
    · cases hf : h.finding? cfg dirAt _ with
      | none => exact .inr (.inr (Option.map_eq_none_iff.mp hf))
      | some f =>
        obtain ⟨o, rfl⟩ := (Hit.span_of_finding? hf).2
        exact .inl ⟨o, List.mem_cons_self⟩

theorem within_of_mem_findings {claimed : Nat} {previous : Option Origin} {hs : List Hit}
    {f : Finding} {start stop : Nat} (hw : ∀ h ∈ hs, h.Within start stop)
    (hf : f ∈ findings cfg dirAt lineEnd claimed previous hs) : f.Within start stop := by
  obtain ⟨h, hh, o, rfl⟩ := exists_hit_of_mem hf
  exact (hw h hh).findingIn cfg o

/-- Findings begin where the text claimed before ends, or later. -/
theorem le_start_of_mem_findings {claimed : Nat} {previous : Option Origin} {hs : List Hit}
    {start stop : Nat} (hw : ∀ h ∈ hs, h.Within start stop) (hle : ∀ x, x ≤ lineEnd x) :
    ∀ f ∈ findings cfg dirAt lineEnd claimed previous hs, claimed ≤ f.start := by
  induction hs generalizing claimed previous with
  | nil => exact nofun
  | cons h hs ih =>
    have hrest : ∀ k ∈ hs, k.Within start stop := fun k hk => hw k (List.mem_cons_of_mem h hk)
    intro f hf
    rw [findings] at hf
    split at hf
    · exact ih hrest f hf
    · rename_i hge
      split at hf
      · exact ih hrest f hf
      · rename_i g hg
        have hspan := (Hit.span_of_finding? hg).1
        have hstart : g.start = h.start := congrArg Span.start hspan
        -- what comes after `g` begins behind the line of `g`, and so behind `g`
        rcases List.mem_cons.mp hf with rfl | hf
        · omega
        · have hf := ih hrest f hf
          have hlt : h.start < h.found.span.stop := (hw h List.mem_cons_self).nonempty
          have hend := hle g.span.stop
          rw [hspan] at hf hend
          omega

/-- A finding claims its last line: the next ones begin behind it. -/
theorem findings_pairwise {claimed : Nat} {previous : Option Origin} {hs : List Hit}
    {start stop : Nat} (hw : ∀ h ∈ hs, h.Within start stop) (hle : ∀ x, x ≤ lineEnd x) :
    (findings cfg dirAt lineEnd claimed previous hs).Pairwise
      fun f g => lineEnd f.span.stop ≤ g.start := by
  induction hs generalizing claimed previous with
  | nil => exact List.Pairwise.nil
  | cons h hs ih =>
    have hrest : ∀ k ∈ hs, k.Within start stop := fun k hk => hw k (List.mem_cons_of_mem h hk)
    rw [findings]
    split
    · exact ih hrest
    · split
      · exact ih hrest
      · exact List.Pairwise.cons (le_start_of_mem_findings hrest hle) (ih hrest)

/-! ## 4. Links -/

/-- No match of a rule has an empty link. -/
def RuleSet.LinksNonempty (s : RuleSet) : Prop :=
  ∀ r ∈ s.rules, ∀ t, ∀ f ∈ r.hits t 0, ∀ g ∈ r.hyperlink, ∀ p ∈ f.group g, p.start < p.stop

/-- Rules that link their messages as a whole have no empty links. -/
theorem RuleSet.linksNonempty_of_whole {s : RuleSet} (h : ∀ r ∈ s.rules, ∀ g ∈ r.hyperlink, g = 0) :
    s.LinksNonempty := by
  intro r hr t f hf g hg p hp
  rw [h r hr g hg] at hp
  have hspan : f.span = p := by
    unfold Found.span
    rw [hp]
    rfl
  rw [← hspan]
  exact (Rule.within_of_mem_hits hf).2

theorem RuleSet.LinksNonempty.findings {s : RuleSet} (h : s.LinksNonempty) {t : Text} {base : Nat}
    {claimed : Nat} {previous : Option Origin} {f : Finding}
    (hf : f ∈ findings cfg dirAt lineEnd claimed previous (s.hits t base)) :
    f.hyperlink.start < f.hyperlink.stop := by
  obtain ⟨k, hk, o, rfl⟩ := exists_hit_of_mem hf
  obtain ⟨hrule, hfound⟩ := s.mem_of_mem_hits t base hk
  show ((k.rule.hyperlink.bind k.found.group).getD k.found.span).start
    < ((k.rule.hyperlink.bind k.found.group).getD k.found.span).stop
  -- a message without a link group is linked as a whole
  cases hs : k.rule.hyperlink.bind k.found.group with
  | none => exact (s.within_of_mem_hits t base hk).nonempty
  | some p =>
    obtain ⟨g, hg, hgp⟩ := Option.bind_eq_some_iff.mp hs
    obtain ⟨e, he, hshift⟩ := Rule.exists_of_mem_hits hfound
    rw [hshift, Found.group_shift, Option.map_eq_some_iff] at hgp
    obtain ⟨q, hq, rfl⟩ := hgp
    exact Nat.add_lt_add_right (h k.rule hrule t e he g hg q hq) base

end Findings

end BuildLog
