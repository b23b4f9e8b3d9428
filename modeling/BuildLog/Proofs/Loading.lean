import BuildLog.Directory
import BuildLog.Proofs.Extents
import BuildLog.Proofs.Footprints
import BuildLog.Rule.Catalog
import Mathlib

/-!
# Loading — the rules of the catalog

Every pattern of the catalog can be read, its automata are small enough, and the roles refer to
groups that are there.  The names differ, and one search can look for all patterns.  So the rules of
the catalog can always be had, they are those that the grammars describe, and any of them can be
selected by their names.  The usual pattern for directories can be had, too.
-/

namespace BuildLog

open Pattern

/-! ## 1. Reading item by item -/

/-- The characters of a text that is written down. -/
theorem toList_of_eq {s : String} {l : List Char} (h : s = String.ofList l) : s.toList = l := by
  rw [h, String.toList_ofList]

namespace Pattern

theorem run_bind_of_run {α β : Type} {x : Read α} {f : α → Read β} {a : α} {s s' : ReadState}
    (h : x.run s = .ok (a, s')) : (x >>= f).run s = (f a).run s' := by
  rw [StateT.run_bind, h]
  rfl

theorem readRepetitions_of_not_mem (fuel : Nat) (p : Piece) {s : ReadState} {d : Char}
    {after : List Char} (hs : s.rest = d :: after) (hverbose : s.flags.verbose = false)
    (hd : d ∉ ['*', '+', '?', '\x7b']) :
    (readRepetitions (fuel + 1) p).run s = .ok (p, s) := by
  simp only [List.mem_cons, List.not_mem_nil, or_false, not_or] at hd
  obtain ⟨h₁, h₂, h₃, h₄⟩ := hd
  simp [readRepetitions, readRepetition?, skip, take?, hs, hverbose, Ne.symm h₁, Ne.symm h₂,
    Ne.symm h₃, Ne.symm h₄]
  rfl

/-- An item that is not repeated becomes a part of the sequence. -/
theorem readChoices_item {fuel : Nat} {c d : Char} {rest after : List Char} {p : Piece}
    {parts : List Piece} (hc : c ≠ ')' ∧ c ≠ '|') (hd : d ∉ ['*', '+', '?', '\x7b'])
    (h : (readItem (fuel + 1) 0 c).run { rest, flags := lineFlags }
      = .ok (some p, { rest := d :: after, flags := lineFlags })) :
    (readChoices (fuel + 2) 0 [] parts).run { rest := c :: rest, flags := lineFlags }
      = (readChoices (fuel + 1) 0 [] (p :: parts)).run
        { rest := d :: after, flags := lineFlags } := by
  have hpeek : ∀ f : Option Char → Read Piece,
      (do skip; f (← peek)).run { rest := c :: rest, flags := lineFlags }
        = (f (some c)).run { rest := c :: rest, flags := lineFlags } := fun _ => rfl
  have hadvance : ∀ f : Read Piece,
      (do advance; f).run { rest := c :: rest, flags := lineFlags }
        = f.run { rest, flags := lineFlags } := fun _ => rfl
  rw [readChoices, hpeek]
  split
  · contradiction
  · simp_all
  · simp_all
  · rename_i heq
    cases heq
    rw [hadvance, run_bind_of_run h]
    -- what comes next begins no repetition
    exact run_bind_of_run (readRepetitions_of_not_mem fuel p rfl rfl hd)

end Pattern

/-! ## 2. Word characters -/

set_option maxRecDepth 100000 in
/-- Word characters are in many ranges, and a newline is in none. -/
theorem word_ranges :
    Footprint.setWeight Unicode.word ≤ 170000 ∧ Unicode.word.contains '\n' = false := by
  obtain ⟨s, hs⟩ : ∃ s, s = Unicode.word := ⟨_, rfl⟩
  rw [← hs]
  -- the tables are spelled out before anything is computed from them
  unfold Unicode.word Unicode.alphabetic Unicode.decimal Unicode.charsOf
    Unicode.otherAlphabetic at hs
  dsimp only [Unicode.Category.letters, Unicode.Category.marks, List.map, Unicode.Category.chars,
    Unicode.ofGaps, Unicode.Category.table] at hs
  simp (disch := exact rfl) only [String.toList_append, toList_of_eq, List.append_assoc] at hs
  rw [hs]
  decide +kernel

/-- The day and the month of a date, in characters of `s`. -/
def dayAndMonth (s : CharSet) : List Expr :=
  [.one s, .one s, .one s, .one (.singleton ' '), .one s, .one s, .one s]

/-- What follows the day and the month in a line that names a file. -/
def restOfDate : List Expr :=
  let digit (lo hi : Char) : Expr := .one (.ofRange lo.toNat hi.toNat)
  let blanks : Expr := .times (.one (.singleton ' ')) 1 none true
  let colon : Expr := .one (.singleton ':')
  [blanks, .times (digit '0' '3') 0 (some 1) true, digit '0' '9', blanks, digit '0' '2',
    digit '0' '9', colon, digit '0' '5', digit '0' '9', colon, digit '0' '5', digit '0' '9',
    .one (.singleton ' '), digit '1' '2', .one ⟨[(48, 48), (57, 57)]⟩, digit '0' '9', digit '0' '9',
    blanks, .group 1 none (.times (.one ⟨[(0, 9), (11, 12), (14, 1114111)]⟩) 0 none true), colon,
    .look .anyLineEnd]

/-- A line with a date, in which the day and the month are of characters of `s`. -/
def dated (s : CharSet) : Expr := (dayAndMonth s ++ restOfDate).foldl .cat (.look .anyLineStart)

/-- The parts of a line with a date up to the month, last one first. -/
def datedParts (s : CharSet) : List Piece :=
  (dayAndMonth s).reverse.map (⟨·, 0⟩) ++ [⟨.look .anyLineStart, 0⟩]

/-- The text of `restOfDate`, without the blank that comes first. -/
def restOfDateText : List Char :=
  "+[0-3]?[0-9] +[0-2][0-9]:[0-5][0-9]:[0-5][0-9] [12][09][0-9][0-9] +(.*):$".toList

/-- The text of a line with a date. -/
def datedText : List Char :=
  ['^', '\\', 'w', '\\', 'w', '\\', 'w', ' ', '\\', 'w', '\\', 'w', '\\', 'w', ' ']
    ++ restOfDateText

/-- Word characters are not looked into while they are read. -/
theorem readChoices_dayAndMonth (fuel : Nat) :
    (readChoices (fuel + 9) 0 [] []).run { rest := datedText, flags := lineFlags }
      = (readChoices (fuel + 1) 0 [] (datedParts Unicode.word)).run
        { rest := ' ' :: restOfDateText, flags := lineFlags } := by
  simp only [datedText, List.cons_append, List.nil_append]
  rw [readChoices_item (d := '\\') (p := ⟨.look .anyLineStart, 0⟩) (by decide) (by decide) rfl]
  iterate 2
    rw [readChoices_item (d := '\\') (p := ⟨.one Unicode.word, 0⟩) (by decide) (by decide) rfl]
  rw [readChoices_item (d := ' ') (p := ⟨.one Unicode.word, 0⟩) (by decide) (by decide) rfl]
  rw [readChoices_item (d := '\\') (p := ⟨.one (.singleton ' '), 0⟩) (by decide) (by decide) rfl]
  iterate 2
    rw [readChoices_item (d := '\\') (p := ⟨.one Unicode.word, 0⟩) (by decide) (by decide) rfl]
  rw [readChoices_item (d := ' ') (p := ⟨.one Unicode.word, 0⟩) (by decide) (by decide) rfl]
  rfl

set_option maxRecDepth 1000000 in
theorem readChoices_restOfDate (s : CharSet) :
    (readChoices 352 0 [] (datedParts s)).run
      { rest := ' ' :: restOfDateText, flags := lineFlags }
      = .ok (⟨dated s, 3⟩, { rest := [], flags := lineFlags, groups := 1 }) := by
  unfold restOfDateText
  rw [toList_of_eq rfl]
  cbv

theorem datedText_eq :
    datedText = "^\\w\\w\\w \\w\\w\\w +[0-3]?[0-9] +[0-2][0-9]:[0-5][0-9]:[0-5][0-9] [12][09][0-9][0-9] +(.*):$".toList := by
  unfold datedText restOfDateText
  rw [toList_of_eq rfl, toList_of_eq rfl]
  rfl

theorem ofText_dated : Expr.ofText lineFlags datedText = .ok (dated Unicode.word) := by
  have hlength : 4 * datedText.length + 8 = 351 + 9 := by
    unfold datedText restOfDateText
    rw [toList_of_eq rfl]
    rfl
  rw [Expr.ofText, hlength, readChoices_dayAndMonth, readChoices_restOfDate]
  rfl

theorem weight_dated_le (backward : Bool) {s : CharSet} {n : Nat}
    (hs : Footprint.setWeight s ≤ n) :
    Footprint.weight backward (dated s) ≤ 6 * n + 10000 := by
  have hone := Footprint.weight_one_le backward s
  have hrest : (restOfDate.map (Footprint.weight backward)).sum ≤ 9000 := by
    cases backward <;> decide +kernel
  have hspace : Footprint.weight backward (.one (.singleton ' ')) = 32 := by
    cases backward <;> decide +kernel
  have hlook : Footprint.weight backward (.look .anyLineStart) = 32 := rfl
  rw [dated, Footprint.weight_foldl_cat, List.map_append, List.sum_append, dayAndMonth, hlook]
  simp only [List.map_cons, List.map_nil, List.sum_cons, List.sum_nil, hspace]
  omega

/-- What comes later touches lines first. -/
theorem linesBefore_foldl_cat (e : Expr) (es : List Expr) (n : Nat) :
    (es.foldl .cat e).linesBefore n
      = (es.foldr (fun e n => n.bind e.linesBefore) (some n)).bind e.linesBefore := by
  induction es generalizing e with
  | nil => rfl
  | cons a es ih => rw [List.foldl_cons, ih, List.foldr_cons, Option.bind_assoc]; rfl

theorem linesBefore_dated {s : CharSet} (hs : s.contains '\n' = false) :
    (dated s).linesBefore 0 = some 1 := by
  have hrest : restOfDate.foldr (fun e n => n.bind e.linesBefore) (some 0) = some 1 := by
    decide +kernel
  rw [dated, linesBefore_foldl_cat, List.foldr_append, hrest]
  have hspace : (CharSet.singleton ' ').contains '\n' = false := by decide
  simp [dayAndMonth, Expr.linesBefore, linesFrom, hs, hspace]

/-! ## 4. Grammars -/

namespace Grammar

/-- The expression that the pattern of a grammar is read as. -/
def expr (g : Grammar) : Expr := ((Expr.ofText lineFlags g.pattern.toList).toOption).getD .empty

/-- The rule that a grammar describes, if its pattern is read as `e`. -/
def ruleOf (g : Grammar) (e : Expr) : Rule :=
  Rule.withLines
    { name := g.name
      pattern := ⟨g.pattern, e, e.program⟩
      file := g.roles.file
      line := g.roles.line
      column := g.roles.column
      severity := g.roles.severity
      hyperlink := g.roles.hyperlink
      highlights := g.roles.highlights
      flushes := g.roles.flushes } g.roles.lines

/-- The rule that a grammar describes. -/
def loaded (g : Grammar) : Rule := g.ruleOf g.expr

/-- The bytes that the automata of a grammar of this name may take.  Word characters are in many
ranges. -/
def share (name : String) : Nat := if name = "sparc-pascal-file" then 1100000 else 100000

/-- Texts in which a match touches more lines than the grammar says, for the grammars that admit
such matches. -/
def overruns : List (String × Text) := [
  ("cmake", "CMake Error at a:1 (b\nc):\n".toList),
  ("cmake-info", "  a:1 (b\nc)\n".toList),
  ("iar", "\"a\",1\nError[2]:\n".toList),
  ("ruby-Test::Unit", "    \na:1:in x\n".toList)]

/-- Whether the matches of an expression touch as many lines as the grammar says, unless there is
a text that shows the contrary. -/
def spans (g : Grammar) (e : Expr) : Bool :=
  match overruns.lookup g.name with
  | none => (e.linesBefore 0).any (· ≤ max g.roles.lines 1)
  | some t => (e.program.allMatches t.toArray).any fun m =>
    max g.roles.lines 1 ≤ (t.toArray.extract m.span.start m.span.stop).toList.dropLast.count '\n'

/-- Whether an expression is small enough for its share, the roles of the grammar refer to its
groups, and its matches touch as many lines as expected. -/
def suits (g : Grammar) (e : Expr) : Bool :=
  decide (∀ backward, Footprint.weight backward e ≤ share g.name)
    && (g.ruleOf e).validate.toBool && g.spans e

/-- Whether a text is read as an expression that suits the grammar. -/
def reads (g : Grammar) (text : List Char) : Bool :=
  match Expr.ofText lineFlags text with
  | .ok e => g.suits e
  | .error _ => false

end Grammar

theorem reads_dated {g : Grammar} (hname : g.name = "sparc-pascal-file")
    (hlines : g.roles.lines = 1) (hvalid : (g.ruleOf (dated Unicode.word)).validate = .ok ()) :
    g.reads datedText := by
  obtain ⟨hweight, hnewline⟩ := word_ranges
  have hsmall : ∀ backward,
      Footprint.weight backward (dated Unicode.word) ≤ Grammar.share g.name := by
    intro backward
    have h := weight_dated_le backward hweight
    have hshare : Grammar.share "sparc-pascal-file" = 1100000 := by decide
    rw [hname]
    omega
  have hnone : Grammar.overruns.lookup g.name = none := by
    rw [hname]
    rfl
  simp [Grammar.reads, ofText_dated, Grammar.suits, hsmall, hvalid, Grammar.spans, hnone,
    linesBefore_dated hnewline, hlines, Except.toBool]

set_option maxRecDepth 100000 in
theorem reads_catalog : ∀ g ∈ catalog, g.reads g.pattern.toList := by
  unfold catalog
  -- all but one are read by computation
  iterate 39
    refine List.forall_mem_cons.mpr ⟨?_, ?_⟩
    · rw [toList_of_eq rfl]
      decide +kernel
  refine List.forall_mem_cons.mpr ⟨?_, ?_⟩
  · rw [← datedText_eq]
    exact reads_dated rfl rfl rfl
  iterate 19
    refine List.forall_mem_cons.mpr ⟨?_, ?_⟩
    · rw [toList_of_eq rfl]
      decide +kernel
  exact List.forall_mem_nil _

/-- What the reading of a grammar of the catalog comes to. -/
structure Grammar.Sound (g : Grammar) : Prop where
  ofText : Expr.ofText lineFlags g.pattern.toList = .ok g.expr
  weight_le : ∀ backward, Footprint.weight backward g.expr ≤ share g.name
  valid : g.loaded.validate = .ok ()
  spans : g.spans g.expr

theorem Grammar.sound_of_mem {g : Grammar} (hg : g ∈ catalog) : g.Sound := by
  have h := reads_catalog g hg
  unfold reads at h
  split at h
  · rename_i e he
    have hexpr : g.expr = e := by
      rw [expr, he]
      rfl
    unfold suits at h
    simp only [Bool.and_eq_true, decide_eq_true_eq] at h
    obtain ⟨⟨hweight, hvalid⟩, hspans⟩ := h
    rw [← hexpr] at he hweight hvalid hspans
    refine ⟨he, hweight, ?_, hspans⟩
    unfold loaded
    cases hv : (g.ruleOf g.expr).validate with
    | ok u => rfl
    | error e =>
      rw [hv] at hvalid
      cases hvalid
  · cases h

/-- A pattern whose automata are not too large can be had. -/
theorem Pattern.forLines_eq_ok {source : String} {e : Expr}
    (hread : Expr.ofText lineFlags source.toList = .ok e)
    (hweight : ∀ backward, Footprint.weight backward e ≤ 1100000) :
    forLines source = .ok ⟨source, e, e.program⟩ := by
  have hfits : Footprint.fits true [e] := by
    refine Footprint.fits_of_weightAll (fun backward => ?_) true
    have := hweight backward
    simp only [Footprint.weightAll, Footprint.limit, List.map_cons, List.map_nil, List.sum_cons,
      List.sum_nil]
    omega
  rw [forLines, ofString, hread]
  dsimp only
  rw [if_pos hfits]

theorem Grammar.Sound.rule_eq_ok {g : Grammar} (h : g.Sound) : g.rule = .ok g.loaded := by
  have hshare : Grammar.share g.name ≤ 1100000 := by
    unfold Grammar.share
    split <;> omega
  have hpattern := Pattern.forLines_eq_ok h.ofText fun backward =>
    Nat.le_trans (h.weight_le backward) hshare
  rw [Grammar.rule, Rule.ofPattern, hpattern]
  rfl

/-! ## 5. Sets of rules -/

theorem mapM_eq_ok {α β ε : Type} {f : α → Except ε β} {g : α → β} {l : List α}
    (h : ∀ a ∈ l, f a = .ok (g a)) : l.mapM f = .ok (l.map g) := by
  induction l with
  | nil => rfl
  | cons a l ih =>
    obtain ⟨ha, hl⟩ := List.forall_mem_cons.mp h
    rw [List.mapM_cons, ha, ih hl]
    rfl

/-- Sound rules whose names differ pass the check. -/
theorem RuleSet.check_eq_ok {seen : List String} {rs : List Rule}
    (hvalid : ∀ r ∈ rs, r.validate = .ok ()) (hnames : (rs.map (·.name)).Nodup)
    (hseen : ∀ r ∈ rs, r.name ∉ seen) : check seen rs = .ok () := by
  induction rs generalizing seen with
  | nil => rfl
  | cons r rs ih =>
    obtain ⟨hr, hrs⟩ := List.forall_mem_cons.mp hvalid
    obtain ⟨hfirst, hrest⟩ := List.forall_mem_cons.mp hseen
    rw [List.map_cons, List.nodup_cons] at hnames
    rw [check, hr]
    dsimp only
    rw [if_neg (by simpa using hfirst)]
    refine ih hrs hnames.2 fun r' hr' hmem => ?_
    rcases List.mem_cons.mp hmem with heq | hmem
    · exact hnames.1 (heq ▸ List.mem_map_of_mem hr')
    · exact hrest r' hr' hmem

theorem sum_map_le_of_subperm {α : Type} (f : α → Nat) {xs ys : List α} (h : xs.Subperm ys) :
    (xs.map f).sum ≤ (ys.map f).sum := by
  obtain ⟨zs, hperm, hsub⟩ := h
  rw [← (hperm.map f).sum_nat]
  exact (hsub.map f).sum_le_sum fun _ _ => Nat.zero_le _

/-- Some grammars of the catalog, each once, have room in one search. -/
theorem sum_share_le {names : List String} (hnodup : names.Nodup)
    (hmem : ∀ n ∈ names, n ∈ RuleSet.catalogNames) :
    (names.map fun n => Grammar.share n + 200).sum ≤ 8000000 := by
  have hall : (RuleSet.catalogNames.map fun n => Grammar.share n + 200).sum ≤ 8000000 := by
    decide +kernel
  -- no name is there twice, so the shares are among those of all names
  have hsub : names.Subperm RuleSet.catalogNames := List.subperm_of_subset hnodup hmem
  exact Nat.le_trans (sum_map_le_of_subperm _ hsub) hall

theorem Grammar.name_loaded (g : Grammar) : g.loaded.name = g.name := rfl

theorem Grammar.names_loaded (gs : List Grammar) :
    (gs.map loaded).map (·.name) = gs.map (·.name) := by
  rw [List.map_map]
  rfl

/-- Grammars of the catalog, each once and in any order, make a set of rules. -/
theorem RuleSet.ofRules_loaded {gs : List Grammar} (hgs : ∀ g ∈ gs, g ∈ catalog)
    (hnodup : (gs.map (·.name)).Nodup) :
    ofRules (gs.map Grammar.loaded) = .ok ⟨gs.map Grammar.loaded⟩ := by
  have hvalid : ∀ r ∈ gs.map Grammar.loaded, r.validate = .ok () := by
    intro r hr
    obtain ⟨g, hg, rfl⟩ := List.mem_map.mp hr
    exact (Grammar.sound_of_mem (hgs g hg)).valid
  have hfits : fitTogether ((gs.map Grammar.loaded).map (·.pattern)) := by
    refine Footprint.fits_of_weightAll (fun backward => ?_) false
    have hshare := sum_share_le hnodup fun n hn => by
      obtain ⟨g, hg, rfl⟩ := List.mem_map.mp hn
      exact List.mem_map_of_mem (hgs g hg)
    -- the automaton of all takes no more than the shares of each
    have hweight : (((gs.map Grammar.loaded).map (·.pattern.expr)).map fun e =>
        Footprint.weight backward e + 200).sum
        ≤ ((gs.map (·.name)).map fun n => Grammar.share n + 200).sum := by
      rw [List.map_map, List.map_map, List.map_map]
      apply List.sum_le_sum
      intro g hg
      exact Nat.add_le_add_right ((Grammar.sound_of_mem (hgs g hg)).weight_le backward) 200
    rw [List.map_map, Footprint.weightAll, Footprint.limit]
    exact Nat.le_trans (Nat.add_le_add_left (Nat.le_trans hweight hshare) 200) (by decide)
  rw [ofRules, check_eq_ok hvalid (by rwa [Grammar.names_loaded]) fun _ _ => List.not_mem_nil]
  dsimp only
  rw [if_pos hfits]

theorem RuleSet.nodup_catalogNames : catalogNames.Nodup := by
  decide +kernel

/-- The rules of the catalog can be had. -/
theorem RuleSet.builtin_eq_ok : builtin = .ok ⟨catalog.map Grammar.loaded⟩ := by
  have hrules : catalog.mapM Grammar.rule = .ok (catalog.map Grammar.loaded) :=
    mapM_eq_ok fun g hg => (Grammar.sound_of_mem hg).rule_eq_ok
  have hnodup := nodup_catalogNames
  unfold catalogNames at hnodup
  unfold builtin
  rw [hrules]
  exact ofRules_loaded (fun _ hg => hg) hnodup

/-- The rules selected by name are rules of the set. -/
theorem RuleSet.mem_of_select {s : RuleSet} {names : List String} {rs : List Rule}
    (h : s.select names = .ok rs) : ∀ r ∈ rs, r ∈ s.rules := by
  induction names generalizing rs with
  | nil =>
    cases h
    exact List.forall_mem_nil _
  | cons n ns ih =>
    rw [select] at h
    split at h
    · cases h
    · rename_i r hr
      split at h
      · rename_i rs' hrs
        cases h
        exact List.forall_mem_cons.mpr ⟨List.mem_of_find?_eq_some hr, ih hrs⟩
      · cases h

theorem RuleSet.ofRules_eq_ok {rs : List Rule} {s : RuleSet} (h : ofRules rs = .ok s) :
    s.rules = rs := by
  rw [ofRules] at h
  split at h
  · split at h
    · cases h
      rfl
    · cases h
  · cases h

theorem RuleSet.mem_of_only {s s' : RuleSet} {names : List String} (h : s.only names = .ok s') :
    ∀ r ∈ s'.rules, r ∈ s.rules := by
  rw [only] at h
  split at h
  · rename_i rs hrs
    rw [ofRules_eq_ok h]
    exact mem_of_select hrs
  · cases h

/-- A rule is found by its name if no other one has it. -/
theorem RuleSet.lookup_eq_some {s : RuleSet} (hnodup : s.names.Nodup) {r : Rule}
    (hr : r ∈ s.rules) : s.lookup r.name = some r := by
  obtain ⟨rs⟩ := s
  induction rs with
  | nil => cases hr
  | cons r' rs ih =>
    obtain ⟨hfirst, hrest⟩ := List.nodup_cons.mp hnodup
    rcases List.mem_cons.mp hr with rfl | hr
    · exact List.find?_cons_of_pos (decide_eq_true rfl)
    · have hne : r'.name ≠ r.name := by
        intro heq
        exact hfirst (List.mem_map.mpr ⟨r, hr, heq.symm⟩)
      rw [lookup, List.find?_cons_of_neg (by simpa using hne)]
      exact ih hrest hr

theorem RuleSet.lookup_loaded {g : Grammar} (hg : g ∈ catalog) :
    lookup ⟨catalog.map Grammar.loaded⟩ g.name = some g.loaded := by
  refine lookup_eq_some ?_ (List.mem_map_of_mem hg)
  rw [names, Grammar.names_loaded]
  exact nodup_catalogNames

theorem RuleSet.select_loaded {gs : List Grammar} (hgs : ∀ g ∈ gs, g ∈ catalog) :
    select ⟨catalog.map Grammar.loaded⟩ (gs.map (·.name)) = .ok (gs.map Grammar.loaded) := by
  induction gs with
  | nil => rfl
  | cons g gs ih =>
    obtain ⟨hg, hgs⟩ := List.forall_mem_cons.mp hgs
    rw [List.map_cons, select, lookup_loaded hg]
    dsimp only
    rw [ih hgs]
    rfl

/-- Grammars of the catalog, each once, are selected by their names. -/
theorem RuleSet.only_loaded {gs : List Grammar} (hgs : ∀ g ∈ gs, g ∈ catalog)
    (hnodup : (gs.map (·.name)).Nodup) :
    only ⟨catalog.map Grammar.loaded⟩ (gs.map (·.name)) = .ok ⟨gs.map Grammar.loaded⟩ := by
  rw [only, select_loaded hgs]
  exact ofRules_loaded hgs hnodup

/-- Any rules of the catalog can be selected by their names, each once. -/
theorem RuleSet.only_builtin_eq_ok {names : List String} (hnodup : names.Nodup)
    (hmem : ∀ n ∈ names, n ∈ catalogNames) :
    ∃ gs : List Grammar, gs.map (·.name) = names
      ∧ only ⟨catalog.map Grammar.loaded⟩ names = .ok ⟨gs.map Grammar.loaded⟩ := by
  have hgs : ∃ gs : List Grammar, (∀ g ∈ gs, g ∈ catalog) ∧ gs.map (·.name) = names := by
    clear hnodup
    induction names with
    | nil => exact ⟨[], List.forall_mem_nil _, rfl⟩
    | cons n ns ih =>
      obtain ⟨hn, hns⟩ := List.forall_mem_cons.mp hmem
      obtain ⟨g, hg, rfl⟩ := List.mem_map.mp hn
      obtain ⟨gs, hgs, rfl⟩ := ih hns
      exact ⟨g :: gs, List.forall_mem_cons.mpr ⟨hg, hgs⟩, rfl⟩
  obtain ⟨gs, hgs, rfl⟩ := hgs
  exact ⟨gs, rfl, only_loaded hgs hnodup⟩

/-! ## 6. The pattern for directories -/

namespace DirectoryPattern

/-- The expression that the usual pattern for directories is read as. -/
def usualExpr : Expr :=
  ((Expr.ofText lineFlags defaultDirectoryPattern.toList).toOption).getD .empty

/-- The usual pattern for directories. -/
def usual : DirectoryPattern where
  pattern := ⟨defaultDirectoryPattern, usualExpr, usualExpr.program⟩
  dir := 2
  leave := some 1

set_option maxRecDepth 100000 in
theorem reads_usual : (Expr.ofText lineFlags defaultDirectoryPattern.toList).toOption.isSome
    ∧ (∀ backward, Footprint.weight backward usualExpr ≤ 1100000)
    ∧ usual.pattern.groupNamed? "dir" = some 2 ∧ usual.pattern.groupNamed? "leave" = some 1 := by
  unfold usual usualExpr defaultDirectoryPattern
  rw [toList_of_eq rfl]
  decide +kernel

/-- The usual pattern for directories can be had. -/
theorem ofString_default : ofString defaultDirectoryPattern = .ok usual := by
  obtain ⟨hsome, hweight, hdir, hleave⟩ := reads_usual
  have hread : Expr.ofText lineFlags defaultDirectoryPattern.toList = .ok usualExpr := by
    unfold usualExpr
    cases h : Expr.ofText lineFlags defaultDirectoryPattern.toList with
    | ok e => rfl
    | error fault =>
      rw [h] at hsome
      cases hsome
  have hpattern : Pattern.forLines defaultDirectoryPattern = .ok usual.pattern :=
    Pattern.forLines_eq_ok hread hweight
  rw [ofString, hpattern]
  dsimp only
  rw [hdir, hleave]
  rfl

end DirectoryPattern

theorem DirectoryTrail.new_eq : new = { pattern := some .usual } := by
  rw [new, DirectoryPattern.ofString_default]
  rfl

end BuildLog
