import BuildLog.Proofs.Letters
import BuildLog.Proofs.Scans

/-!
# Yielding — which matches become messages

A scan takes the matches of all rules in order.  Each message is a match for which no earlier rule
has one at the same place, and begins behind the line of the message before.  A match that becomes
no message is left out for one of three reasons: a message has claimed its line, an earlier rule has
a match at the same place, or there is no file for it.
-/

namespace BuildLog

/-! ## 1. Scans with the rules that match -/

theorem Pattern.allMatches_of_not_matchesIn {p : Pattern} {input : Array Char}
    (h : ¬ p.matchesIn input) : p.allMatches input = [] := by
  have hfind : p.program.find? input 0 = none := Option.not_isSome_iff_eq_none.mp h
  have hnext : p.program.findNext? input none 0 = none := by
    rw [Program.findNext?, hfind]
  rw [allMatches, Program.allMatches, Program.findAll, hnext]

/-- Rules that match nowhere have no candidates. -/
theorem Candidate.all_filter {rules : List Rule} {input : Array Char} {active : Rule → Bool}
    (h : ∀ r ∈ rules, r.pattern.matchesIn input → active r) :
    all ⟨rules.filter active⟩ input = all ⟨rules⟩ input := by
  have hflat : (rules.filter active).flatMap (ofRule input) = rules.flatMap (ofRule input) := by
    induction rules with
    | nil => rfl
    | cons r rs ih =>
      have hrest := ih fun r' hr' => h r' (List.mem_cons_of_mem r hr')
      by_cases hr : active r
      · rw [List.filter_cons_of_pos hr, List.flatMap_cons, List.flatMap_cons, hrest]
      · have hnone : ofRule input r = [] := by
          rw [ofRule, Pattern.allMatches_of_not_matchesIn (mt (h r List.mem_cons_self) hr)]
          rfl
        rw [List.filter_cons_of_neg hr, List.flatMap_cons, hnone, List.nil_append, hrest]
  rw [all, all, hflat]

/-- Candidates know their rules, so the rules that they were taken from do not matter any more. -/
theorem scanCandidates_rules (cfg : ScanSettings) (rules : RuleSet) (disk : Disk) (text : Text)
    (input : Array Char) (base claimed : Nat) (previous : Option Inherited) (s : ScanState)
    (cs : List Candidate) :
    scanCandidates { cfg with rules } disk text input base claimed previous s cs
      = scanCandidates cfg disk text input base claimed previous s cs := by
  induction cs generalizing claimed previous s with
  | nil => rfl
  | cons c cs ih =>
    have hmessage : c.message? { cfg with rules } disk input base previous s
        = c.message? cfg disk input base previous s := rfl
    rw [scanCandidates, scanCandidates, hmessage]
    cases c.message? cfg disk input base previous s with
    | none => simp only [ih]
    | some r => simp only [ih]

/-- A scan may leave out the rules that match nowhere in its text. -/
theorem scan_filter (cfg : ScanSettings) (disk : Disk) (text : Text) (base : Nat)
    (previous : Option Inherited) (s : ScanState) {active : Rule → Bool}
    (h : ∀ r ∈ cfg.rules.rules, r.pattern.matchesIn text.toArray → active r) :
    scan { cfg with rules := ⟨cfg.rules.rules.filter active⟩ } disk text base previous s
      = scan cfg disk text base previous s := by
  unfold scan
  dsimp only
  rw [scanCandidates_rules, Candidate.all_filter h]

/-! ## 2. Matches and findings -/

/-- The text of a match that is to name its file. -/
def Rule.fileText (r : Rule) (f : Found) : Option Text :=
  (r.file.bind (·.primary f)).bind RoleValue.text?

/-- There is no file for a hit if its name is dropped, or if it has none and no finding was before. -/
theorem Hit.origin?_eq_none_iff {cfg : ScanSettings} {dirAt : Nat → Option Path}
    {previous : Option Origin} {h : Hit} : h.origin? cfg dirAt previous = none
      ↔ (∃ raw, h.rule.fileText h.found = some raw
          ∧ Substitution.applyAll cfg.substitutions raw.trim = none)
        ∨ h.rule.fileText h.found = none ∧ previous = none := by
  unfold origin? Rule.fileText
  cases (h.rule.file.bind (·.primary h.found)).bind RoleValue.text? with
  | none => simp
  | some raw => simp

namespace RuleSet

variable {rules : RuleSet} {cfg : ScanSettings} {dirAt : Nat → Option Path} {lineEnd : Nat → Nat}
  {text : Text} {base : Nat}

/-- Findings begin behind the line of the one before. -/
theorem findings_apart (hle : ∀ x, x ≤ lineEnd x) :
    (findings cfg dirAt lineEnd base none (rules.hits text base)).Pairwise
      fun f g => f.start < g.start ∧ lineEnd f.span.stop ≤ g.start := by
  have hwithin : ∀ h ∈ rules.hits text base, h.Within base (base + text.length) :=
    fun h hh => rules.within_of_mem_hits text base hh
  refine (findings_pairwise hwithin hle).imp_of_mem fun {f g} hf _ hend => ⟨?_, hend⟩
  have hnonempty : f.start < f.span.stop := (within_of_mem_findings hwithin hf).nonempty
  have := hle f.span.stop
  omega

/-- A finding is that of a match of a rule, and no earlier rule has one at the same place. -/
theorem exists_of_mem_findings {g : Finding}
    (hg : g ∈ findings cfg dirAt lineEnd base none (rules.hits text base)) :
    g.start < g.span.stop ∧ ∃ before r after, rules.rules = before ++ r :: after
      ∧ (∃ f ∈ r.hits text base, ∃ o, g = (Hit.mk r f).findingIn cfg o)
      ∧ ∀ r' ∈ before, ∀ f' ∈ r'.hits text base, f'.start ≠ g.start := by
  obtain ⟨h, hh, o, rfl⟩ := exists_hit_of_mem hg
  obtain ⟨before, after, hsplit, hf, hbefore⟩ := (rules.mem_hits_iff text base).mp hh
  exact ⟨(rules.within_of_mem_hits text base hh).nonempty, before, h.rule, after, hsplit,
    ⟨h.found, hf, o, rfl⟩, hbefore⟩

variable (cfg dirAt lineEnd) in
/-- A match has a finding, unless it begins in a line that was claimed before, an earlier rule has a
match at the same place, or there is no file for it. -/
theorem findings_complete {before after : List Rule} {r : Rule}
    (hsplit : rules.rules = before ++ r :: after) {f : Found} (hf : f ∈ r.hits text base) :
    let gs := findings cfg dirAt lineEnd base none (rules.hits text base)
    (∃ o, (Hit.mk r f).findingIn cfg o ∈ gs)
      ∨ (∃ g ∈ gs, g.start < f.start ∧ f.start < lineEnd g.span.stop)
      ∨ (∃ r' ∈ before, ∃ f' ∈ r'.hits text base, f'.start = f.start)
      ∨ (r.fileText f = none ∧ ∀ g ∈ gs, f.start ≤ g.start)
      ∨ ∃ raw, r.fileText f = some raw
        ∧ Substitution.applyAll cfg.substitutions raw.trim = none := by
  intro gs
  by_cases hbefore : ∃ r' ∈ before, ∃ f' ∈ r'.hits text base, f'.start = f.start
  · exact .inr (.inr (.inl hbefore))
  have hh : Hit.mk r f ∈ rules.hits text base := by
    refine (rules.mem_hits_iff text base).mpr ⟨before, after, hsplit, hf, ?_⟩
    exact fun r' hr' f' hf' hstart => hbefore ⟨r', hr', f', hf', hstart⟩
  obtain ⟨fs, gs', hcut, hfs, hgs', hcase⟩ :=
    findings_of_mem cfg dirAt lineEnd base none (rules.hits_inOrder text base) hh
  have hgs : gs = fs ++ gs' := hcut
  rcases hcase with ⟨o, ho⟩ | hclaimed | horigin
  · exact .inl ⟨o, hgs ▸ List.mem_append_right fs ho⟩
  · -- the claim is that of the last finding before, for nothing else is claimed in the text
    unfold claimAfter at hclaimed
    cases hlast : fs.getLast? with
    | none =>
      rw [hlast] at hclaimed
      exact absurd (Rule.within_of_mem_hits hf).1.start_le (Nat.not_le_of_lt hclaimed)
    | some g =>
      rw [hlast] at hclaimed
      have hg : g ∈ fs := List.mem_of_getLast? hlast
      exact .inr (.inl ⟨g, hgs ▸ List.mem_append_left gs' hg, hfs g hg, hclaimed⟩)
  · rcases Hit.origin?_eq_none_iff.mp horigin with hdropped | ⟨hnoText, hnone⟩
    · exact .inr (.inr (.inr (.inr hdropped)))
    · -- no finding was before, so all begin behind the match
      rw [originAfter_none, Option.map_eq_none_iff, List.getLast?_eq_none_iff] at hnone
      refine .inr (.inr (.inr (.inl ⟨hnoText, fun g hg => hgs' g ?_⟩)))
      rwa [hgs, hnone] at hg

end RuleSet

/-! ## 3. Matches and messages -/

/-- What a scan of a text finds, with any trail: messages begin behind the line of the message
before; each is a match of its rule, and no earlier rule has one at the same place; and each match
becomes a message, unless it begins in a line that a message has claimed, an earlier rule has a match
at the same place, or there is no file for it.  To leave out the rules that match nowhere changes
nothing. -/
theorem scan_iff_hits (cfg : ScanSettings) (disk : Disk) (text : Text) (base : Nat) {s : ScanState}
    (hs : s.table.Sound) :
    let ms := (scan cfg disk text base none s).1
    let lineEnd (m : Message) := base + text.lineEndAfter (m.span.stop - base)
    (ms.Pairwise fun m m' => m.start < m'.start ∧ lineEnd m ≤ m'.start)
      ∧ (∀ m ∈ ms, m.start < m.span.stop
        ∧ ∃ before r after, cfg.rules.rules = before ++ r :: after
          ∧ (∃ f ∈ r.hits text base, ∃ o, m.finding = (Hit.mk r f).findingIn cfg o)
          ∧ ∀ r' ∈ before, ∀ f' ∈ r'.hits text base, f'.start ≠ m.start)
      ∧ (∀ before r after, cfg.rules.rules = before ++ r :: after → ∀ f ∈ r.hits text base,
        (∃ m ∈ ms, ∃ o, m.finding = (Hit.mk r f).findingIn cfg o)
          ∨ (∃ m ∈ ms, m.start < f.start ∧ f.start < lineEnd m)
          ∨ (∃ r' ∈ before, ∃ f' ∈ r'.hits text base, f'.start = f.start)
          ∨ (r.fileText f = none ∧ ∀ m ∈ ms, f.start ≤ m.start)
          ∨ ∃ raw, r.fileText f = some raw
            ∧ Substitution.applyAll cfg.substitutions raw.trim = none)
      ∧ ∀ active : Rule → Bool,
        (∀ r ∈ cfg.rules.rules, active r = r.pattern.matchesIn text.toArray) →
          scan { cfg with rules := ⟨cfg.rules.rules.filter active⟩ } disk text base none s
            = scan cfg disk text base none s := by
  intro ms lineEnd
  obtain ⟨dirAt, hscan, -⟩ := exists_scan_eq cfg disk base hs text none
  have hfindings : ms.map Message.finding = findings cfg dirAt _ base none _ := hscan
  refine ⟨?_, fun m hm => ?_, fun before r after hsplit f hf => ?_,
    fun active hactive => scan_filter cfg disk text base none s fun r hr hmatch => ?_⟩
  · have hle : ∀ x, x ≤ base + text.lineEndAfter (x - base) := by
      intro x
      have := text.le_lineEndAfter (x - base)
      omega
    have hapart : (ms.map Message.finding).Pairwise fun f g => f.start < g.start
        ∧ base + text.lineEndAfter (f.span.stop - base) ≤ g.start := by
      rw [hfindings]
      exact RuleSet.findings_apart hle
    rw [List.pairwise_map] at hapart
    exact hapart
  · have hg := List.mem_map_of_mem (f := Message.finding) hm
    rw [hfindings] at hg
    exact RuleSet.exists_of_mem_findings hg
  · -- each case is about messages as it is about their findings
    have hcases := RuleSet.findings_complete cfg dirAt
      (fun stop => base + text.lineEndAfter (stop - base)) hsplit hf
    dsimp only at hcases
    rw [← hfindings] at hcases
    rcases hcases with ⟨o, ho⟩ | ⟨g, hg, hlt, hclaimed⟩ | hearlier | ⟨hnoText, hbehind⟩ | hdropped
    · obtain ⟨m, hm, heq⟩ := List.mem_map.mp ho
      exact .inl ⟨m, hm, o, heq⟩
    · obtain ⟨m, hm, rfl⟩ := List.mem_map.mp hg
      exact .inr (.inl ⟨m, hm, hlt, hclaimed⟩)
    · exact .inr (.inr (.inl hearlier))
    · exact .inr (.inr (.inr (.inl ⟨hnoText, fun m hm => hbehind _ (List.mem_map_of_mem hm)⟩)))
    · exact .inr (.inr (.inr (.inr hdropped)))
  · rw [hactive r hr]
    exact hmatch

/-- Capital letters name files, and digits belong to the file named last. -/
def ScanSettings.numbered : ScanSettings where
  rules := ⟨[.ofSet "capital" (.ofRange 65 90),
    { Rule.ofSet "digit" (.ofRange 48 57) with file := none },
    .ofSet "small" (.ofRange 97 122)]⟩

/-- The first digit has no file, the second is on a line that a letter has claimed, and the third
becomes a message. -/
theorem scan_iff_hits_numbered :
    let s : ScanState := ⟨{ pattern := none }, { workingDir := ⟨['/']⟩ }⟩
    let text : Text := "1\nA2\n3\n".toList
    let ms := (scan .numbered .empty text 10 none s).1
    s.table.Sound
      ∧ ms.map Message.start = [12, 15]
      ∧ (ms.Pairwise fun m m' => m.start < m'.start
        ∧ 10 + text.lineEndAfter (m.span.stop - 10) ≤ m'.start)
      ∧ scan { ScanSettings.numbered with rules := ⟨ScanSettings.numbered.rules.rules.filter fun r =>
          r.pattern.matchesIn text.toArray⟩ } .empty text 10 none s
        = scan .numbered .empty text 10 none s := by
  intro s text ms
  have hs : s.table.Sound := Slots.neat_empty
  obtain ⟨hapart, -, -, hfilter⟩ := scan_iff_hits .numbered .empty text 10 hs
  exact ⟨hs, by decide +kernel, hapart, hfilter _ fun _ _ => rfl⟩

end BuildLog
