import BuildLog.Proofs.Loading
import BuildLog.Proofs.WholeReading

/-!
# Overruns — matches that touch more lines than their rule says

A parser that waits for more text holds back as many lines as the rules say that a match can touch.
Four rules of the catalog say too little: a class of their patterns, white space or all characters
but some, lets a newline through.  All others keep to what they say in any text, and so do the sets
that are selected from them.
-/

namespace BuildLog

open Pattern

/-! ## 1. The lines of a rule's matches -/

/-- No match of the rule touches more than `n` lines: it has fewer newlines, apart from one at its
end. -/
def Rule.SpansAtMost (r : Rule) (n : Nat) : Prop :=
  ∀ t : Text, ∀ m ∈ r.pattern.allMatches t.toArray,
    (t.toArray.extract m.span.start m.span.stop).toList.dropLast.count '\n' ≤ n - 1

theorem Rule.SpansAtMost.mono {r : Rule} {m n : Nat} (h : r.SpansAtMost m) (hmn : m ≤ n) :
    r.SpansAtMost n :=
  fun t k hk => Nat.le_trans (h t k hk) (Nat.sub_le_sub_right hmn 1)

/-- The lines that are read off the expression are as many as its matches touch. -/
theorem Grammar.spansAtMost_of_linesBefore {g : Grammar} {n : Nat}
    (h : g.expr.linesBefore 0 = some n) (hn : n ≤ g.loaded.lines) :
    g.loaded.SpansAtMost g.loaded.lines := by
  intro t m hm
  obtain ⟨start, hfind⟩ := find?_of_mem_findAll hm
  have hle := Nat.le_trans (Expr.linesBefore_of_find? h hfind) hn
  have hpos : 0 < g.loaded.lines := Nat.le_max_right _ _
  exact Nat.le_sub_one_of_lt (Text.count_dropLast_lt hle hpos)

/-- A grammar of the catalog says enough unless there is a text that shows the contrary. -/
theorem Grammar.Sound.spansAtMost_iff {g : Grammar} (h : g.Sound) :
    g.loaded.SpansAtMost g.loaded.lines ↔ overruns.lookup g.name = none := by
  have hspans := h.spans
  unfold Grammar.spans at hspans
  split at hspans
  · -- the bound that is read off the expression holds in every text
    rename_i hnone
    obtain ⟨n, hn, hle⟩ := (Option.any_eq_true _ _).mp hspans
    exact iff_of_true (spansAtMost_of_linesBefore hn (of_decide_eq_true hle)) hnone
  · -- the text has a match that touches more lines
    rename_i t hsome
    refine iff_of_false (fun hfew => ?_) (by simp [hsome])
    obtain ⟨m, hm, hmany⟩ := List.any_eq_true.mp hspans
    have hle := hfew t m hm
    have hlines : g.loaded.lines = max g.roles.lines 1 := rfl
    rw [decide_eq_true_iff] at hmany
    omega

/-! ## 2. The rules of the catalog -/

/-- The rules of the catalog say how many lines their matches touch, but for four.  Any of them can
be selected, each once, and the set holds back enough lines for all of its rules but these four. -/
theorem RuleSet.builtin_spansAtMost_iff {s : RuleSet} (hs : builtin = .ok s)
    (names : List String) :
    s.names = catalogNames
      ∧ (∀ r ∈ s.rules,
          r.SpansAtMost r.lines ↔ r.name ∉ ["cmake", "cmake-info", "iar", "ruby-Test::Unit"])
      ∧ (names.Nodup → (∀ n ∈ names, n ∈ catalogNames) →
          ∃ s', s.only names = .ok s' ∧ s'.names = names)
      ∧ ∀ s', s.only names = .ok s' → ∀ r ∈ s'.rules, r ∈ s.rules
          ∧ (r.name ∉ ["cmake", "cmake-info", "iar", "ruby-Test::Unit"] →
            r.SpansAtMost s'.maxLines) := by
  obtain rfl : s = ⟨catalog.map Grammar.loaded⟩ := by
    rw [builtin_eq_ok] at hs
    cases hs
    rfl
  have hiff : ∀ r ∈ catalog.map Grammar.loaded,
      r.SpansAtMost r.lines ↔ r.name ∉ ["cmake", "cmake-info", "iar", "ruby-Test::Unit"] := by
    intro r hr
    obtain ⟨g, hg, rfl⟩ := List.mem_map.mp hr
    rw [(Grammar.sound_of_mem hg).spansAtMost_iff, List.lookup_eq_none_iff]
    simp [Grammar.overruns, Grammar.name_loaded]
  refine ⟨Grammar.names_loaded catalog, hiff, fun hnodup hmem => ?_, fun s' hs' r hr => ?_⟩
  · obtain ⟨gs, hgs, honly⟩ := only_builtin_eq_ok hnodup hmem
    exact ⟨_, honly, (Grammar.names_loaded gs).trans hgs⟩
  · have hmem := mem_of_only hs' r hr
    exact ⟨hmem, fun hname => ((hiff r hmem).mpr hname).mono (lines_le_maxLines hr)⟩

/-- The catalog, and two of its rules. -/
theorem RuleSet.builtin_spansAtMost_gnu :
    ∃ s s', builtin = .ok s ∧ s.only ["gnu", "cmake"] = .ok s' ∧ s'.names = ["gnu", "cmake"]
      ∧ ∀ r ∈ s'.rules, r.name = "gnu" → r.SpansAtMost s'.maxLines := by
  obtain ⟨-, -, honly, hspans⟩ := builtin_spansAtMost_iff builtin_eq_ok ["gnu", "cmake"]
  obtain ⟨s', hs', hnames⟩ := honly (by decide) (by decide +kernel)
  refine ⟨_, s', builtin_eq_ok, hs', hnames, fun r hr hname => (hspans s' hs' r hr).2 ?_⟩
  rw [hname]
  decide

/-- An error whose rule says one line, with a newline between the parentheses: its match touches
two. -/
theorem RuleSet.builtin_spansAtMost_differs :
    ∃ s, builtin = .ok s ∧ ∃ r ∈ s.rules, r.name = "cmake" ∧ r.lines = 1
      ∧ ∃ m ∈ r.pattern.allMatches "CMake Error at a:1 (b\nc):\n".toList.toArray,
        ¬ ("CMake Error at a:1 (b\nc):\n".toList.toArray.extract m.span.start
          m.span.stop).toList.dropLast.count '\n' ≤ r.lines - 1 := by
  have hg : ∃ g ∈ catalog, g.name = "cmake" ∧ g.roles.lines = 1 := by decide +kernel
  obtain ⟨g, hg, hname, hone⟩ := hg
  have hlines : g.loaded.lines = 1 := by
    show max g.roles.lines 1 = 1
    omega
  have hsome : Grammar.overruns.lookup g.name = some "CMake Error at a:1 (b\nc):\n".toList := by
    rw [hname]
    rfl
  have hspans := (Grammar.sound_of_mem hg).spans
  rw [Grammar.spans, hsome] at hspans
  obtain ⟨m, hm, hmany⟩ := List.any_eq_true.mp hspans
  refine ⟨_, builtin_eq_ok, g.loaded, List.mem_map_of_mem hg, hname, hlines, m, hm, ?_⟩
  rw [decide_eq_true_iff] at hmany
  omega

end BuildLog
