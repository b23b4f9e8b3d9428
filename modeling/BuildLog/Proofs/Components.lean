import BuildLog.Path

/-!
# Components — a path in normal form is known by its components

Folding leaves no dots, and the root at most in front.  Such components can be read back from the
text that they are written as, so two paths in normal form that have the same components are one
text.
-/

namespace BuildLog

/-! ## 1. Components of a path -/

/-- What stands in a path for itself: a name that is no dots, and has no slash in it. -/
def Component.Plain : Component → Prop
  | .normal name => name ≠ [] ∧ name ≠ ['.'] ∧ name ≠ ['.', '.'] ∧ '/' ∉ name
  | _ => True

namespace Path

theorem same_iff {p q : Path} : p.same q ↔ p.components = q.components := decide_eq_true_iff

theorem pieces_eq_splitOn (t : Text) : pieces t = t.splitOn '/' := by
  induction t with
  | nil => rfl
  | cons c t ih =>
    rw [List.splitOn, List.splitOnP_cons_eq_if_modifyHead, ← List.splitOn, ← ih, pieces]
    cases hp : pieces t with
    | nil => rw [ih] at hp; exact absurd hp (List.splitOn_ne_nil _ _)
    | cons p ps =>
      by_cases hc : c = '/'
      · simp [hc]
      · simp [hc]

theorem exists_cons_pieces (t : Text) : ∃ piece ps, pieces t = piece :: ps := by
  rw [pieces_eq_splitOn]
  exact List.exists_cons_of_ne_nil (List.splitOn_ne_nil _ _)

theorem slash_not_mem_pieces {t piece : Text} (h : piece ∈ pieces t) : '/' ∉ piece := by
  induction t generalizing piece with
  | nil =>
    cases List.mem_singleton.mp h
    exact List.not_mem_nil
  | cons c t ih =>
    rw [pieces] at h
    cases hp : pieces t with
    | nil => rw [hp] at h; cases h
    | cons p ps =>
      rw [hp] at h ih
      dsimp only at h
      split at h
      · rcases List.mem_cons.mp h with rfl | h
        · exact List.not_mem_nil
        · exact ih h
      · rename_i hc
        rcases List.mem_cons.mp h with rfl | h
        · rw [List.mem_cons, not_or]
          exact ⟨Ne.symm hc, ih List.mem_cons_self⟩
        · exact ih (List.mem_cons_of_mem p h)

theorem plain_of_component? {piece : Text} {c : Component} (hp : '/' ∉ piece)
    (h : component? piece = some c) : c.Plain := by
  unfold component? at h
  split at h
  · cases h
  · rename_i hdot
    simp only [Bool.or_eq_true, decide_eq_true_eq, not_or] at hdot
    split at h
    · cases h
      trivial
    · rename_i hdots
      cases h
      exact ⟨hdot.1, hdot.2, hdots, hp⟩

theorem plain_of_mem_components {p : Path} {c : Component} (h : c ∈ p.components) : c.Plain := by
  have hpieces : ∀ c ∈ (pieces p.text).filterMap component?, c.Plain := by
    intro c hc
    obtain ⟨piece, hmem, hpiece⟩ := List.mem_filterMap.mp hc
    exact plain_of_component? (slash_not_mem_pieces hmem) hpiece
  unfold components at h
  dsimp only at h
  split at h
  · rcases List.mem_cons.mp h with rfl | h
    · trivial
    · exact hpieces c h
  · split at h
    · rcases List.mem_cons.mp h with rfl | h
      · trivial
      · exact hpieces c h
    · exact hpieces c h

/-! ## 2. Folded components -/

/-- Components without dots, and with the root at most in front. -/
structure Folded (cs : List Component) : Prop where
  plain : ∀ c ∈ cs, c.Plain ∧ c ≠ .current
  root : .root ∉ cs.tail

theorem Folded.of_cons {c : Component} {cs : List Component} (h : Folded (c :: cs)) :
    ∀ d ∈ cs, d.Plain ∧ d ≠ .current ∧ d ≠ .root :=
  fun d hd => ⟨(h.plain d (List.mem_cons_of_mem c hd)).1, (h.plain d (List.mem_cons_of_mem c hd)).2,
    fun heq => h.root (heq ▸ hd)⟩

theorem folded_step {acc : List Component} (h : Folded acc.reverse) {c : Component} (hc : c.Plain) :
    Folded (step acc c).reverse := by
  have hroot : .root ∉ acc.dropLast := by
    have := h.root
    rwa [List.tail_reverse, List.mem_reverse] at this
  have hplain : ∀ d ∈ acc, d.Plain ∧ d ≠ .current := fun d hd => h.plain d (List.mem_reverse.mpr hd)
  -- a component that is no root and no dot can be put behind all others
  have hcons : ∀ d : Component, d.Plain → d ≠ .current → d ≠ .root →
      Folded (d :: acc).reverse := by
    intro d hd hcur hne
    refine ⟨fun e he => ?_, ?_⟩
    · rcases List.mem_cons.mp (List.mem_reverse.mp he) with rfl | he
      · exact ⟨hd, hcur⟩
      · exact hplain e he
    · rw [List.tail_reverse, List.mem_reverse]
      cases acc with
      | nil => exact List.not_mem_nil
      | cons a acc =>
        rw [List.dropLast_cons_cons, List.mem_cons, not_or]
        exact ⟨hne.symm, hroot⟩
  cases c with
  | current => exact h
  | root => exact ⟨fun d hd => by cases List.mem_singleton.mp hd; exact ⟨trivial, nofun⟩, nofun⟩
  | normal name => exact hcons (.normal name) hc nofun nofun
  | parent =>
    unfold step
    dsimp only
    split
    · -- it takes back the name before it, and the root stays where it was
      rename_i name acc
      refine ⟨fun d hd => hplain d (List.mem_cons_of_mem _ (List.mem_reverse.mp hd)), ?_⟩
      rw [List.tail_reverse, List.mem_reverse]
      cases acc with
      | nil => exact List.not_mem_nil
      | cons a acc =>
        rw [List.dropLast_cons_cons] at hroot
        exact fun hmem => hroot (List.mem_cons_of_mem _ hmem)
    · exact h
    · exact hcons .parent trivial nofun nofun

theorem folded_fold {cs : List Component} (h : ∀ c ∈ cs, c.Plain) : Folded (fold cs) := by
  -- the components met so far are kept last first
  unfold fold
  suffices ∀ acc : List Component, Folded acc.reverse → Folded (cs.foldl step acc).reverse from
    this [] ⟨nofun, nofun⟩
  induction cs with
  | nil => exact fun acc hacc => hacc
  | cons c cs ih =>
    intro acc hacc
    exact ih (fun d hd => h d (List.mem_cons_of_mem c hd)) _
      (folded_step hacc (h c List.mem_cons_self))

/-! ## 3. Reading components back -/

theorem component?_componentText {c : Component} (hc : c.Plain) (hcur : c ≠ .current)
    (hroot : c ≠ .root) : component? (componentText c) = some c := by
  cases c with
  | root => exact absurd rfl hroot
  | current => exact absurd rfl hcur
  | parent => rfl
  | normal name =>
    obtain ⟨h₁, h₂, h₃, -⟩ := hc
    simp [component?, componentText, h₁, h₂, h₃]

theorem filterMap_component? {cs : List Component}
    (h : ∀ c ∈ cs, c.Plain ∧ c ≠ .current ∧ c ≠ .root) :
    (cs.map componentText).filterMap component? = cs := by
  induction cs with
  | nil => rfl
  | cons c cs ih =>
    obtain ⟨hc, hcur, hroot⟩ := h c List.mem_cons_self
    rw [List.map_cons, List.filterMap_cons_some (component?_componentText hc hcur hroot),
      ih fun d hd => h d (List.mem_cons_of_mem c hd)]

theorem slash_not_mem_componentText {c : Component} (hc : c.Plain) : '/' ∉ componentText c := by
  cases c with
  | normal name => exact hc.2.2.2
  | root => exact List.not_mem_nil
  | current => decide
  | parent => decide

theorem componentText_ne_dot {c : Component} (hc : c.Plain) (hcur : c ≠ .current) :
    componentText c ≠ ['.'] := by
  cases c with
  | normal name => exact hc.2.1
  | root => decide
  | current => exact absurd rfl hcur
  | parent => decide

theorem componentText_ne_nil {c : Component} (hc : c.Plain) (hroot : c ≠ .root) :
    componentText c ≠ [] := by
  cases c with
  | normal name => exact hc.1
  | root => exact absurd rfl hroot
  | current => decide
  | parent => decide

theorem pieces_ofComponents {cs : List Component} (h : Folded cs) (hne : cs ≠ [])
    (hroot : cs ≠ [.root]) : pieces (ofComponents cs).text = cs.map componentText := by
  rw [ofComponents, if_neg hroot, pieces_eq_splitOn]
  refine List.splitOn_intercalate '/' (fun piece hpiece => ?_) (by simpa using hne)
  obtain ⟨c, hc, rfl⟩ := List.mem_map.mp hpiece
  exact slash_not_mem_componentText (h.plain c hc).1

/-- A written path is absolute just if its first piece is empty and others follow. -/
theorem isAbsolute_iff {p : Path} :
    p.isAbsolute ↔ ∃ piece ps, pieces p.text = [] :: piece :: ps := by
  obtain ⟨t⟩ := p
  cases t with
  | nil => simp [isAbsolute, pieces]
  | cons c t =>
    obtain ⟨piece, ps, hps⟩ := exists_cons_pieces t
    by_cases hc : c = '/'
    · simp [isAbsolute, pieces, hps, hc]
    · simp [isAbsolute, pieces, hps, hc]

/-- Folded components are those of the path that they are written as. -/
theorem components_ofComponents {cs : List Component} (h : Folded cs) :
    (ofComponents cs).components = cs := by
  by_cases hroot : cs = [.root]
  · rw [hroot]
    rfl
  · cases cs with
    | nil => rfl
    | cons c cs =>
      have hpieces := pieces_ofComponents h (List.cons_ne_nil c cs) hroot
      have hrest := filterMap_component? h.of_cons
      obtain ⟨hc, hcur⟩ := h.plain c List.mem_cons_self
      unfold components
      dsimp only
      by_cases hcr : c = .root
      · -- the text begins with a slash, behind which the other components are
        subst hcr
        have hne : cs ≠ [] := fun hnil => hroot (by rw [hnil])
        obtain ⟨d, ds, rfl⟩ := List.exists_cons_of_ne_nil hne
        rw [if_pos (isAbsolute_iff.mpr ⟨_, _, hpieces⟩), hpieces, List.map_cons,
          List.filterMap_cons_none rfl, hrest]
      · -- the text begins with the first component, which is neither empty nor a dot
        have hrel : ¬ (ofComponents (c :: cs)).isAbsolute = true := by
          rw [isAbsolute_iff]
          rintro ⟨piece, ps, heq⟩
          rw [hpieces, List.map_cons, List.cons.injEq] at heq
          exact componentText_ne_nil hc hcr heq.1
        have hdot : ¬ (pieces (ofComponents (c :: cs)).text).head? = some ['.'] := by
          rw [hpieces, List.map_cons, List.head?_cons, Option.some.injEq]
          exact componentText_ne_dot hc hcur
        rw [if_neg hrel, if_neg hdot, hpieces]
        rw [List.map_cons, List.filterMap_cons_some (component?_componentText hc hcur hcr), hrest]

theorem components_normalize (p : Path) : p.normalize.components = fold p.components :=
  components_ofComponents (folded_fold fun _ => plain_of_mem_components)

/-- In normal form, the components of a path are written in one way. -/
theorem normalize_inj {p q : Path} (h : p.normalize.components = q.normalize.components) :
    p.normalize = q.normalize := by
  rw [components_normalize, components_normalize] at h
  rw [normalize, normalize, h]

end Path

end BuildLog
