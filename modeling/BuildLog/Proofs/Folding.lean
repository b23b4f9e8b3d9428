import BuildLog.Proofs.Components

/-!
# Folding — what the normal form of a path depends on

Folding cancels a name against the step to a parent behind it, as a free reduction does, but the
root takes such a step in, and steps to a parent with nothing in front of them add up.  What is left
cannot be folded any further.  So a path may be folded at any time before another one is put behind
it, and the paths that folding leaves as they are have a plain shape.
-/

namespace BuildLog.Path

/-! ## 1. Components that are left -/

/-- Components, last one first, in which nothing cancels: names behind the root or behind steps to a
parent. -/
inductive Reduced : List Component → Prop
  | root : Reduced [.root]
  | parents (n : Nat) : Reduced (List.replicate n .parent)
  | normal (name : Text) {acc : List Component} (h : Reduced acc) : Reduced (.normal name :: acc)

theorem step_parents (n : Nat) :
    step (List.replicate n .parent) .parent = List.replicate (n + 1) .parent := by
  cases n <;> rfl

theorem reduced_step {acc : List Component} (h : Reduced acc) (c : Component) :
    Reduced (step acc c) := by
  cases c with
  | root => exact .root
  | current => exact h
  | normal name => exact .normal name h
  | parent =>
    cases h with
    | root => exact .root
    | parents n =>
      rw [step_parents]
      exact .parents (n + 1)
    | normal name h => exact h

theorem reduced_foldl {acc : List Component} (h : Reduced acc) (cs : List Component) :
    Reduced (cs.foldl step acc) := by
  induction cs generalizing acc with
  | nil => exact h
  | cons c cs ih => exact ih (reduced_step h c)

/-- Walking along the components that are left takes none of them back. -/
theorem foldl_reverse {acc : List Component} (h : Reduced acc) : acc.reverse.foldl step [] = acc := by
  induction h with
  | root => rfl
  | parents n =>
    induction n with
    | zero => rfl
    | succ n ih =>
      rw [List.reverse_replicate] at ih ⊢
      calc (List.replicate (n + 1) Component.parent).foldl step []
          = ([Component.parent]).foldl step ((List.replicate n .parent).foldl step []) := by
            rw [List.replicate_succ', List.foldl_append]
        _ = step (List.replicate n .parent) .parent := by
            rw [ih]
            rfl
        _ = List.replicate (n + 1) .parent := step_parents n
  | normal name h ih =>
    rw [List.reverse_cons, List.foldl_append, ih]
    rfl

theorem reduced_fold (cs : List Component) : Reduced (fold cs).reverse := by
  rw [fold, List.reverse_reverse]
  exact reduced_foldl (.parents 0) cs

theorem foldl_fold (cs : List Component) : (fold cs).foldl step [] = cs.foldl step [] :=
  foldl_reverse (reduced_foldl (.parents 0) cs)

theorem fold_fold (cs : List Component) : fold (fold cs) = fold cs :=
  congrArg List.reverse (foldl_fold cs)

/-- Names may be put behind what is left. -/
theorem Reduced.names {acc : List Component} (h : Reduced acc) (names : List Text) :
    Reduced (names.map .normal ++ acc) := by
  induction names with
  | nil => exact h
  | cons name names ih => exact .normal name ih

theorem Reduced.eq_append {acc : List Component} (h : Reduced acc) : ∃ (n : Nat) (names : List Text),
    acc.reverse = (if .root ∈ acc then [.root] else List.replicate n .parent)
      ++ names.map .normal := by
  induction h with
  | root => exact ⟨0, [], rfl⟩
  | parents n =>
    refine ⟨n, [], ?_⟩
    rw [if_neg (by simp), List.reverse_replicate, List.map_nil, List.append_nil]
  | @normal name acc h ih =>
    obtain ⟨n, names, heq⟩ := ih
    refine ⟨n, names ++ [name], ?_⟩
    rw [List.reverse_cons, heq, List.map_append, List.append_assoc]
    simp

/-! ## 2. The root -/

theorem root_mem_step {acc : List Component} {c : Component} :
    .root ∈ step acc c ↔ .root ∈ acc ∨ c = .root := by
  cases c with
  | root => simp [step]
  | current => simp [step]
  | normal name => simp [step]
  | parent =>
    unfold step
    dsimp only
    split <;> simp

theorem root_mem_foldl {acc cs : List Component} :
    .root ∈ cs.foldl step acc ↔ .root ∈ acc ∨ .root ∈ cs := by
  induction cs generalizing acc with
  | nil => simp
  | cons c cs ih =>
    rw [List.foldl_cons, ih, root_mem_step, List.mem_cons, or_assoc, eq_comm (a := c)]

theorem root_mem_fold {cs : List Component} : .root ∈ fold cs ↔ .root ∈ cs := by
  simp [fold, root_mem_foldl]

theorem component?_ne_root (piece : Text) : component? piece ≠ some .root := by
  unfold component?
  split
  · nofun
  · split <;> nofun

theorem root_mem_components {p : Path} : .root ∈ p.components ↔ p.isAbsolute := by
  have hpieces : .root ∉ (pieces p.text).filterMap component? := by
    intro hmem
    obtain ⟨piece, -, hpiece⟩ := List.mem_filterMap.mp hmem
    exact component?_ne_root piece hpiece
  unfold components
  dsimp only
  split
  · simp_all
  · split <;> simp_all

theorem isAbsolute_normalize (p : Path) : p.normalize.isAbsolute = p.isAbsolute := by
  rw [Bool.eq_iff_iff, ← root_mem_components, ← root_mem_components, components_normalize,
    root_mem_fold]

/-! ## 3. One path behind another -/

theorem pieces_append_slash (u v : Text) : pieces (u ++ '/' :: v) = pieces u ++ pieces v := by
  induction u with
  | nil =>
    obtain ⟨piece, ps, hv⟩ := exists_cons_pieces v
    simp [pieces, hv]
  | cons c u ih =>
    obtain ⟨piece, ps, hu⟩ := exists_cons_pieces u
    rw [List.cons_append, pieces, ih, hu, pieces, hu]
    dsimp only [List.cons_append]
    split <;> rfl

/-- Walking along a path starts over at the root, or is a walk along its pieces. -/
theorem foldl_components (p : Path) (acc : List Component) : p.components.foldl step acc
    = ((pieces p.text).filterMap component?).foldl step (if p.isAbsolute then [.root] else acc) := by
  unfold components
  dsimp only
  split
  · rfl
  · split <;> rfl

variable {p q : Path}

theorem join_of_isAbsolute (h : q.isAbsolute) : p.join q = q := if_pos h

theorem isAbsolute_join (h : ¬ q.isAbsolute) : (p.join q).isAbsolute = p.isAbsolute := by
  obtain ⟨u⟩ := p
  cases u with
  | nil =>
    simp only [isAbsolute, decide_eq_true_eq] at h
    simp [join, isAbsolute, h]
  | cons c u =>
    rw [join, if_neg h]
    split <;> rfl

theorem filterMap_pieces_join (h : ¬ q.isAbsolute) :
    (pieces (p.join q).text).filterMap component?
      = (pieces p.text).filterMap component? ++ (pieces q.text).filterMap component? := by
  rw [join, if_neg h]
  by_cases hnil : p.text = []
  · rw [hnil]
    rfl
  by_cases hlast : p.text.getLast? = some '/'
  · -- the empty piece behind the last slash counts for nothing
    obtain ⟨u, hu⟩ := List.getLast?_eq_some_iff.mp hlast
    have hp : pieces p.text = pieces u ++ pieces [] := by rw [hu, pieces_append_slash]
    rw [if_pos (by simp [hlast]), hp, hu, List.append_assoc]
    rw [List.singleton_append, pieces_append_slash, List.filterMap_append, List.filterMap_append]
    show _ = _ ++ [] ++ _
    rw [List.append_nil]
  · rw [if_neg (by simp [hnil, hlast]), pieces_append_slash, List.filterMap_append]

/-- A walk along a path with a relative one behind it is a walk along both. -/
theorem foldl_components_join (h : ¬ q.isAbsolute) (acc : List Component) :
    (p.join q).components.foldl step acc
      = q.components.foldl step (p.components.foldl step acc) := by
  rw [foldl_components, foldl_components q, foldl_components p, filterMap_pieces_join h,
    isAbsolute_join h, if_neg h, List.foldl_append]

/-- A path in normal form is the root or steps to a parent, and names behind them. -/
def Normal (p : Path) : Prop := ∃ (n : Nat) (names : List Text),
  p.components = (if p.isAbsolute then [.root] else List.replicate n .parent) ++ names.map .normal

theorem normal_normalize (p : Path) : p.normalize.Normal := by
  have hroot : .root ∈ (fold p.components).reverse ↔ p.normalize.isAbsolute := by
    rw [List.mem_reverse, ← components_normalize, root_mem_components]
  obtain ⟨n, names, heq⟩ := (reduced_fold p.components).eq_append
  refine ⟨n, names, ?_⟩
  rw [components_normalize, ← List.reverse_reverse (fold p.components), heq]
  simp only [hroot]

/-- Folding leaves just the paths in normal form as they are. -/
theorem normal_iff : p.Normal ↔ p.normalize.components = p.components := by
  constructor
  · rintro ⟨n, names, heq⟩
    have hreduced : Reduced p.components.reverse := by
      rw [heq, List.reverse_append, ← List.map_reverse]
      apply Reduced.names
      split
      · exact .root
      · rw [List.reverse_replicate]
        exact .parents n
    have hfold := foldl_reverse hreduced
    rw [List.reverse_reverse] at hfold
    rw [components_normalize, fold, hfold, List.reverse_reverse]
  · intro h
    obtain ⟨n, names, heq⟩ := p.normal_normalize
    rw [h, isAbsolute_normalize] at heq
    exact ⟨n, names, heq⟩

theorem Normal.current_not_mem (h : p.Normal) : .current ∉ p.components := by
  obtain ⟨n, names, heq⟩ := h
  rw [heq]
  split <;> simp

theorem normalize_normalize (p : Path) : p.normalize.normalize = p.normalize := by
  rw [normalize, components_normalize, fold_fold]
  rfl

theorem normalize_normalize_join (p q : Path) :
    (p.normalize.join q).normalize = (p.join q).normalize := by
  by_cases h : q.isAbsolute
  · rw [join_of_isAbsolute h, join_of_isAbsolute h]
  · simp only [normalize, fold]
    rw [foldl_components_join h, foldl_components_join h]
    -- what is left of the first path leads where the path does
    show ofComponents (q.components.foldl step (p.normalize.components.foldl step [])).reverse = _
    rw [components_normalize, foldl_fold]

theorem components_of_plain {name : Text} (h : (Component.normal name).Plain) :
    (Path.mk name).components = [.normal name] := by
  have hfolded : Folded [.normal name] := by
    refine ⟨fun c hc => ?_, nofun⟩
    cases List.mem_singleton.mp hc
    exact ⟨h, nofun⟩
  have hcomponents := components_ofComponents hfolded
  simpa [ofComponents, componentText] using hcomponents

/-- A name is taken back by the step to the parent behind it. -/
theorem normalize_join_parent (p : Path) {name : Text} (h : (Component.normal name).Plain) :
    ((p.join ⟨name⟩).join ⟨['.', '.']⟩).normalize = p.normalize := by
  have hname : ¬ (Path.mk name).isAbsolute := by
    rw [← root_mem_components, components_of_plain h]
    simp
  have hparent : (Path.mk ['.', '.']).components = [.parent] := by decide
  simp only [normalize, fold]
  rw [foldl_components_join (by decide), foldl_components_join hname, components_of_plain h, hparent]
  rfl

/-- A path may be brought to normal form before another one is put behind it.  Its normal form is as
absolute as it is, has no dots, and has steps to a parent only in front and only if it is relative.
A path is its normal form just if it has this shape, and a name with a step to the parent behind it
goes. -/
theorem normalize_join (p q : Path) : (p.normalize.join q).normalize = (p.join q).normalize
    ∧ p.normalize.normalize = p.normalize
    ∧ .current ∉ p.normalize.components
    ∧ p.normalize.Normal
    ∧ p.normalize.isAbsolute = p.isAbsolute
    ∧ (p.Normal ↔ p.normalize.components = p.components)
    ∧ ∀ name, (Component.normal name).Plain →
      ((p.join ⟨name⟩).join ⟨['.', '.']⟩).normalize = p.normalize :=
  ⟨normalize_normalize_join p q, normalize_normalize p, p.normal_normalize.current_not_mem,
    normal_normalize p, isAbsolute_normalize p, normal_iff, fun _ => normalize_join_parent p⟩

/-- The path goes above where it starts, and comes back through a name that is left again. -/
theorem normalize_join_above :
    let p : Path := ⟨"./a/../../b".toList⟩
    let q : Path := ⟨"c/..".toList⟩
    p.normalize = ⟨"../b".toList⟩
      ∧ (p.normalize.join q).normalize = (p.join q).normalize
      ∧ (Component.normal ['c']).Plain
      ∧ ((p.join ⟨['c']⟩).join ⟨['.', '.']⟩).normalize = p.normalize := by
  intro p q
  have hplain : (Component.normal ['c']).Plain := by
    unfold Component.Plain
    decide
  obtain ⟨hjoin, -, -, -, -, -, hname⟩ := normalize_join p q
  exact ⟨by decide +kernel, hjoin, hplain, hname ['c'] hplain⟩

end BuildLog.Path
