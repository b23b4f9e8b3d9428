import BuildLog.Proofs.Locality

/-!
# Letters — patterns that take one character

A pattern that takes one character of a set has a match at each such character, and nowhere else.
So it is line by line: the simplest of the patterns that are.
-/

namespace BuildLog

/-! ## 1. The search for a character -/

namespace Pattern

/-- The pattern of an expression. -/
def ofExpr (source : String) (e : Expr) : Pattern := ⟨source, e, e.program⟩

/-- The pattern that takes one character of a set. -/
def ofSet (source : String) (set : CharSet) : Pattern := ofExpr source (.one set)

theorem program_ofSet (source : String) (set : CharSet) :
    (ofSet source set).program = ⟨#[.accept, .take set 0], 1⟩ := rfl

theorem Seen.has_none (code : Array Instr) (text : Array Char) (t : Thread) :
    (Seen.none code text).has t = false := by
  have hwords : (Seen.none code text).words[t.pos]?.getD #[] = #[] := by
    unfold Seen.none
    rw [Array.getElem?_replicate]
    split <;> rfl
  unfold has
  rw [hwords]
  simp

theorem Seen.has_add_of_ne (seen : Seen) {t u : Thread} (h : t.pos ≠ u.pos) :
    (seen.add t).has u = seen.has u := by
  unfold add has
  rw [Array.getElem?_modify, if_neg h]

/-- Nothing has been tried from `start` on. -/
def Seen.FreeFrom (start : Nat) (seen : Seen) : Prop := ∀ t : Thread, start ≤ t.pos → seen.has t = false

theorem Seen.FreeFrom.add {start : Nat} {seen : Seen} (h : seen.FreeFrom start) {t : Thread}
    (ht : t.pos = start) : (seen.add t).FreeFrom (start + 1) := by
  intro u hu
  rw [has_add_of_ne seen (by omega)]
  exact h u (by omega)

section Search

variable {set : CharSet} {text : Array Char} {start fuel : Nat} {seen : Seen}

/-- A thread that takes one character gets to its end, or is stuck at once. -/
theorem run_take (h : seen.FreeFrom start) :
    run #[.accept, .take set 0] text (fuel + 2) seen [⟨1, start, []⟩]
      = (if (text[start]?).any set.contains then some ⟨0, start + 1, []⟩ else none,
          seen.add ⟨1, start, []⟩) := by
  have hseen := h ⟨1, start, []⟩ (Nat.le_refl start)
  have hnext := h.add (t := ⟨1, start, []⟩) rfl ⟨0, start + 1, []⟩ (Nat.le_refl _)
  rw [run, hseen]
  simp only [Bool.false_eq_true, if_false, List.getElem?_toArray, List.getElem?_cons_succ,
    List.getElem?_cons_zero, List.append_nil]
  unfold Thread.successors
  dsimp only
  cases text[start]? with
  | none => rfl
  | some c =>
    cases hc : set.contains c with
    | false => simp [hc, run]
    | true => simp [hc, run, hnext]

end Search

/-- The matches in a text that begins at `i`: one for each character of the set. -/
def lettersFrom (set : CharSet) : (i : Nat) → Text → List Match
  | _, [] => []
  | i, c :: t =>
    if set.contains c then ⟨⟨i, i + 1⟩, []⟩ :: lettersFrom set (i + 1) t
    else lettersFrom set (i + 1) t

section Letters

variable (source : String) (set : CharSet)

theorem run_ofSet {text : Array Char} {start : Nat} {seen : Seen} (h : seen.FreeFrom start) :
    run (ofSet source set).program.code text (enough (ofSet source set).program.code text) seen
        [⟨(ofSet source set).program.entry, start, []⟩]
      = (if (text[start]?).any set.contains then some ⟨0, start + 1, []⟩ else none,
          seen.add ⟨1, start, []⟩) := by
  rw [program_ofSet]
  exact run_take h

theorem searchFrom_ofSet (a t : Text) {seen : Seen} (h : seen.FreeFrom a.length) :
    searchFrom (ofSet source set).program (a ++ t).toArray (t.length + 1) a.length seen
      = (lettersFrom set a.length t).head? := by
  -- by the text that is left; where the search was, nothing is tried again
  induction t generalizing a seen with
  | nil =>
    rw [searchFrom, run_ofSet source set h]
    simp [searchFrom, lettersFrom]
  | cons c t ih =>
    have hfree := h.add (t := ⟨1, a.length, []⟩) rfl
    rw [← List.length_singleton (a := c), ← List.length_append] at hfree
    have hrest := ih (a ++ [c]) hfree
    rw [List.append_assoc, List.singleton_append, List.length_append, List.length_singleton] at hrest
    rw [searchFrom, run_ofSet source set h, lettersFrom]
    have hchar : (a ++ c :: t).toArray[a.length]? = some c := by simp
    rw [hchar, Option.any_some]
    cases hc : set.contains c with
    | true => rfl
    | false => exact hrest

theorem find?_ofSet (a t : Text) :
    (ofSet source set).program.find? (a ++ t).toArray a.length
      = (lettersFrom set a.length t).head? := by
  have hcount : (a ++ t).toArray.size + 1 - a.length = t.length + 1 := by
    rw [List.size_toArray, List.length_append]
    omega
  rw [Program.find?, hcount]
  exact searchFrom_ofSet source set a t fun u _ => Seen.has_none _ _ u

variable {set} in
theorem nonempty_lettersFrom (i : Nat) (t : Text) :
    ∀ m ∈ lettersFrom set i t, m.span.isEmpty = false := by
  induction t generalizing i with
  | nil => exact fun m hm => nomatch hm
  | cons c t ih =>
    intro m hm
    rw [lettersFrom] at hm
    split at hm
    · rcases List.mem_cons.mp hm with rfl | hm
      · exact decide_eq_false (Nat.not_le_of_lt (Nat.lt_succ_self i))
      · exact ih (i + 1) m hm
    · exact ih (i + 1) m hm

theorem findNext?_ofSet (a t : Text) (last : Option Nat) :
    (ofSet source set).program.findNext? (a ++ t).toArray last a.length
      = (lettersFrom set a.length t).head? := by
  rw [Program.findNext?, find?_ofSet]
  cases hm : (lettersFrom set a.length t).head? with
  | none => rfl
  | some m =>
    dsimp only
    rw [nonempty_lettersFrom a.length t m (List.mem_of_mem_head? hm), Bool.false_and,
      if_neg Bool.false_ne_true]

theorem findAll_ofSet (a t : Text) {fuel : Nat} (hf : t.length < fuel) (last : Option Nat) :
    (ofSet source set).program.findAll (a ++ t).toArray fuel last a.length
      = lettersFrom set a.length t := by
  induction t generalizing a fuel last with
  | nil =>
    obtain ⟨fuel, rfl⟩ := Nat.exists_eq_succ_of_ne_zero (Nat.ne_of_gt hf)
    rw [Program.findAll, findNext?_ofSet]
    rfl
  | cons c t ih =>
    obtain ⟨fuel, rfl⟩ := Nat.exists_eq_succ_of_ne_zero (Nat.ne_of_gt (Nat.zero_lt_of_lt hf))
    have hrest : ∀ {fuel : Nat} (last : Option Nat), t.length < fuel →
        (ofSet source set).program.findAll (a ++ c :: t).toArray fuel last (a.length + 1)
          = lettersFrom set (a.length + 1) t := by
      intro fuel last hf
      have := ih (a ++ [c]) hf last
      rwa [List.append_assoc, List.singleton_append, List.length_append,
        List.length_singleton] at this
    have hnext := findNext?_ofSet source set (a ++ [c]) t last
    rw [List.append_assoc, List.singleton_append, List.length_append, List.length_singleton] at hnext
    rw [List.length_cons] at hf
    rw [Program.findAll, findNext?_ofSet, lettersFrom]
    -- a match is followed by the search behind it; with none here, the search was one from there on
    cases hc : set.contains c with
    | true =>
      show _ :: _ = _ :: _
      rw [hrest _ (by omega)]
    | false =>
      have hfuel : t.length < fuel + 1 := by omega
      have := hrest last hfuel
      rw [Program.findAll, hnext] at this
      exact this

theorem allMatches_ofSet (t : Text) :
    (ofSet source set).allMatches t.toArray = lettersFrom set 0 t := by
  refine findAll_ofSet source set [] t ?_ none
  rw [List.size_toArray]
  exact Nat.lt_succ_self _

end Letters

end Pattern

/-! ## 2. The hits -/

namespace Found

/-- What a match of the character at `i` says. -/
def ofChar (i : Nat) (c : Char) : Found where
  group g := if g = 0 then some ⟨i, i + 1⟩ else none
  groupText g := if g = 0 then some [c] else none

/-- The characters of a set in a text that begins at `i`. -/
def ofChars (set : CharSet) : (i : Nat) → Text → List Found
  | _, [] => []
  | i, c :: t =>
    if set.contains c then ofChar i c :: ofChars set (i + 1) t else ofChars set (i + 1) t

theorem ofChars_append (set : CharSet) (i : Nat) (a b : Text) :
    ofChars set i (a ++ b) = ofChars set i a ++ ofChars set (i + a.length) b := by
  induction a generalizing i with
  | nil => rfl
  | cons c a ih =>
    have hlen : i + 1 + a.length = i + (c :: a).length := by
      rw [List.length_cons]
      omega
    rw [List.cons_append, ofChars, ofChars, ih, hlen]
    split <;> rfl

theorem start_of_mem_ofChars {set : CharSet} {i : Nat} {t : Text} {f : Found}
    (h : f ∈ ofChars set i t) : f.start < i + t.length := by
  induction t generalizing i with
  | nil => cases h
  | cons c t ih =>
    rw [ofChars] at h
    rw [List.length_cons]
    split at h
    · rcases List.mem_cons.mp h with rfl | h
      · show i < _
        omega
      · have := ih h
        omega
    · have := ih h
      omega

theorem shift_ofMatch_letter (a : Text) (c : Char) (t : Text) (base : Nat) :
    (ofMatch (a ++ c :: t).toArray ⟨⟨a.length, a.length + 1⟩, []⟩).shift base
      = ofChar (base + a.length) c := by
  have htext : ((a ++ c :: t).toArray.extract a.length (a.length + 1)).toList = [c] := by
    simp
  unfold shift ofMatch ofChar Pattern.Match.group
  simp only [Found.mk.injEq]
  constructor
  · funext g
    by_cases hg : g = 0
    · simp only [hg, if_true, Option.map_some, Span.shift, Option.some.injEq, Span.mk.injEq]
      omega
    · simp [hg]
  · funext g
    by_cases hg : g = 0
    · simp only [hg, if_true, Option.map_some, htext]
    · simp [hg]

end Found

namespace Pattern

variable (source : String) (set : CharSet)

theorem hits_ofSet (t : Text) (base : Nat) : (ofSet source set).hits t base = Found.ofChars set base t := by
  -- by the text behind `a`, of which the place of the next match is counted
  have hfrom : ∀ a : Text, (lettersFrom set a.length t).map
      (fun m => (Found.ofMatch (a ++ t).toArray m).shift base)
        = Found.ofChars set (base + a.length) t := by
    induction t with
    | nil => exact fun _ => rfl
    | cons c t ih =>
      intro a
      have hrest := ih (a ++ [c])
      rw [List.append_assoc, List.singleton_append, List.length_append, List.length_singleton]
        at hrest
      rw [lettersFrom, Found.ofChars]
      cases hc : set.contains c with
      | true =>
        rw [← Nat.add_assoc] at hrest
        exact congrArg₂ List.cons (Found.shift_ofMatch_letter a c t base) hrest
      | false => exact hrest
  have hall := hfrom []
  rw [hits, allMatches_ofSet]
  exact hall

theorem hitsInLines_ofSet (base : Nat) (ls : List Text) :
    (ofSet source set).hitsInLines base ls = Found.ofChars set base ls.flatten := by
  induction ls generalizing base with
  | nil => rfl
  | cons l ls ih =>
    rw [hitsInLines, hits_ofSet, ih, List.flatten_cons, Found.ofChars_append,
      List.filter_eq_self.mpr]
    exact fun f hf => decide_eq_true (Found.start_of_mem_ofChars hf)

/-- What takes one character is found in each line as in the whole text. -/
theorem lineByLine_ofSet : (ofSet source set).LineByLine := by
  intro t base
  rw [hitsInLines_ofSet, Text.flatten_lines, hits_ofSet, List.filter_eq_self]
  exact fun f hf => decide_eq_true (Found.start_of_mem_ofChars hf)

end Pattern

/-! ## 3. Rules -/

/-- A rule for the matches of an expression, each of which names a file and is its link. -/
def Rule.ofExpr (name : String) (e : Pattern.Expr) (lines : Nat) : Rule where
  name
  pattern := .ofExpr name e
  file := some (.group 0)
  hyperlink := some 0
  lines

/-- A rule for the characters of a set. -/
def Rule.ofSet (name : String) (set : CharSet) : Rule := .ofExpr name (.one set) 1

/-- Capital letters name files. -/
def ScanSettings.capitals : ScanSettings := { rules := ⟨[.ofSet "capital" (.ofRange 65 90)]⟩ }

/-- A `/` enters the directory of this name. -/
def DirectoryPattern.slash : DirectoryPattern := ⟨.ofSet "/" (.singleton '/'), 0, none⟩

theorem dirsLineByLine_slash : DirsLineByLine (some .slash) := by
  intro d hd
  cases hd
  exact Pattern.lineByLine_ofSet _ _

theorem lineByLine_capitals : ∀ r ∈ ScanSettings.capitals.rules.rules, r.pattern.LineByLine := by
  intro r hr
  rw [List.mem_singleton.mp hr]
  exact Pattern.lineByLine_ofSet _ _

end BuildLog
