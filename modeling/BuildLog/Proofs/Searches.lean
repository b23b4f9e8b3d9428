import BuildLog.Proofs.Matches
import Mathlib.Data.Finset.Prod

/-!
# Searches — a search gives up only where there is no match

A search takes a bounded number of steps, and drops a thread that comes to where another has been.
Neither loses a match: the bound is beyond what there is to try, and what was tried in vain leads
only to what was tried in vain.  So a search finds the leftmost place where a match begins, and no
match is possible apart from those that are found one after the other.
-/

namespace BuildLog.Pattern

variable {code : Array Instr} {text : Array Char} {prog : Program}

/-! ## 1. Places in the program and in the text -/

/-- Two threads are at the same place, whatever they noted on the way there. -/
structure Thread.Meets (t u : Thread) : Prop where
  pc : t.pc = u.pc
  pos : t.pos = u.pos

theorem Thread.Meets.symm {t u : Thread} (h : t.Meets u) : u.Meets t := ⟨h.pc.symm, h.pos.symm⟩

/-- What an instruction does does not depend on the marks. -/
theorem Thread.Meets.successors {t u : Thread} (h : t.Meets u) {instr : Instr} :
    ∀ v ∈ t.successors text instr, ∃ w ∈ u.successors text instr, v.Meets w := by
  obtain ⟨pc, pos, marks⟩ := t
  obtain ⟨pc', pos', marks'⟩ := u
  obtain ⟨rfl, rfl⟩ : pc = pc' ∧ pos = pos' := ⟨h.pc, h.pos⟩
  intro v hv
  cases instr with
  | accept => simp [Thread.successors] at hv
  | take set next =>
    simp only [Thread.successors] at hv ⊢
    split at hv
    · split at hv
      · rename_i hc
        rw [List.mem_singleton] at hv
        subst hv
        simp only [if_pos hc]
        exact ⟨_, List.mem_singleton_self _, rfl, rfl⟩
      · simp at hv
    · simp at hv
  | check cond next =>
    simp only [Thread.successors] at hv ⊢
    split at hv
    · rename_i hc
      rw [List.mem_singleton] at hv
      subst hv
      rw [if_pos hc]
      exact ⟨_, List.mem_singleton_self _, rfl, rfl⟩
    · simp at hv
  | mark slot next =>
    rw [Thread.successors, List.mem_singleton] at hv
    subst hv
    exact ⟨_, List.mem_singleton_self _, rfl, rfl⟩
  | fork first second =>
    rcases List.mem_pair.mp hv with rfl | rfl
    · exact ⟨_, List.mem_cons_self, rfl, rfl⟩
    · exact ⟨_, List.mem_cons_of_mem _ List.mem_cons_self, rfl, rfl⟩

theorem Thread.length_successors_le (text : Array Char) (t : Thread) (instr : Instr) :
    (t.successors text instr).length ≤ 2 := by
  cases instr with
  | accept => exact Nat.zero_le _
  | take set next =>
    rw [Thread.successors]
    split
    · split <;> simp
    · simp
  | check cond next =>
    rw [Thread.successors]
    split <;> simp
  | mark slot next => simp [Thread.successors]
  | fork first second => simp [Thread.successors]

/-- A thread can get to the end of the program, at a place of the text. -/
inductive Thread.Leads (code : Array Instr) (text : Array Char) : Thread → (stop : Nat) → Prop
  | accept {t : Thread} (h : code[t.pc]? = some .accept) : Leads code text t t.pos
  | step {t u : Thread} {instr : Instr} {stop : Nat} (h : code[t.pc]? = some instr)
    (hu : u ∈ t.successors text instr) (hlead : Leads code text u stop) : Leads code text t stop

/-- A match between two places of the text is possible. -/
def Program.MatchesAt (prog : Program) (text : Array Char) (start stop : Nat) : Prop :=
  Thread.Leads prog.code text ⟨prog.entry, start, []⟩ stop

/-! ## 2. What has been tried -/

namespace Seen

/-- There is a word for each place of the text. -/
structure Fits (code : Array Instr) (text : Array Char) (seen : Seen) : Prop where
  size : seen.size = code.size
  words : seen.words.size = text.size + 1

theorem fits_none (code : Array Instr) (text : Array Char) : (none code text).Fits code text :=
  ⟨rfl, Array.size_replicate⟩

/-- Words that are missing are empty. -/
theorem getD_append_replicate (words : Array Nat) (n i : Nat) :
    (words ++ Array.replicate n 0)[i]?.getD 0 = words[i]?.getD 0 := by
  by_cases hi : i < words.size
  · rw [Array.getElem?_append_left hi]
  · rw [Array.getElem?_append_right (Nat.le_of_not_lt hi), Array.getElem?_replicate,
      Array.getElem?_eq_none (Nat.le_of_not_lt hi)]
    split <;> rfl

theorem testBit_setBit (words : Array Nat) (m n : Nat) :
    ((setBit words n)[m / wordSize]?.getD 0).testBit (m % wordSize)
      = ((words[m / wordSize]?.getD 0).testBit (m % wordSize) || decide (m = n)) := by
  have hsame : m = n ↔ m / wordSize = n / wordSize ∧ m % wordSize = n % wordSize :=
    ⟨fun h => h ▸ ⟨rfl, rfl⟩, fun ⟨hdiv, hmod⟩ => by
      rw [← Nat.div_add_mod m wordSize, hdiv, hmod, Nat.div_add_mod]⟩
  have hpad := getD_append_replicate words (n / wordSize + 1 - words.size) (m / wordSize)
  unfold setBit
  dsimp only
  rw [Array.getElem?_modify]
  split
  · rename_i hdiv
    have hlt : m / wordSize < (words ++ Array.replicate (n / wordSize + 1 - words.size) 0).size := by
      rw [Array.size_append, Array.size_replicate]
      omega
    rw [Array.getElem?_eq_getElem hlt] at hpad ⊢
    have hbit : decide (n % wordSize = m % wordSize) = decide (m = n) :=
      decide_eq_decide.mpr ⟨fun h => hsame.mpr ⟨hdiv.symm, h.symm⟩, fun h => h ▸ rfl⟩
    rw [Option.map_some, Option.getD_some, Nat.testBit_or, ← hpad, Option.getD_some,
      Nat.one_shiftLeft, Nat.testBit_two_pow, hbit]
  · rename_i hdiv
    rw [hpad, decide_eq_false (fun h => hdiv (hsame.mp h).1.symm), Bool.or_false]

theorem has_congr (seen : Seen) {t u : Thread} (h : t.Meets u) : seen.has t = seen.has u := by
  rw [has, has, h.pc, h.pos]

/-- The instructions and places of the text that were not tried together. -/
def untried (code : Array Instr) (text : Array Char) (seen : Seen) : Finset (Nat × Nat) :=
  (Finset.range code.size ×ˢ Finset.range (text.size + 1)).filter
    fun p => ¬ seen.has ⟨p.1, p.2, []⟩

theorem card_untried_le (code : Array Instr) (text : Array Char) (seen : Seen) :
    (seen.untried code text).card ≤ code.size * (text.size + 1) := by
  refine (Finset.card_filter_le _ _).trans ?_
  rw [Finset.card_product, Finset.card_range, Finset.card_range]

variable {seen : Seen} (h : seen.Fits code text)
include h

theorem Fits.add (t : Thread) : (seen.add t).Fits code text :=
  ⟨h.size, Array.size_modify.trans h.words⟩

/-- A thread that is added is tried, and no other is. -/
theorem Fits.has_add {t u : Thread} (hpos : t.pos ≤ text.size) (ht : t.pc < code.size)
    (hu : u.pc < code.size) : (seen.add t).has u ↔ seen.has u ∨ u.Meets t := by
  rw [has, has, Seen.add]
  dsimp only
  rw [Array.getElem?_modify]
  by_cases hsame : t.pos = u.pos
  · have hlt : u.pos < seen.words.size := by
      rw [h.words]
      omega
    rw [if_pos hsame, Array.getElem?_eq_getElem hlt, Option.map_some, Option.getD_some,
      Option.getD_some, testBit_setBit, Bool.or_eq_true, decide_eq_true_iff, h.size]
    refine or_congr_right ⟨fun heq => ⟨by omega, hsame.symm⟩, fun hmeets => by rw [hmeets.pc]⟩
  · rw [if_neg hsame]
    exact (or_iff_left fun hmeets => hsame hmeets.pos.symm).symm

theorem Fits.card_untried_add {t : Thread} (hpos : t.pos ≤ text.size) (ht : t.pc < code.size)
    (hnew : ¬ seen.has t) : ((seen.add t).untried code text).card < (seen.untried code text).card := by
  refine Finset.card_lt_card (Finset.ssubset_iff_of_subset (fun p hp => ?_) |>.mpr
    ⟨(t.pc, t.pos), ?_, fun hp => ?_⟩)
  · obtain ⟨hp, hadd⟩ := Finset.mem_filter.mp hp
    have hpc := Finset.mem_range.mp (Finset.mem_product.mp hp).1
    exact Finset.mem_filter.mpr ⟨hp, fun hseen => hadd ((h.has_add hpos ht hpc).mpr (.inl hseen))⟩
  · exact Finset.mem_filter.mpr ⟨Finset.mem_product.mpr
      ⟨Finset.mem_range.mpr ht, Finset.mem_range.mpr (Nat.lt_succ_of_le hpos)⟩, hnew⟩
  · exact (Finset.mem_filter.mp hp).2 ((h.has_add hpos ht ht).mpr (.inr ⟨rfl, rfl⟩))

end Seen

/-! ## 3. Searches -/

/-- A thread is dropped if there is no instruction where it is, or another has been there. -/
def Seen.Drops (code : Array Instr) (seen : Seen) (t : Thread) : Prop :=
  code.size ≤ t.pc ∨ seen.has t

theorem Seen.Drops.congr {seen : Seen} {t u : Thread} (hd : seen.Drops code t) (h : t.Meets u) :
    seen.Drops code u := by
  rw [Seen.Drops, ← h.pc, ← seen.has_congr h]
  exact hd

theorem Seen.Fits.drops_add {seen : Seen} (h : seen.Fits code text) {t u : Thread}
    (hpos : t.pos ≤ text.size) (ht : t.pc < code.size) :
    (seen.add t).Drops code u ↔ seen.Drops code u ∨ u.Meets t := by
  by_cases hu : u.pc < code.size
  · rw [Seen.Drops, Seen.Drops, h.has_add hpos ht hu, or_assoc]
  · exact iff_of_true (.inl (Nat.le_of_not_lt hu)) (.inl (.inl (Nat.le_of_not_lt hu)))

/-- In the midst of a search: where threads have been the program does not end, and what they left to
be tried has been tried, or is on the stack. -/
structure Seen.Traced (code : Array Instr) (text : Array Char) (seen : Seen) (stack : List Thread) :
    Prop where
  fits : seen.Fits code text
  within : ∀ t ∈ stack, t.Within text 0
  tried : ∀ t instr, seen.has t → code[t.pc]? = some instr → instr ≠ .accept
    ∧ ∀ u ∈ t.successors text instr, seen.Drops code u ∨ ∃ v ∈ stack, u.Meets v

namespace Seen.Traced

variable {seen seen' : Seen} {stack : List Thread} {t : Thread}

theorem none (code : Array Instr) (text : Array Char) : (Seen.none code text).Traced code text [] where
  fits := fits_none code text
  within := List.forall_mem_nil _
  tried := fun t _ ht => absurd ht (by
    rw [has, Seen.none, Array.getElem?_replicate]
    split <;> simp)

theorem push (h : seen.Traced code text []) (ht : t.Within text 0) : seen.Traced code text [t] where
  fits := h.fits
  within := List.forall_mem_singleton.mpr ht
  tried := fun u instr hu hinstr => ⟨(h.tried u instr hu hinstr).1, fun v hv =>
    ((h.tried u instr hu hinstr).2 v hv).imp_right nofun⟩

theorem drop (h : seen.Traced code text (t :: stack)) (ht : seen.Drops code t) :
    seen.Traced code text stack where
  fits := h.fits
  within := fun u hu => h.within u (List.mem_cons_of_mem t hu)
  tried := by
    intro u instr hu hinstr
    obtain ⟨haccept, hnext⟩ := h.tried u instr hu hinstr
    refine ⟨haccept, fun v hv => ?_⟩
    rcases hnext v hv with hdrops | ⟨w, hw, hmeets⟩
    · exact .inl hdrops
    · rcases List.mem_cons.mp hw with rfl | hw
      · exact .inl (ht.congr hmeets.symm)
      · exact .inr ⟨w, hw, hmeets⟩

theorem add (h : seen.Traced code text (t :: stack)) {instr : Instr} (hinstr : code[t.pc]? = some instr)
    (haccept : instr ≠ .accept) :
    (seen.add t).Traced code text (t.successors text instr ++ stack) := by
  have hwithin := h.within t List.mem_cons_self
  have hpos : t.pos ≤ text.size := hwithin.le_size
  have ht : t.pc < code.size := (Array.getElem?_eq_some_iff.mp hinstr).1
  refine ⟨h.fits.add t, fun u hu => ?_, fun u instr' hu hinstr' => ?_⟩
  · rcases List.mem_append.mp hu with hu | hu
    · exact hwithin.successors instr u hu
    · exact h.within u (List.mem_cons_of_mem t hu)
  · have hpc : u.pc < code.size := (Array.getElem?_eq_some_iff.mp hinstr').1
    rcases (h.fits.has_add hpos ht hpc).mp hu with hu | hmeets
    · -- what was left to be tried before is dropped now, if it is where `t` is
      obtain ⟨haccept', hnext⟩ := h.tried u instr' hu hinstr'
      refine ⟨haccept', fun v hv => ?_⟩
      rcases hnext v hv with hdrops | ⟨w, hw, hvw⟩
      · exact .inl ((h.fits.drops_add hpos ht).mpr (.inl hdrops))
      · rcases List.mem_cons.mp hw with rfl | hw
        · exact .inl ((h.fits.drops_add hpos ht).mpr (.inr hvw))
        · exact .inr ⟨w, List.mem_append_right _ hw, hvw⟩
    · rw [hmeets.pc, hinstr] at hinstr'
      cases hinstr'
      refine ⟨haccept, fun v hv => .inr ?_⟩
      obtain ⟨w, hw, hvw⟩ := hmeets.successors v hv
      exact ⟨w, List.mem_append_left _ hw, hvw⟩

/-- Where a search was in vain, the program cannot get to its end. -/
theorem not_leads (h : seen.Traced code text []) (ht : seen.Drops code t) (stop : Nat) :
    ¬ t.Leads code text stop := by
  intro hlead
  induction hlead with
  | accept hinstr =>
    rcases ht with hpc | ht
    · rw [Array.getElem?_eq_none hpc] at hinstr
      cases hinstr
    · exact (h.tried _ _ ht hinstr).1 rfl
  | step hinstr hu _ ih =>
    rcases ht with hpc | ht
    · rw [Array.getElem?_eq_none hpc] at hinstr
      cases hinstr
    · exact ih (((h.tried _ _ ht hinstr).2 _ hu).resolve_right nofun)

/-- A search that comes to nothing, within steps enough, has tried all that is on the stack. -/
theorem of_run {fuel : Nat} (h : seen.Traced code text stack)
    (hfuel : 2 * (seen.untried code text).card + stack.length < fuel)
    (hrun : run code text fuel seen stack = (Option.none, seen')) :
    seen'.Traced code text [] ∧ ∀ u, seen.Drops code u ∨ u ∈ stack → seen'.Drops code u := by
  induction fuel generalizing seen stack with
  | zero => cases hfuel
  | succ fuel ih =>
    cases stack with
    | nil =>
      rw [run] at hrun
      cases hrun
      exact ⟨h, fun u hu => hu.resolve_right List.not_mem_nil⟩
    | cons t stack =>
      rw [List.length_cons] at hfuel
      -- a thread that is dropped is one fewer on the stack
      have hdrop (ht : seen.Drops code t)
          (hrun : run code text fuel seen stack = (Option.none, seen')) :
          seen'.Traced code text []
            ∧ ∀ u, seen.Drops code u ∨ u ∈ t :: stack → seen'.Drops code u := by
        obtain ⟨htraced, hall⟩ := ih (h.drop ht) (by omega) hrun
        refine ⟨htraced, fun u hu => ?_⟩
        rcases hu with hu | hu
        · exact hall u (.inl hu)
        · rcases List.mem_cons.mp hu with rfl | hu
          · exact hall u (.inl ht)
          · exact hall u (.inr hu)
      rw [run] at hrun
      split at hrun
      · rename_i hseen
        exact hdrop (.inr hseen) hrun
      · rename_i hseen
        split at hrun
        · rename_i hcode
          exact hdrop (.inl (Array.getElem?_eq_none_iff.mp hcode)) hrun
        · cases hrun
        · rename_i instr haccept hinstr
          have hpos := (h.within t List.mem_cons_self).le_size
          have ht : t.pc < code.size := (Array.getElem?_eq_some_iff.mp hinstr).1
          -- two threads may take its place, but one place fewer is left to be tried
          have hless := h.fits.card_untried_add hpos ht hseen
          have htwo := Thread.length_successors_le text t instr
          obtain ⟨htraced, hall⟩ := ih (h.add hinstr haccept)
            (by rw [List.length_append]; omega) hrun
          refine ⟨htraced, fun u hu => ?_⟩
          have hadd := h.fits.drops_add hpos ht (u := u)
          rcases hu with hu | hu
          · exact hall u (.inl (hadd.mpr (.inl hu)))
          · rcases List.mem_cons.mp hu with rfl | hu
            · exact hall u (.inl (hadd.mpr (.inr ⟨rfl, rfl⟩)))
            · exact hall u (.inr (List.mem_append_right _ hu))

end Seen.Traced

/-! ## 4. Where matches are found -/

/-- Where a match is possible, a search from there or before finds one that begins there or before. -/
theorem exists_of_searchFrom {count start i stop : Nat} {seen : Seen}
    (h : seen.Traced prog.code text []) (hcount : start + count ≤ text.size + 1) (hi : start ≤ i)
    (hlt : i < start + count) (hmatch : prog.MatchesAt text i stop) :
    ∃ m, searchFrom prog text count start seen = some m ∧ m.span.start ≤ i := by
  induction count generalizing start seen with
  | zero => exact absurd hlt (Nat.not_lt_of_le hi)
  | succ count ih =>
    rw [searchFrom]
    split
    · exact ⟨_, rfl, hi⟩
    · rename_i seen' hrun
      have hwithin : Thread.Within text 0 ⟨prog.entry, start, []⟩ :=
        ⟨Nat.zero_le _, by show start ≤ text.size; omega, List.forall_mem_nil _⟩
      have hfuel : 2 * (seen.untried prog.code text).card
          + [(⟨prog.entry, start, []⟩ : Thread)].length < enough prog.code text := by
        have hle := Seen.card_untried_le prog.code text seen
        rw [List.length_singleton, enough, Nat.mul_assoc]
        omega
      obtain ⟨htraced, hall⟩ := (h.push hwithin).of_run hfuel hrun
      refine ih htraced (by omega) ?_ (by omega)
      -- no match begins at `start`, where the search was in vain
      refine Nat.succ_le_of_lt (Nat.lt_of_le_of_ne hi ?_)
      rintro rfl
      exact htraced.not_leads (hall _ (.inr (List.mem_singleton_self _))) stop hmatch

theorem exists_of_find? {start i stop : Nat} (hi : start ≤ i) (hle : i ≤ text.size)
    (hmatch : prog.MatchesAt text i stop) : ∃ m, prog.find? text start = some m ∧ m.span.start ≤ i :=
  exists_of_searchFrom (.none prog.code text) (by omega) hi (by omega) hmatch

/-- What a thread can get to, the one before it can. -/
theorem leads_of_run {fuel : Nat} {seen : Seen} {t u : Thread}
    (h : (run code text fuel seen [t]).1 = some u) : t.Leads code text u.pos := by
  have hleads : ∀ stop, u.Leads code text stop → t.Leads code text stop :=
    run_of_successors (P := fun u => ∀ stop, u.Leads code text stop → t.Leads code text stop)
      (fun u instr hu hinstr v hv stop hlead => hu stop (.step hinstr hv hlead))
      (List.forall_mem_singleton.mpr fun _ hlead => hlead) h
  exact hleads u.pos (.accept (accept_of_run h))

/-- What a search finds is a match. -/
theorem matchesAt_of_find? {start : Nat} {m : Match} (h : prog.find? text start = some m) :
    prog.MatchesAt text m.span.start m.span.stop := by
  obtain ⟨-, seen, t, hrun, hstop, -⟩ := exists_run_of_searchFrom h
  rw [hstop]
  exact leads_of_run hrun

/-- A search finds the leftmost place at which a match is possible. -/
theorem start_find?_iff {start i : Nat} (hs : start ≤ text.size) :
    (prog.find? text start).map (·.span.start) = some i ↔
      (start ≤ i ∧ i ≤ text.size ∧ ∃ stop, prog.MatchesAt text i stop)
        ∧ ∀ j stop, start ≤ j → j < i → ¬ prog.MatchesAt text j stop := by
  constructor
  · intro h
    obtain ⟨m, hm, rfl⟩ := Option.map_eq_some_iff.mp h
    have hw := find?_within (by omega) hm
    refine ⟨⟨hw.start_le, hw.start_le_stop.trans hw.stop_le, _, matchesAt_of_find? hm⟩, ?_⟩
    intro j stop hj hlt hmatch
    obtain ⟨m', hm', hle⟩ := exists_of_find? hj
      (Nat.le_of_lt (hlt.trans_le (hw.start_le_stop.trans hw.stop_le))) hmatch
    cases hm.symm.trans hm'
    exact absurd hlt (Nat.not_lt_of_le hle)
  · rintro ⟨⟨hi, hle, stop, hmatch⟩, hleft⟩
    obtain ⟨m, hm, hmi⟩ := exists_of_find? hi hle hmatch
    have hw := find?_within (by omega) hm
    rw [hm, Option.map_some]
    refine congrArg some (Nat.le_antisymm hmi (Nat.le_of_not_lt fun hlt => ?_))
    exact hleft _ _ hw.start_le hlt (matchesAt_of_find? hm)

/-- A further search finds a match that begins at `i` or before if one is possible there, and one
that ends beyond the match before. -/
theorem exists_of_findNext? (last : Option Nat) {start i stop : Nat}
    (hlast : ∀ l ∈ last, l = start ∧ start < i) (hi : start ≤ i) (hle : i ≤ text.size)
    (hmatch : prog.MatchesAt text i stop) :
    ∃ m, prog.findNext? text last start = some m ∧ m.span.start ≤ i
      ∧ ∀ l ∈ last, l < m.span.stop := by
  obtain ⟨m, hm, hmi⟩ := exists_of_find? hi hle hmatch
  have hw := find?_within (by omega) hm
  rw [Program.findNext?, hm]
  dsimp only
  split
  · rename_i hempty
    -- an empty match where the one before ended: the search begins one further on
    rw [Bool.and_eq_true, decide_eq_true_iff] at hempty
    obtain ⟨hstop, hlt⟩ := hlast _ hempty.2.symm
    obtain ⟨m', hm', hmi'⟩ := exists_of_find? hlt hle hmatch
    have hw' := find?_within (by omega) hm'
    refine ⟨m', hm', hmi', fun l hl => ?_⟩
    rw [(hlast l hl).1]
    exact Nat.lt_of_succ_le (hw'.start_le.trans hw'.start_le_stop)
  · rename_i hempty
    refine ⟨m, rfl, hmi, fun l hl => ?_⟩
    obtain ⟨rfl, -⟩ := hlast l hl
    refine Nat.lt_of_le_of_ne (hw.start_le.trans hw.start_le_stop) fun heq => hempty ?_
    have hstart : m.span.start = m.span.stop := Nat.le_antisymm hw.start_le_stop (heq ▸ hw.start_le)
    rw [Option.mem_def.mp hl, ← heq, Bool.and_eq_true]
    exact ⟨decide_eq_true (Nat.le_of_eq (hstart ▸ rfl)), decide_eq_true rfl⟩

/-- Behind a match that ended at `start`, wherever a match is possible there is one that begins there
or before and ends there or after. -/
theorem exists_of_findAll (fuel : Nat) {start i stop : Nat} (hi : start < i) (hle : i ≤ text.size)
    (hfuel : i - start ≤ fuel) (hmatch : prog.MatchesAt text i stop) :
    ∃ m ∈ prog.findAll text fuel (some start) start, m.span.start ≤ i ∧ i ≤ m.span.stop := by
  induction fuel generalizing start with
  | zero => exact absurd hi (by omega)
  | succ fuel ih =>
    obtain ⟨m, hm, hmi, hstop⟩ := exists_of_findNext? (some start)
      (fun l hl => ⟨(Option.some.inj hl).symm, hi⟩) (Nat.le_of_lt hi) hle hmatch
    have hlt := hstop start rfl
    rw [Program.findAll, hm]
    dsimp only
    by_cases hcovers : i ≤ m.span.stop
    · exact ⟨m, List.mem_cons_self, hmi, hcovers⟩
    · obtain ⟨m', hm', hcovers'⟩ := ih (Nat.lt_of_not_le hcovers) (by omega)
      exact ⟨m', List.mem_cons_of_mem m hm', hcovers'⟩

/-- Wherever a match is possible, one of the successive matches begins there or before and ends there
or after. -/
theorem exists_of_allMatches {i stop : Nat} (hle : i ≤ text.size)
    (hmatch : prog.MatchesAt text i stop) :
    ∃ m ∈ prog.allMatches text, m.span.start ≤ i ∧ i ≤ m.span.stop := by
  obtain ⟨m, hm, hmi, -⟩ := exists_of_findNext? none nofun (Nat.zero_le i) hle hmatch
  rw [Program.allMatches, Program.findAll, hm]
  dsimp only
  by_cases hcovers : i ≤ m.span.stop
  · exact ⟨m, List.mem_cons_self, hmi, hcovers⟩
  · obtain ⟨m', hm', hcovers'⟩ := exists_of_findAll text.size (Nat.lt_of_not_le hcovers) hle (by omega)
      hmatch
    exact ⟨m', List.mem_cons_of_mem m hm', hcovers'⟩

end BuildLog.Pattern
