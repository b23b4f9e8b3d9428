import BuildLog.Proofs.Loading
import BuildLog.Proofs.Opening
import Mathlib.Data.List.Destutter
import Mathlib.Data.List.Induction

/-!
# Listing — the files that the command prints

The command steps from file to file and prints the path of each file that it comes to, once.  The
steps lead to the messages at which the path changes.  But a file whose entry was dropped has no path
to print: it is passed over, and so are the messages behind it that are in the same file.
-/

namespace BuildLog

/-! ## 1. Lists without duplicates -/

section

variable {α : Type} [DecidableEq α] {l l' : List α}

/-- What is left of a list without duplicates is in the order of first appearance. -/
theorem pairwise_eraseDups (l : List α) :
    l.eraseDups.Pairwise fun a b => l.idxOf a < l.idxOf b := by
  induction l using List.reverseRecOn with
  | nil => exact List.Pairwise.nil
  | append_singleton l a ih =>
    have hold : l.eraseDups.Pairwise fun x y => (l ++ [a]).idxOf x < (l ++ [a]).idxOf y := by
      refine ih.imp_of_mem fun {x y} hx hy hlt => ?_
      rw [List.idxOf_append_of_mem (List.mem_eraseDups.mp hx),
        List.idxOf_append_of_mem (List.mem_eraseDups.mp hy)]
      exact hlt
    rw [List.eraseDups_append]
    by_cases ha : a ∈ l
    · have hnil : [a].removeAll l = [] := by simp [List.removeAll, ha]
      rw [hnil, List.eraseDups_nil, List.append_nil]
      exact hold
    · have hone : [a].removeAll l = [a] := by simp [List.removeAll, ha]
      rw [hone]
      refine List.pairwise_append.mpr ⟨hold, List.pairwise_singleton _ _, fun x hx y hy => ?_⟩
      have hx := List.mem_eraseDups.mp hx
      obtain rfl : y = a := List.mem_singleton.mp (List.mem_eraseDups.mp hy)
      rw [List.idxOf_append_of_mem hx, List.idxOf_append_of_notMem ha]
      exact Nat.lt_add_right _ (List.idxOf_lt_length_of_mem hx)

theorem nodup_eraseDups (l : List α) : l.eraseDups.Nodup := by
  refine (pairwise_eraseDups l).imp ?_
  rintro a _ hlt rfl
  exact Nat.lt_irrefl _ hlt

/-- The same is left of two lists just if they have the same members, which appear first in the same
order. -/
theorem eraseDups_eq_iff : l.eraseDups = l'.eraseDups ↔ (∀ a, a ∈ l ↔ a ∈ l')
    ∧ ∀ a ∈ l', ∀ b ∈ l', l.idxOf a < l.idxOf b ↔ l'.idxOf a < l'.idxOf b := by
  constructor
  · intro h
    have hmem : ∀ a, a ∈ l ↔ a ∈ l' := fun a => by
      rw [← List.mem_eraseDups, h, List.mem_eraseDups]
    have hboth := pairwise_eraseDups l
    rw [h] at hboth
    refine ⟨hmem, fun a ha b hb => ?_⟩
    rcases pairwise_or (hboth.and (pairwise_eraseDups l')) (List.mem_eraseDups.mpr ha)
      (List.mem_eraseDups.mpr hb) with rfl | ⟨h₁, h₂⟩ | ⟨h₁, h₂⟩
    · exact iff_of_false (Nat.lt_irrefl _) (Nat.lt_irrefl _)
    · exact iff_of_true h₁ h₂
    · exact iff_of_false (Nat.lt_asymm h₁) (Nat.lt_asymm h₂)
  · rintro ⟨hmem, hidx⟩
    refine List.Perm.eq_of_pairwise (fun a b _ _ h h' => absurd h (Nat.lt_asymm h'))
      (pairwise_eraseDups l) ((pairwise_eraseDups l').imp_of_mem fun ha hb hlt => ?_)
      ((List.perm_ext_iff_of_nodup (nodup_eraseDups l) (nodup_eraseDups l')).mpr fun a => ?_)
    · exact (hidx _ (List.mem_eraseDups.mp ha) _ (List.mem_eraseDups.mp hb)).mpr hlt
    · rw [List.mem_eraseDups, List.mem_eraseDups, hmem]

end

section

variable {α : Type} {R : α → α → Prop} [DecidableRel R]

theorem exists_destutter'_eq_cons (a : α) (l : List α) : ∃ l', l.destutter' R a = a :: l' := by
  induction l with
  | nil => exact ⟨[], rfl⟩
  | cons b l ih =>
    rw [List.destutter'_cons]
    split
    · exact ⟨_, rfl⟩
    · exact ih

theorem destutter'_append_of_not {a : α} {xs : List α} (hxs : ∀ x ∈ xs, ¬ R a x) (l : List α) :
    (xs ++ l).destutter' R a = l.destutter' R a := by
  induction xs with
  | nil => rfl
  | cons x xs ih =>
    rw [List.cons_append, List.destutter'_cons_neg _ (hxs x List.mem_cons_self)]
    exact ih fun y hy => hxs y (List.mem_cons_of_mem x hy)

theorem destutter'_of_find?_eq_none {a : α} {l : List α} (h : l.find? (R a ·) = none) :
    l.destutter' R a = [a] := by
  have hnot : ∀ x ∈ l, ¬ R a x := fun x hx => by simpa using List.find?_eq_none.mp h x hx
  rw [← List.append_nil l, destutter'_append_of_not hnot, List.destutter'_nil]

theorem destutter'_of_find?_eq_some {a b : α} {l : List α} (h : l.find? (R a ·) = some b) :
    ∃ before after, l = before ++ b :: after ∧ l.destutter' R a = a :: after.destutter' R b := by
  obtain ⟨hb, before, after, rfl, hbefore⟩ := List.find?_eq_some_iff_append.mp h
  have hnot : ∀ x ∈ before, ¬ R a x := fun x hx => by simpa using hbefore x hx
  refine ⟨before, after, rfl, ?_⟩
  rw [destutter'_append_of_not hnot, List.destutter'_cons_pos _ (of_decide_eq_true hb)]

variable {β : Type} [DecidableEq β]

theorem eraseDups_filter_cons {seen : List β} {b : β} (hb : b ∉ seen) (bs : List β) :
    ((b :: bs).filter (· ∉ seen)).eraseDups = b :: (bs.filter (· ∉ b :: seen)).eraseDups := by
  rw [List.filter_cons_of_pos (by simpa using hb), List.eraseDups_cons, List.filter_filter]
  simp only [List.mem_cons, not_or, Bool.decide_and, decide_not]
  rfl

theorem eraseDups_destutter' (f : α → β) (keep : α → Bool) (seen : List β) {a : α} {l : List α}
    (hfirst : ∀ before b after, a :: l = before ++ b :: after → f b ∉ seen →
      (∀ c ∈ before, f c ≠ f b) → keep b) :
    ((((l.destutter' (f · ≠ f ·) a).filter keep).map f).filter (· ∉ seen)).eraseDups
      = (((a :: l).map f).filter (· ∉ seen)).eraseDups := by
  induction l generalizing a seen with
  | nil =>
    rw [List.destutter'_nil, List.filter_singleton]
    by_cases ha : f a ∈ seen
    · cases keep a <;> simp [ha]
    · rw [hfirst [] a [] rfl ha nofun]
      rfl
  | cons m l ih =>
    -- if the value of `a` does not count, it does not matter whether `a` is kept
    have hseen : ∀ seen : List β, f a ∈ seen → (∀ before b after, a :: m :: l = before ++ b :: after →
        f b ∉ seen → (∀ c ∈ before, f c ≠ f b) → keep b) →
        (((((m :: l).destutter' (f · ≠ f ·) a).filter keep).map f).filter (· ∉ seen)).eraseDups
          = (((a :: m :: l).map f).filter (· ∉ seen)).eraseDups := by
      intro seen ha hfirst
      rw [List.map_cons, List.filter_cons_of_neg (by simpa using ha), List.destutter'_cons]
      split
      · rw [← ih seen fun before b after hl hb hbefore => hfirst (a :: before) b after (by rw [hl]; rfl) hb
          (List.forall_mem_cons.mpr ⟨fun heq => hb (heq ▸ ha), hbefore⟩), List.filter_cons]
        split
        · rw [List.map_cons, List.filter_cons_of_neg (by simpa using ha)]
        · rfl
      · rename_i hm
        have hm : f m ∈ seen := not_not.mp hm ▸ ha
        rw [ih, List.map_cons, List.map_cons, List.filter_cons_of_neg (by simpa using ha),
          List.filter_cons_of_neg (by simpa using hm)]
        intro before b after hl hb hbefore
        rcases List.cons_eq_append_iff.mp hl with ⟨rfl, heq⟩ | ⟨before', rfl, hl'⟩
        · cases heq
          exact absurd ha hb
        · refine hfirst (a :: m :: before') b after (by rw [hl']; rfl) hb ?_
          obtain ⟨ha', hbefore⟩ := List.forall_mem_cons.mp hbefore
          exact List.forall_mem_cons.mpr
            ⟨ha', List.forall_mem_cons.mpr ⟨fun heq => hb (heq ▸ hm), hbefore⟩⟩
    by_cases ha : f a ∈ seen
    · exact hseen seen ha hfirst
    · -- it is the first with its value, and behind it the value does not count
      have hkeep : keep a := hfirst [] a (m :: l) rfl ha nofun
      obtain ⟨l', hl'⟩ := exists_destutter'_eq_cons (R := (f · ≠ f ·)) a (m :: l)
      have hrest := hseen (f a :: seen) List.mem_cons_self fun before b after hl hb hbefore =>
        hfirst before b after hl (fun h => hb (List.mem_cons_of_mem _ h)) hbefore
      rw [hl', List.filter_cons_of_pos hkeep, List.map_cons, List.filter_cons_of_neg (by simp),
        List.map_cons, List.filter_cons_of_neg (by simp)] at hrest
      rw [hl', List.filter_cons_of_pos hkeep, List.map_cons, eraseDups_filter_cons ha, hrest]
      exact (eraseDups_filter_cons ha _).symm

/-- Of a list, those members are kept that have another value than the one before, and of these all
that are the first with their value, and perhaps others.  Then the same values are there, in the same
order. -/
theorem eraseDups_destutter (f : α → β) (keep : α → Bool) {l : List α}
    (hfirst : ∀ before b after, l = before ++ b :: after → (∀ c ∈ before, f c ≠ f b) → keep b) :
    (((l.destutter (f · ≠ f ·)).filter keep).map f).eraseDups = (l.map f).eraseDups := by
  cases l with
  | nil => rfl
  | cons a l =>
    have h := eraseDups_destutter' f keep [] fun before b after hl _ hbefore =>
      hfirst before b after hl hbefore
    simp only [List.not_mem_nil, not_false_eq_true, decide_true, List.filter_true] at h
    exact h

end

/-! ## 2. Where the steps lead -/

namespace Session

/-- The messages that steps may end at. -/
def referred (s : Session) : List Message :=
  s.parse.messages.filter (s.navigation.settings.skipThreshold ≤ ·.severity)

/-- Two messages are in different files. -/
def Apart (disk : Disk) (s : Session) (m n : Message) : Prop :=
  Navigation.filePath disk s.table m ≠ Navigation.filePath disk s.table n

instance (disk : Disk) (s : Session) : DecidableRel (s.Apart disk) := fun m n =>
  inferInstanceAs (Decidable (Navigation.filePath disk s.table m ≠ Navigation.filePath disk s.table n))

/-- The messages that steps from file to file lead to: the first one, and then each that is in another
file than the one before. -/
def landings (disk : Disk) (s : Session) : List Message := s.referred.destutter (s.Apart disk)

/-- Of these, the messages whose file is there. -/
def printed (disk : Disk) (s : Session) : List Message :=
  (s.landings disk).filter fun m => (s.filePath? m).isSome

/-- The session with a message as the current one. -/
def goto (s : Session) (m : Message) : Session :=
  { s with navigation := { s.navigation with current := some m.start } }

section

variable {s : Session} (h : s.Unexplored) (disk : Disk)
include h

theorem Unexplored.goto (m : Message) : (s.goto m).Unexplored := ⟨h.allRead, h.ordered, h.unvisited⟩

theorem Unexplored.eligible (m : Message) : Navigation.eligible s.navigation.settings s.table m
    = decide (s.navigation.settings.skipThreshold ≤ m.severity) := by
  rw [Bool.eq_iff_iff, Navigation.eligible_iff, decide_eq_true_iff]
  exact ⟨fun hel => hel.severe, fun hsevere => ⟨hsevere, fun _ q hq => h.unvisited _ q hq⟩⟩

/-- A step leads to the next message that it may end at, if there is any. -/
theorem Unexplored.step (newFile : Bool) :
    let next := (s.referred.filter fun n => s.navigation.current.all (· < n.start)).find? fun n =>
      !(Navigation.left? disk s.table newFile s.parse.messages s.navigation.current).any
        (·.same (Navigation.filePath disk s.table n))
    let result := s.stepWith (fun nav p t => nav.step 1 newFile disk p t) disk
    (next = none → ∃ e : NavigationError, e.isEnd ∧ result = (.error e, s))
      ∧ ∀ n, next = some n → result = (.ok n, s.goto n) := by
  intro next result
  -- a hop leads to the first message beyond the current one that it may end at
  have hhop : Navigation.hop? (Navigation.eligible s.navigation.settings s.table)
      (Navigation.filePath disk s.table) .forward s.navigation.current
      (Navigation.left? disk s.table newFile s.parse.messages s.navigation.current) s.parse.messages
        = next := by
    show _ = List.find? _ (List.filter _ (List.filter _ _))
    rw [Navigation.hop?, Navigation.beyond, List.find?_filter, List.find?_filter, List.find?_filter]
    simp only [h.eligible]
    congr 1
    funext m
    grind
  have hstep : result = _ :=
    stepWith_of_allRead h.allRead (fun nav p t => nav.step 1 newFile disk p t) disk
  rw [Navigation.step_eq _ (by decide), show Direction.ofInt 1 = .forward from rfl,
    show (1 : Int).natAbs = 1 from rfl, Navigation.hops?, hhop] at hstep
  refine ⟨fun hnone => ?_, fun n hn => ?_⟩
  · rw [hnone] at hstep
    cases hany : s.parse.messages.any (Navigation.eligible s.navigation.settings s.table) with
    | true =>
      rw [hany] at hstep
      exact ⟨_, rfl, hstep⟩
    | false =>
      rw [hany] at hstep
      exact ⟨_, rfl, hstep⟩
  · have hmem : n ∈ s.referred := (List.mem_filter.mp (List.mem_of_find?_eq_some hn)).1
    obtain ⟨hm, hsevere⟩ := List.mem_filter.mp hmem
    have hany : s.parse.messages.any (Navigation.eligible s.navigation.settings s.table) :=
      List.any_eq_true.mpr ⟨n, hm, (h.eligible n).trans hsevere⟩
    have hstart : s.parse.messageAtStart? n.start = some n :=
      (Navigation.find?_start h.ordered).mpr ⟨hm, rfl⟩
    rw [hn, if_pos hany] at hstep
    dsimp only [Navigation.hops?, Option.getD_some] at hstep
    rw [hstart] at hstep
    exact hstep

/-- A step to another file leads to the next message that is in one, if there is any. -/
theorem Unexplored.nextFile :
    let next := (s.referred.filter fun n => s.navigation.current.all (· < n.start)).find? fun n =>
      !(Navigation.left? disk s.table true s.parse.messages s.navigation.current).any
        (·.same (Navigation.filePath disk s.table n))
    (next = none → ∃ e : NavigationError, e.isEnd ∧ s.nextFile disk 1 = (.error e, s))
      ∧ ∀ n, next = some n → s.nextFile disk 1 = (.ok n, s.goto n) :=
  h.step disk true

end

end Session

/-! ## 3. What is printed -/

namespace CommandLine

open Session

/-- A report has some lines, and ends well, with the messages of a parse. -/
structure Report.Ends (r : Report) (lines : List String) (p : Parse) : Prop where
  hlines : r.lines = lines
  hending : ∃ s, r.ending = .ok s ∧ s.parse = p

namespace Report

theorem Ends.after {r : Report} {lines : List String} {p : Parse} (h : r.Ends lines p)
    (printed : List String) : (r.after printed).Ends (printed ++ lines) p :=
  ⟨congrArg (printed ++ ·) h.hlines, h.hending⟩

theorem ends_refused (s : Session) {e : NavigationError} (he : e.isEnd) :
    (refused s e).Ends [] s.parse :=
  ⟨rfl, s, if_pos he, rfl⟩

theorem Ends.outcome {r : Report} {lines : List String} {p : Parse} (h : r.Ends lines p) :
    r.outcome = ⟨0, lines, summary p.counts⟩ := by
  obtain ⟨s, hs, rfl⟩ := h.hending
  rw [Report.outcome, hs, ← h.hlines]

end Report

/-- The lines for some messages, one after the other: the path of each file that is there, unless the
file is one of `seen`. -/
def linesFor (s : Session) (seen : List FileId) : List Message → List String
  | [] => []
  | m :: ms =>
    if seen.contains m.file then linesFor s seen ms
    else ((s.filePath? m).map Path.toString).toList ++ linesFor s (m.file :: seen) ms

/-- The paths of the files of some messages, each once, in the order of the messages. -/
def listing (disk : Disk) (s : Session) (ms : List Message) : List String :=
  (ms.map (Navigation.filePath disk s.table)).eraseDups.map Path.toString

section

variable {s : Session} {disk : Disk}

theorem listing_cons (m : Message) (ms : List Message) : listing disk s (m :: ms)
    = (Navigation.filePath disk s.table m).toString :: listing disk s (ms.filter fun n =>
      Navigation.filePath disk s.table n ≠ Navigation.filePath disk s.table m) := by
  rw [listing, List.map_cons, List.eraseDups_cons, List.filter_map, List.map_cons, listing]
  simp only [decide_not]
  rfl

theorem filePath_of_filePath? {m : Message} {p : Path} (hm : s.filePath? m = some p) :
    Navigation.filePath disk s.table m = p := by
  obtain ⟨f, hf, rfl⟩ := Option.map_eq_some_iff.mp hm
  rw [Navigation.filePath, hf]

/-- If no two files have one path, then each path is printed once. -/
theorem linesFor_eq (disk : Disk) (hpath : ∀ id id' p, s.table.path? id = some p → s.table.path? id' = some p →
      id = id') (seen : List FileId) (ms : List Message) : linesFor s seen ms
    = listing disk s (ms.filter fun m => (s.filePath? m).isSome && !seen.contains m.file) := by
  induction ms generalizing seen with
  | nil => rfl
  | cons m ms ih =>
    rw [linesFor]
    cases hseen : seen.contains m.file with
    | true =>
      rw [if_pos rfl, ih, List.filter_cons_of_neg]
      rw [hseen, Bool.not_true, Bool.and_false]
      exact Bool.false_ne_true
    | false =>
      rw [if_neg Bool.false_ne_true, ih]
      cases hm : s.filePath? m with
      | none =>
        rw [List.filter_cons_of_neg (by rw [hm]; exact Bool.false_ne_true)]
        -- what is in the same file has no path either
        refine congrArg (listing disk s) (List.filter_congr fun n _ => ?_)
        by_cases hfile : n.file = m.file
        · have hn : s.filePath? n = none := by
            rw [filePath?, hfile]
            exact hm
          rw [hn]
          rfl
        · simp [hfile]
      | some p =>
        rw [List.filter_cons_of_pos (by rw [hm, hseen]; rfl), listing_cons, filePath_of_filePath? hm,
          List.filter_filter]
        refine congrArg (p.toString :: ·) (congrArg (listing disk s) (List.filter_congr fun n _ => ?_))
        cases hn : s.filePath? n with
        | none => simp
        | some q =>
          have hiff : n.file = m.file ↔ q = p := by
            refine ⟨fun hfile => ?_, ?_⟩
            · rw [filePath?, hfile] at hn
              exact Option.some.inj (hn.symm.trans hm)
            · rintro rfl
              exact hpath _ _ _ hn hm
          rw [filePath_of_filePath? hn]
          simp [hiff]

theorem reportFiles_of_nextFile {seen : List FileId} {fuel : Nat} {u : Session} {n : Message}
    (hnext : u.nextFile disk 1 = (.ok n, s.goto n)) {ms : List Message}
    (hrest : ∀ seen, (reportFiles disk seen fuel (s.goto n)).Ends (linesFor s seen ms) s.parse) :
    (reportFiles disk seen (fuel + 1) u).Ends (linesFor s seen (n :: ms)) s.parse := by
  rw [reportFiles, hnext, linesFor]
  dsimp only
  split
  · exact hrest seen
  · exact (hrest (n.file :: seen)).after _

variable (h : s.Unexplored)
include h

/-- What is behind a message is what is listed behind it. -/
theorem referred_after {p : Message → Bool} {n : Message} {before after : List Message}
    (hrest : s.referred.filter p = before ++ n :: after)
    (hp : ∀ k, n.start < k.start → p k) : s.referred.filter (n.start < ·.start) = after := by
  have hsorted : (before ++ n :: after).Pairwise (·.start < ·.start) := by
    rw [← hrest]
    exact (h.ordered.filter _).filter _
  obtain ⟨-, hcons, hbefore⟩ := List.pairwise_append.mp hsorted
  have hfilter : s.referred.filter (n.start < ·.start)
      = (before ++ n :: after).filter (n.start < ·.start) := by
    rw [← hrest, List.filter_filter]
    refine List.filter_congr fun k _ => ?_
    by_cases hk : n.start < k.start
    · rw [hp k hk, Bool.and_true]
    · rw [decide_eq_false hk, Bool.false_and]
  rw [hfilter, List.filter_append, List.filter_cons_of_neg (by simp)]
  have hnil : before.filter (n.start < ·.start) = [] := by
    refine List.filter_eq_nil_iff.mpr fun k hk => ?_
    have hlt := hbefore k hk n List.mem_cons_self
    simpa using Nat.le_of_lt hlt
  rw [hnil, List.nil_append, List.filter_eq_self]
  exact fun k hk => decide_eq_true ((List.pairwise_cons.mp hcons).1 k hk)

variable (hsame : ∀ m n, (Navigation.filePath disk s.table m).same (Navigation.filePath disk s.table n)
  ↔ Navigation.filePath disk s.table m = Navigation.filePath disk s.table n)
include hsame

theorem nextFile_goto {m : Message} (hm : m ∈ s.parse.messages) {rest : List Message}
    (hrest : s.referred.filter (m.start < ·.start) = rest) :
    (rest.find? (s.Apart disk m ·) = none →
        ∃ e : NavigationError, e.isEnd ∧ (s.goto m).nextFile disk 1 = (.error e, s.goto m))
      ∧ ∀ n, rest.find? (s.Apart disk m ·) = some n →
        (s.goto m).nextFile disk 1 = (.ok n, s.goto n) := by
  have hnext := (h.goto m).nextFile disk
  have hapart : (fun n => !(Navigation.left? disk s.table true s.parse.messages (some m.start)).any
      (·.same (Navigation.filePath disk s.table n))) = fun n => decide (s.Apart disk m n) := by
    rw [Navigation.left?_some h.ordered hm]
    funext n
    rw [if_pos rfl, Option.any_some, Bool.eq_iff_iff, Bool.not_eq_true', ← Bool.not_eq_true, hsame,
      decide_eq_true_iff]
    exact Iff.rfl
  subst hrest
  rw [← hapart]
  exact hnext

/-- From a message on, the lines are those for the messages at which the file changes. -/
theorem reportFiles_goto {m : Message} (hm : m ∈ s.parse.messages) (seen : List FileId) {fuel : Nat}
    {rest : List Message} (hrest : s.referred.filter (m.start < ·.start) = rest)
    (hfuel : rest.length < fuel) :
    (reportFiles disk seen fuel (s.goto m)).Ends
      (linesFor s seen (rest.destutter' (s.Apart disk) m).tail) s.parse := by
  induction fuel generalizing m seen rest with
  | zero => cases hfuel
  | succ fuel ih =>
    obtain ⟨hnone, hsome⟩ := nextFile_goto h hsame hm hrest
    cases hfind : rest.find? (s.Apart disk m ·) with
    | none =>
      obtain ⟨e, hend, he⟩ := hnone hfind
      rw [destutter'_of_find?_eq_none hfind, reportFiles, he]
      exact Report.ends_refused (s.goto m) hend
    | some n =>
      -- behind the message that is next there are fewer messages, and less fuel is left
      obtain ⟨before, after, hsplit, hlandings⟩ := destutter'_of_find?_eq_some hfind
      obtain ⟨ms, hms⟩ := exists_destutter'_eq_cons (R := s.Apart disk) n after
      have hmem : n ∈ s.referred.filter (m.start < ·.start) := by
        rw [hrest]
        exact List.mem_of_find?_eq_some hfind
      obtain ⟨href, hlt⟩ := List.mem_filter.mp hmem
      have hafter := referred_after h (hrest.trans hsplit) fun k hk =>
        decide_eq_true (Nat.lt_trans (of_decide_eq_true hlt) hk)
      rw [hsplit, List.length_append, List.length_cons] at hfuel
      rw [hlandings, List.tail_cons, hms]
      refine reportFiles_of_nextFile (hsome n hfind) fun seen => ?_
      have hends := ih (List.mem_filter.mp href).1 seen hafter (by omega)
      rw [hms, List.tail_cons] at hends
      exact hends

/-- The lines are those for the messages at which the file changes. -/
theorem reportFiles_ends (hcurrent : s.navigation.current = none) :
    (reportFiles disk [] (s.parse.messages.length + 1) s).Ends (linesFor s [] (s.landings disk))
      s.parse := by
  obtain ⟨hnone, hsome⟩ := h.nextFile disk
  simp only [hcurrent, Option.all_none, List.filter_true] at hnone hsome
  cases href : s.referred with
  | nil =>
    rw [href] at hnone
    obtain ⟨e, hend, he⟩ := hnone rfl
    rw [landings, href, reportFiles, he]
    exact Report.ends_refused s hend
  | cons m rest =>
    have hnext : s.nextFile disk 1 = (.ok m, s.goto m) := by
      refine hsome m ?_
      rw [href]
      rfl
    have hm : m ∈ s.referred := by
      rw [href]
      exact List.mem_cons_self
    have hrest : s.referred.filter (m.start < ·.start) = rest :=
      referred_after h (show s.referred.filter (fun _ => true) = [] ++ m :: rest by
        rw [List.filter_true, href]; rfl) fun _ _ => rfl
    obtain ⟨ms, hms⟩ := exists_destutter'_eq_cons (R := s.Apart disk) m rest
    have hlength : (m :: rest).length ≤ s.parse.messages.length :=
      href ▸ List.length_filter_le _ _
    rw [landings, href, List.destutter_cons', hms]
    refine reportFiles_of_nextFile hnext fun seen => ?_
    have hends := reportFiles_goto h hsame (List.mem_filter.mp hm).1 seen hrest hlength
    rw [hms, List.tail_cons] at hends
    exact hends

end

/-! ## 4. Complete listings -/

section

variable {s : Session} {disk : Disk}

/-- Some of the messages have the listing of all just if all the paths are among theirs, and appear
first in the same order. -/
theorem listing_eq_iff {ms ns : List Message} (hsub : ms ⊆ ns) :
    let before := ms.map (Navigation.filePath disk s.table)
    let after := ns.map (Navigation.filePath disk s.table)
    listing disk s ms = listing disk s ns ↔ (∀ p ∈ after, p ∈ before)
      ∧ ∀ p ∈ after, ∀ q ∈ after, before.idxOf p < before.idxOf q ↔ after.idxOf p < after.idxOf q := by
  intro before after
  have hinj : Function.Injective Path.toString := fun p q heq =>
    congrArg Path.mk (String.ofList_injective heq)
  have hlisting : listing disk s ms = listing disk s ns ↔ before.eraseDups = after.eraseDups :=
    hinj.list_map.eq_iff
  rw [hlisting, eraseDups_eq_iff]
  exact and_congr_left fun _ => forall_congr' fun p =>
    ⟨fun h => h.mpr, fun h => ⟨fun hp => List.map_subset _ hsub hp, h⟩⟩

/-- If the first message in each file is one whose file is there, then no path is missing. -/
theorem listing_landings (hms : s.parse.messages.Pairwise (·.start < ·.start))
    (hfirst : let path := Navigation.filePath disk s.table
      ∀ m ∈ s.referred, (∀ n ∈ s.referred, n.start < m.start → path n ≠ path m) →
        (s.filePath? m).isSome) :
    listing disk s (s.printed disk) = listing disk s s.referred := by
  have hsorted : s.referred.Pairwise (·.start < ·.start) := hms.filter _
  refine congrArg (·.map Path.toString) (eraseDups_destutter (Navigation.filePath disk s.table)
    (fun m => (s.filePath? m).isSome) fun before m after hsplit hbefore => ?_)
  rw [hsplit] at hsorted hfirst
  refine hfirst m (by simp) fun n hn hlt => ?_
  rcases List.mem_append.mp hn with hn | hn
  · exact hbefore n hn
  · -- it is not behind `m`
    have hafter := (List.pairwise_append.mp hsorted).2.1
    rcases List.mem_cons.mp hn with rfl | hn
    · exact absurd hlt (Nat.lt_irrefl _)
    · exact absurd hlt (Nat.lt_asymm ((List.pairwise_cons.mp hafter).1 n hn))

end

/-! ## 5. The command -/

section

variable {home : FileTable} {disk : Disk} {F : List String → Prop} {t : FileTable}
  (ht : t.Named home disk F)
include ht

theorem normal_filePath (m : Message) : ∃ p : Path, Navigation.filePath disk t m = p.normalize := by
  unfold Navigation.filePath
  cases hf : t.file? m.file with
  | none => exact t.normal_resolved disk m.location.spec .root []
  | some f => exact ht.normal m.file f.path (by rw [FileTable.path?, hf]; rfl)

theorem same_filePath (m n : Message) :
    (Navigation.filePath disk t m).same (Navigation.filePath disk t n)
      ↔ Navigation.filePath disk t m = Navigation.filePath disk t n := by
  obtain ⟨p, hp⟩ := normal_filePath ht m
  obtain ⟨q, hq⟩ := normal_filePath ht n
  rw [Path.same_iff, hp, hq]
  exact ⟨Path.normalize_inj, congrArg Path.components⟩

end

theorem reportFiles_opened (cfg : ScanSettings) (p : Option DirectoryPattern) (workingDir : Path)
    (searchPath : List (Option Path)) (nav : NavigationSettings) {sources : Sources}
    (hguide : sources.guide = none) (text : Text) (disk : Disk) :
    let s := opened cfg p workingDir searchPath nav sources text disk
    (reportFiles disk [] (s.parse.messages.length + 1) s).Ends (listing disk s (s.printed disk))
      s.parse := by
  intro s
  have h : s.Unexplored := unexplored_opened cfg p workingDir searchPath nav sources text disk
  have hnamed : s.table.Named _ disk _ :=
    named_opened cfg p workingDir searchPath nav sources text disk hguide
  have hpath : ∀ id id' q, s.table.path? id = some q → s.table.path? id' = some q → id = id' :=
    fun id id' q hid hid' => hnamed.indexed.distinct id id' q.components (by rw [hid]; rfl)
      (by rw [hid']; rfl)
  have hends := reportFiles_ends h (same_filePath hnamed) rfl
  rw [linesFor_eq disk hpath] at hends
  simp only [List.contains_nil, Bool.not_false, Bool.and_true] at hends
  exact hends

example : (reportFiles .empty [] 5
    (opened .capitals none ⟨['/']⟩ [none] {} {} "A\nA\nB\nA\n".toList .empty)).lines
      = ["/A", "/B"] := by
  decide +kernel

section

variable {args : List String} {a : Arguments} (hargs : Arguments.parse args = some a) {disk : Disk}
  {cwd : Path} {stdin : ByteArray} {build : Build}
include hargs

theorem run_of_openSession_error {e : Failure} (hopen : openSession a disk cwd stdin = .error e) :
    run args disk cwd stdin build = ⟨1, [], "Error: " ++ e.message⟩ := by
  simp only [run, hargs, hopen]

variable {s : Session} (hopen : openSession a disk cwd stdin = .ok s)
include hopen

/-- A debug build stops before it prints anything. -/
theorem run_of_overflows (hover : overflows a disk cwd stdin) :
    run args disk cwd stdin .debug = ⟨101, [], "attempt to add with overflow"⟩ := by
  simp only [run, hargs, hopen, hover, and_self, if_true]

theorem run_of_openSession (hfits : build = .release ∨ ¬ overflows a disk cwd stdin) :
    run args disk cwd stdin build = (report a disk s).outcome := by
  have hgo : ¬ (build = .debug ∧ overflows a disk cwd stdin) := by
    rintro ⟨rfl, hover⟩
    rcases hfits with hrelease | hfits
    · cases hrelease
    · exact hfits hover
  simp only [run, hargs, hopen, if_neg hgo]

end

/-- With the argument that asks for files, whatever the log, the settings, the rules and the files on
the disk are: if they can be loaded, then the command succeeds, and prints the path of each file that a
step leads to and that is there, once, in the order of the steps.  These are the paths of all messages
that are severe enough, in the order in which they appear first, just if there is a step to a message
of each whose file is there, and the first such steps are in that order.  It is so if the file of the
first message with each path is there, and so in particular if no message says that a file has changed.
A debug build fails, and prints nothing, if the log has a column that is too large. -/
theorem lines_run {args : List String} {a : Arguments} (hargs : Arguments.parse args = some a)
    (hfiles : a.files) (disk : Disk) (cwd : Path) (stdin : ByteArray) (build : Build) :
    let outcome := run args disk cwd stdin build
    (∀ e, openSession a disk cwd stdin = .error e → outcome = ⟨1, [], "Error: " ++ e.message⟩)
      ∧ ∀ s, openSession a disk cwd stdin = .ok s →
        (build = .debug → overflows a disk cwd stdin →
          outcome = ⟨101, [], "attempt to add with overflow"⟩)
        ∧ (build = .release ∨ ¬ overflows a disk cwd stdin →
          let path := Navigation.filePath disk s.table
          let paths := s.referred.map path
          let printed := (s.printed disk).map path
          outcome.code = 0
            ∧ outcome.lines = printed.eraseDups.map Path.toString
            ∧ (outcome.lines = paths.eraseDups.map Path.toString ↔ (∀ p ∈ paths, p ∈ printed)
              ∧ ∀ p ∈ paths, ∀ q ∈ paths,
                printed.idxOf p < printed.idxOf q ↔ paths.idxOf p < paths.idxOf q)
            ∧ ((∀ m ∈ s.referred, (∀ n ∈ s.referred, n.start < m.start → path n ≠ path m) →
                (s.filePath? m).isSome) → outcome.lines = paths.eraseDups.map Path.toString)
            ∧ ((∀ m ∈ s.parse.messages, ∀ r ∈ s.parse.settings.rules.rules, r.name = m.rule →
                ¬ r.flushes) → outcome.lines = paths.eraseDups.map Path.toString)) := by
  intro outcome
  refine ⟨fun e hopen => run_of_openSession_error hargs hopen, fun s hopen => ⟨?_, fun hfits => ?_⟩⟩
  · rintro rfl hover
    exact run_of_overflows hargs hopen hover
  · have hrun : outcome = (reportFiles disk [] (s.parse.messages.length + 1) s).outcome := by
      refine (run_of_openSession hargs hopen hfits).trans ?_
      rw [report, if_pos hfiles]
    obtain ⟨cfg, p, workingDir, searchPath, nav, sources, text, hguide, rfl⟩ := openSession_eq_ok hopen
    have h := unexplored_opened cfg p workingDir searchPath nav sources text disk
    have hlive := live_opened cfg p workingDir searchPath nav sources text disk
    have hsettings := settings_opened cfg p workingDir searchPath nav sources text disk
    rw [hrun, (reportFiles_opened cfg p workingDir searchPath nav hguide text disk).outcome]
    dsimp only
    clear hopen hfits hrun outcome
    generalize opened cfg p workingDir searchPath nav sources text disk = s at h hlive hsettings
    have hsub : s.printed disk ⊆ s.referred := fun m hm =>
      (List.destutter_sublist _ _).subset (List.mem_filter.mp hm).1
    refine ⟨rfl, rfl, listing_eq_iff hsub, listing_landings h.ordered, fun hnone => ?_⟩
    refine listing_landings h.ordered fun m hm _ => ?_
    rw [hsettings] at hnone
    exact Option.isSome_map.trans (hlive hnone (List.mem_filter.mp hm).1)

/-- One grammar of the catalog. -/
def weblint : Grammar where
  name := "weblint"
  pattern := "^([^ \\t\\r\\n(]+) \\(([0-9]+):([0-9]+)\\) "
  roles := { file := some (.group 1), line := some (.group 2), column := some (.group 3) }

/-- With one rule of the catalog, a log from the standard input can be loaded. -/
theorem loads_weblint (files : Bool) (text : String) :
    Loads { files, only := some [weblint.name] } .empty text.toByteArray
      { rules := some [weblint.name] } ⟨[weblint.loaded]⟩ text .new [] where
  hsettings := rfl
  hrules := by
    have hmem : ∀ g ∈ [weblint], g ∈ catalog := by simp [catalog, weblint]
    have honly : RuleSet.only ⟨catalog.map Grammar.loaded⟩ [weblint.name]
        = .ok ⟨[weblint.loaded]⟩ :=
      @RuleSet.only_loaded [weblint] hmem (by simp)
    unfold ruleSet Settings.ruleSet
    simp only [RuleSet.builtin_eq_ok, honly]
  htext := by
    have hutf8 : String.fromUTF8? text.toByteArray = some text := dif_pos text.isValidUTF8
    rw [logText]
    dsimp only
    rw [hutf8]
  htrail := by simp only [Settings.directoryTrail]
  hsubstitutions := rfl

set_option maxRecDepth 100000 in
/-- Two files are referred to, the first of them twice. -/
theorem lines_run_weblint :
    let args := ["--files", "--only", "weblint"]
    let a : Arguments := { files := true, only := some ["weblint"] }
    let log := "a (1:2) \nb (3:4) \na (5:6) \n".toByteArray
    (Arguments.parse args = some a ∧ a.files)
      ∧ (∃ s, openSession a .empty ⟨['/']⟩ log = .ok s) ∧ ¬ overflows a .empty ⟨['/']⟩ log
      ∧ ∀ build, (run args .empty ⟨['/']⟩ log build).code = 0
        ∧ (run args .empty ⟨['/']⟩ log build).lines = ["/a", "/b"] := by
  intro args a log
  have hargs : Arguments.parse args = some a := rfl
  have hloads := loads_weblint true "a (1:2) \nb (3:4) \na (5:6) \n"
  have hopen := hloads.openSession ⟨['/']⟩ DirectoryTrail.new_eq
  have hfits : ¬ overflows a .empty ⟨['/']⟩ log := by
    refine (hloads.overflows_eq ⟨['/']⟩).trans_ne ?_
    rw [DirectoryTrail.new_eq]
    unfold DirectoryPattern.usual DirectoryPattern.usualExpr defaultDirectoryPattern Grammar.loaded
      Grammar.expr weblint
    simp only [toList_of_eq rfl]
    decide +kernel
  refine ⟨⟨hargs, rfl⟩, ⟨_, hopen⟩, hfits, fun build => ?_⟩
  obtain ⟨hcode, hlines, -⟩ :=
    ((lines_run hargs rfl .empty ⟨['/']⟩ log build).2 _ hopen).2 (.inr hfits)
  refine ⟨hcode, hlines.trans ?_⟩
  unfold DirectoryPattern.usual DirectoryPattern.usualExpr defaultDirectoryPattern Grammar.loaded
    Grammar.expr weblint
  simp only [toList_of_eq rfl]
  decide +kernel

/-- A capital letter names a file, and one behind a mark names a file that has changed. -/
def noticeRules : RuleSet :=
  ⟨[.ofSet "capital" (.ofRange 65 90),
    { Rule.ofExpr "notice" (.cat (.one (.singleton '!')) (.group 1 none (.one (.ofRange 65 90)))) 1 with
      file := some (.group 1)
      severity := .fixed .info
      flushes := true }]⟩

/-- The first line refers to a file, and is the only one that a step may lead to.  The second one
says that the file has changed, and then it is not listed. -/
theorem lines_run_differs :
    let s := opened { rules := noticeRules } none ⟨['/']⟩ [none] {} {} "A\n!A\n".toList .empty
    listing .empty s s.referred = ["/A"]
      ∧ (reportFiles .empty [] (s.parse.messages.length + 1) s).lines = [] := by
  decide +kernel

end CommandLine

end BuildLog
