import BuildLog.Proofs.Editing
import BuildLog.Proofs.Ordering
import BuildLog.Proofs.Rereading

/-!
# One message for each line

A message claims its last line up to the end, so that no other begins there.  Within one reading
this is so by itself.  Between two readings it is so unless the second begins inside the text of a
message that was kept, and finds another message before this one's last line ends.
-/

namespace BuildLog

open Text

/-! ## 1. Line ends -/

namespace Text

theorem newline_mem_of_firstLineLength_lt {t : Text} (h : firstLineLength t < t.length) :
    '\n' ∈ t := by
  induction t with
  | nil => simp [firstLineLength] at h
  | cons c t ih =>
    rw [firstLineLength] at h
    split at h
    · rename_i hc
      exact hc ▸ List.mem_cons_self
    · exact List.mem_cons_of_mem c (ih (Nat.lt_of_succ_lt_succ h))

/-- The line ends before an offset in the text if the text is terminated somewhere in between. -/
theorem lineEndAfter_le_iff {t : Text} {stop k : Nat} (hk : k < t.length) :
    t.lineEndAfter stop ≤ k ↔ ∃ x, stop ≤ x ∧ x ≤ k ∧ Terminated (t.take x) := by
  constructor
  · intro h
    refine ⟨t.lineEndAfter stop, le_lineEndAfter t stop, h, ?_⟩
    by_cases hterm : Terminated (t.take stop)
    · rw [lineEndAfter_of_terminated hterm]
      exact hterm
    · -- the line ends before the text does, so it ends with a newline
      rw [lineEndAfter_of_not_terminated hterm] at h ⊢
      have hmem : '\n' ∈ t.drop stop :=
        newline_mem_of_firstLineLength_lt (by rw [List.length_drop]; omega)
      rw [List.take_add, terminated_iff]
      right
      rcases terminated_iff.mp (terminated_take_firstLineLength hmem) with hnil | hlast
      · have hne : t.drop stop ≠ [] := List.ne_nil_of_mem hmem
        have hpos := firstLineLength_pos hne
        rcases List.take_eq_nil_iff.mp hnil with hzero | hnil
        · omega
        · exact absurd hnil hne
      · rw [List.getLast?_append, hlast]
        rfl
  · rintro ⟨x, hsx, hxk, hx⟩
    -- what comes behind a terminated part does not matter for the lines in it
    have hlen : (t.take x).length = x := by
      rw [List.length_take]
      omega
    have hend : lineEndAfter (t.take x ++ t.drop x) stop = lineEndAfter (t.take x) stop :=
      lineEndAfter_append_right hx (t.drop x) (by omega)
    have hle : lineEndAfter (t.take x) stop ≤ (t.take x).length := lineEndAfter_le (by omega)
    rw [List.take_append_drop] at hend
    omega

end Text

namespace View

/-! ## 2. Tidy views -/

/-- The findings are not empty and lie in the text, and each begins behind the last line of the one
before. -/
structure Tidy (v : View) : Prop where
  nonempty : ∀ f ∈ v.findings, f.start < f.span.stop
  within : ∀ f ∈ v.findings, f.span.stop ≤ v.text.length
  apart : v.findings.Pairwise fun f g => v.text.lineEndAfter f.span.stop ≤ g.start

variable {v w : View}

theorem Tidy.inOrder (h : v.Tidy) : v.findings.Pairwise fun f g => f.span.stop ≤ g.start :=
  h.apart.imp fun hle => Nat.le_trans (le_lineEndAfter _ _) hle

theorem Tidy.sublist (h : v.Tidy) (hf : w.findings.Sublist v.findings) (ht : w.text = v.text) :
    w.Tidy := by
  refine ⟨fun f hm => h.nonempty f (hf.mem hm), fun f hm => ?_, ?_⟩
  · rw [ht]
    exact h.within f (hf.mem hm)
  · rw [ht]
    exact h.apart.sublist hf

/-- A change of the text behind all findings leaves them tidy. -/
theorem Tidy.change (h : v.Tidy) (hf : w.findings = v.findings) {k : Nat}
    (hk : ∀ f ∈ v.findings, f.span.stop ≤ k) (hlen : k ≤ v.text.length)
    (ht : w.text.take k = v.text.take k) : w.Tidy := by
  have hwlen : k ≤ w.text.length := by
    have := congrArg List.length ht
    rw [List.length_take, List.length_take] at this
    omega
  refine ⟨by rw [hf]; exact h.nonempty, fun f hm => ?_, ?_⟩
  · exact Nat.le_trans (hk f (hf ▸ hm)) hwlen
  · rw [hf]
    refine h.apart.imp_of_mem fun {f g} _ hg hle => ?_
    have hgk := hk g hg
    have hgn := h.nonempty g hg
    -- the two findings are parted by a newline, which is there still
    obtain ⟨x, hfx, hxg, hx⟩ := (lineEndAfter_le_iff (by omega)).mp hle
    refine (lineEndAfter_le_iff (by omega)).mpr ⟨x, hfx, hxg, ?_⟩
    have htake : w.text.take x = v.text.take x := by
      have := congrArg (List.take x) ht
      rwa [List.take_take, List.take_take, Nat.min_eq_left (by omega)] at this
    rw [htake]
    exact hx

/-! ## 3. Flushes -/

/-- In findings that do not overlap, none reaches beyond the place that a flush goes back to. -/
theorem stop_le_doubtfulFrom_of_inOrder {fs : List Finding}
    (h : fs.Pairwise fun f g => g.span.stop ≤ f.start) (offset : Nat) :
    ∀ f ∈ fs, f.start < doubtfulFrom offset fs → f.span.stop ≤ doubtfulFrom offset fs := by
  induction fs generalizing offset with
  | nil => exact nofun
  | cons g fs ih =>
    obtain ⟨hg, hfs⟩ := List.pairwise_cons.mp h
    intro f hf hlt
    rw [doubtfulFrom] at hlt ⊢
    split at hlt
    · -- the finding is behind the offset, and those before it decide
      rename_i hle
      rw [if_pos hle]
      rcases List.mem_cons.mp hf with rfl | hf
      · have := doubtfulFrom_le offset fs
        omega
      · exact ih hfs offset f hf hlt
    · rename_i hle
      rw [if_neg hle]
      split at hlt
      · -- the finding is about the offset, and the flush goes back to its start
        rename_i hin
        rw [if_pos hin]
        rcases List.mem_cons.mp hf with rfl | hf
        · have := doubtfulFrom_le f.start fs
          omega
        · exact ih hfs g.start f hf hlt
      · rename_i hin
        rw [if_neg hin]
        rcases List.mem_cons.mp hf with rfl | hf
        · omega
        · have := hg f hf
          omega

theorem sublist_flushFrom (v : View) (offset : Nat) :
    (v.flushFrom offset).findings.Sublist v.findings := by
  rcases flushFrom_cases v offset rfl with ⟨hsame, -, -⟩ | ⟨r, q, hflush, -⟩
  · rw [hsame]
  · rw [hflush]
    exact List.filter_sublist

theorem start_lt_flushFrom (v : View) (offset : Nat) : ∀ f ∈ (v.flushFrom offset).findings,
    f.start < doubtfulFrom offset v.findings.reverse := by
  rcases flushFrom_cases v offset rfl with ⟨hsame, -, hbefore⟩ | ⟨r, q, hflush, -⟩
  · rw [hsame]
    exact hbefore
  · rw [hflush]
    exact fun f hf => of_decide_eq_true (List.mem_filter.mp hf).2

/-- The place that a flush goes back to is in no finding. -/
theorem Tidy.stop_le_doubtfulFrom (h : v.Tidy) (offset : Nat) : ∀ f ∈ v.findings,
    f.start < doubtfulFrom offset v.findings.reverse →
      f.span.stop ≤ doubtfulFrom offset v.findings.reverse := by
  have hrev : v.findings.reverse.Pairwise fun f g => g.span.stop ≤ f.start :=
    List.pairwise_reverse.mpr h.inOrder
  exact fun f hf => stop_le_doubtfulFrom_of_inOrder hrev offset f (List.mem_reverse.mpr hf)

theorem Tidy.stop_le_flushFrom (h : v.Tidy) (offset : Nat) :
    ∀ f ∈ (v.flushFrom offset).findings, f.span.stop ≤ offset := by
  intro f hf
  have hmem := (sublist_flushFrom v offset).mem hf
  have hstop := h.stop_le_doubtfulFrom offset f hmem (start_lt_flushFrom v offset f hf)
  have := doubtfulFrom_le offset v.findings.reverse
  omega

theorem Tidy.flushFrom (h : v.Tidy) (offset : Nat) : (v.flushFrom offset).Tidy :=
  h.sublist (sublist_flushFrom v offset) (Parse.text_flushFrom v offset).1

/-! ## 4. Readings -/

/-- A reading up to an offset finds nothing before the end of the last line of a finding that it
begins in. -/
def Harmless (upto : Nat) (v : View) : Prop :=
  ∀ f ∈ v.settle.snap.kept, v.settle.snap.cursor < f.span.stop →
    ∀ g ∈ v.settle.snap.found (v.settle.snap.readable upto),
      v.text.lineEndAfter f.span.stop ≤ g.start

theorem Tidy.settle_snap (h : v.Tidy) : v.settle.snap.Tidy :=
  h.sublist (sublist_snap v.settle) (text_snap v.settle)

theorem found_apart {u : View} (hu : u.Ready) (upto : Nat) :
    (u.found (u.readable upto)).Pairwise fun f g => u.text.lineEndAfter f.span.stop ≤ g.start := by
  refine (found_pairwise u (u.readable upto)).imp_of_mem fun {f g} hf hg hle => ?_
  have hwf := found_within u _ f hf
  have hwg := found_within u _ g hg
  have hfs := hwf.start_le
  have hfn := hwf.nonempty
  have hgn := hwg.nonempty
  have hgs := hwg.stop_le
  have hend := readEnd_le (ne_nil_of_mem_found u _ hf)
  unfold readEnd at hend
  -- a reading that finds something begins at the start of a line
  have hstart : Terminated (u.text.take u.cursor) := hu.lineStart.resolve_right (by omega)
  have hline : (u.readable upto).lineEndAfter (f.span.stop - u.cursor) ≤ g.start - u.cursor := by
    omega
  -- the newline between the two is in the text that was read, and so in the log
  obtain ⟨x, hfx, hxg, hx⟩ := (lineEndAfter_le_iff (by omega)).mp hline
  refine (lineEndAfter_le_iff (by omega)).mpr ⟨u.cursor + x, by omega, by omega, ?_⟩
  have htake : (u.readable upto).take x = (u.text.drop u.cursor).take x := by
    conv_lhs => rw [readable_eq upto u, List.take_take, Nat.min_eq_left (by omega)]
  rw [List.take_add, ← htake]
  exact hstart.append hx

theorem Tidy.within_advance (h : v.Tidy) (upto : Nat) :
    ∀ f ∈ (v.advance upto).2.findings, f.start < f.span.stop ∧ f.span.stop ≤ v.text.length := by
  have hu := h.settle_snap
  have hold : ∀ f ∈ v.settle.snap.findings, f.start < f.span.stop ∧ f.span.stop ≤ v.text.length :=
    fun f hf => ⟨hu.nonempty f hf, text_snap v.settle ▸ hu.within f hf⟩
  unfold advance readOn
  split
  · exact hold
  · rename_i hne
    intro f hf
    rcases List.mem_append.mp hf with hf | hf
    · exact hold f (List.mem_filter.mp hf).1
    · have hw := found_within _ _ f hf
      have hend := (readEnd_le hne).2
      have htext : v.settle.snap.text = v.text := text_snap v.settle
      have hstop := hw.stop_le
      rw [htext] at hend
      unfold readEnd at hend
      exact ⟨hw.nonempty, by omega⟩

/-- After a reading of a tidy view, the findings are apart just if the reading was harmless. -/
theorem Tidy.apart_advance_iff (h : v.Tidy) (upto : Nat) :
    ((v.advance upto).2.findings.Pairwise fun f g => v.text.lineEndAfter f.span.stop ≤ g.start)
      ↔ v.Harmless upto := by
  have hu := h.settle_snap
  have hready := ready_settle_snap v
  have htext : v.settle.snap.text = v.text := text_snap v.settle
  unfold Harmless
  rw [← htext]
  unfold advance readOn
  generalize v.settle.snap = u at hu hready
  by_cases hnil : u.readable upto = []
  · rw [if_pos hnil]
    -- nothing is found in no text
    exact iff_of_true hu.apart fun f _ _ g hg => absurd hnil (ne_nil_of_mem_found u _ hg)
  · rw [if_neg hnil]
    have hend := readEnd_le hnil
    have hstart : Terminated (u.text.take u.cursor) := hready.lineStart.resolve_right (by omega)
    have hkept : u.kept.Sublist u.findings := List.filter_sublist
    show (u.kept ++ u.found (u.readable upto)).Pairwise _ ↔ _
    rw [List.pairwise_append]
    constructor
    · exact fun hapart f hf _ g hg => hapart.2.2 f hf g hg
    · refine fun hharmless => ⟨hu.apart.sublist hkept, found_apart hready upto, fun f hf g hg => ?_⟩
      have hw := found_within u _ g hg
      have h₁ := hw.start_le
      have h₂ := hw.nonempty
      have h₃ := hw.stop_le
      -- a finding that ends before the cursor has its last line before the cursor as well
      by_cases hfc : u.cursor < f.span.stop
      · exact hharmless f hf hfc g hg
      · unfold readEnd at hend
        exact (lineEndAfter_le_iff (by omega)).mpr ⟨u.cursor, by omega, h₁, hstart⟩

theorem Tidy.advance (h : v.Tidy) {upto : Nat} (hr : v.Harmless upto) : (v.advance upto).2.Tidy := by
  have hwithin := h.within_advance upto
  refine ⟨fun f hf => (hwithin f hf).1, fun f hf => ?_, ?_⟩
  · rw [text_advance]
    exact (hwithin f hf).2
  · rw [text_advance]
    exact (h.apart_advance_iff upto).mpr hr

/-! ## 5. Growing logs -/

/-- While the tool runs and the log only grows, the cursor is at the start of a line, and no finding
that begins before it reaches beyond it. -/
structure Uncut (v : View) : Prop where
  running : v.finished = false
  ready : v.Ready
  lineStart : Terminated (v.text.take v.cursor)
  uncut : ∀ f ∈ v.findings, f.start < v.cursor → f.span.stop ≤ v.cursor

theorem Uncut.harmless (h : v.Uncut) (upto : Nat) : v.Harmless upto := by
  intro f hf hlt
  rw [h.ready.settle, h.ready.snap] at hf hlt
  have hf := List.mem_filter.mp hf
  have := h.uncut f hf.1 (of_decide_eq_true hf.2)
  omega

theorem Uncut.append (h : v.Uncut) (t : Text) : Uncut { v with text := v.text ++ t } := by
  have hcursor := h.ready.cursor_le
  have htake : (v.text ++ t).take v.cursor = v.text.take v.cursor :=
    List.take_append_of_le_length hcursor
  have hline : Terminated ((v.text ++ t).take v.cursor) := by
    rw [htake]
    exact h.lineStart
  refine ⟨h.running, ⟨h.ready.pending, h.ready.rewound, ?_, .inl hline⟩, hline, h.uncut⟩
  rw [List.length_append]
  exact Nat.le_add_right_of_le hcursor

theorem Uncut.advance (h : v.Uncut) (upto : Nat) : (v.advance upto).2.Uncut := by
  have hready := h.ready.readOn upto
  rw [h.ready.advance]
  have hat := atEnd_eq_false h.running upto
  unfold readOn at hready ⊢
  split at hready
  · rename_i hnil
    rw [if_pos hnil]
    exact h
  · rename_i hne
    rw [if_neg hne]
    refine ⟨h.running, hready, h.ready.terminated_readText hne hat, fun f hf => ?_⟩
    rw [hat]
    show f.start < v.cursor + certainLength _ _ _ _ → f.span.stop ≤ v.cursor + certainLength _ _ _ _
    intro hlt
    rcases List.mem_append.mp hf with hf | hf
    · have hf := List.mem_filter.mp hf
      exact Nat.le_add_right_of_le (h.uncut f hf.1 (of_decide_eq_true hf.2))
    · exact stop_le_of_start_lt hf hlt

end View

/-! ## 6. Sessions -/

/-- In messages that do not overlap, an offset is in one at most, which is the one that is found. -/
theorem Parse.messageAt?_eq_some_iff {p : Parse}
    (h : p.messages.Pairwise fun m n => m.span.stop ≤ n.start) {o : Nat} {m : Message} :
    p.messageAt? o = some m ↔ m ∈ p.messages ∧ m.span.covers o = true := by
  unfold messageAt?
  rw [Option.filter_eq_some_iff]
  constructor
  · rintro ⟨hlast, hcovers⟩
    exact ⟨(List.mem_filter.mp (List.mem_of_getLast? hlast)).1, hcovers⟩
  · rintro ⟨hm, hcovers⟩
    refine ⟨?_, hcovers⟩
    have hin : m.start ≤ o ∧ o < m.span.stop := by
      simpa [Span.covers, Message.start] using hcovers
    have hmem : m ∈ p.messages.filter (·.start ≤ o) :=
      List.mem_filter.mpr ⟨hm, decide_eq_true hin.1⟩
    cases hlast : (p.messages.filter (·.start ≤ o)).getLast? with
    | none =>
      rw [List.getLast?_eq_none_iff] at hlast
      rw [hlast] at hmem
      cases hmem
    | some n =>
      -- a later message that begins by the offset would begin inside this one
      have hn : n.start ≤ o :=
        of_decide_eq_true (List.mem_filter.mp (List.mem_of_getLast? hlast)).2
      rcases pairwise_getLast? (h.filter _) hlast hmem with rfl | hlt
      · rfl
      · omega

namespace Session

/-- Each message begins behind the last line of the one before, and the message at an offset is the
one that covers it. -/
structure Tidy (s : Session) : Prop where
  nonempty : ∀ m ∈ s.parse.messages, m.start < m.span.stop
  apart : s.parse.messages.Pairwise fun m n => s.log.text.lineEndAfter m.span.stop ≤ n.start
  messageAt : ∀ o m, s.parse.messageAt? o = some m ↔ m ∈ s.parse.messages ∧ m.span.covers o = true

theorem tidy_of_view {s : Session} (h : s.parseState.view.Tidy) : s.Tidy := by
  have hapart : (s.parse.messages.map Message.finding).Pairwise fun f g =>
      s.log.text.lineEndAfter f.span.stop ≤ g.start := h.apart
  have horder : (s.parse.messages.map Message.finding).Pairwise fun f g =>
      f.span.stop ≤ g.start := h.inOrder
  rw [List.pairwise_map] at hapart horder
  exact ⟨fun m hm => h.nonempty m.finding (List.mem_map_of_mem hm), hapart,
    fun o m => Parse.messageAt?_eq_some_iff horder⟩

theorem sound_act {s : Session} (hs : s.parseState.Sound) (a : Action) :
    (s.act a).parseState.Sound := by
  cases a with
  | append t => exact ⟨hs.trail, hs.table⟩
  | insert offset t => exact ⟨(hs.flush offset).trail, (hs.flush offset).table⟩
  | delete span => exact ⟨(hs.flush span.start).trail, (hs.flush span.start).table⟩
  | read disk upto => exact (Parse.view_advance hs disk upto).2.2
  | finish => exact ⟨hs.trail, hs.table⟩

theorem sound_run {s : Session} (hs : s.parseState.Sound) (as : List Action) :
    (s.run as).parseState.Sound := by
  induction as generalizing s with
  | nil => exact hs
  | cons a as ih => exact ih (sound_act hs a)

theorem sound_start (cfg : ScanSettings) (p : Option DirectoryPattern) (workingDir : Path)
    (searchPath : List (Option Path)) (nav : NavigationSettings) (sources : Sources)
    (log : Transcript) :
    (start cfg { pattern := p } { workingDir, searchPath } nav sources log).parseState.Sound :=
  ⟨DirectoryTrail.Sound.clear _, Slots.neat_empty⟩

theorem run_concat (s : Session) (as : List Action) (a : Action) :
    s.run (as ++ [a]) = (s.run as).act a := by
  unfold run
  exact List.foldl_concat _ _ _ _

section Read

variable {s : Session} (disk : Disk) (upto : Nat)

theorem view_read (hs : s.parseState.Sound) :
    (s.act (.read disk upto)).parseState.view = (s.parseState.view.advance upto).2 :=
  (Parse.view_advance hs disk upto).2.1

theorem harmless_of_tidy (hs : s.parseState.Sound) (h : s.parseState.view.Tidy)
    (hread : (s.act (.read disk upto)).Tidy) : s.parseState.view.Harmless upto := by
  have hview := view_read disk upto hs
  have htext : (s.act (.read disk upto)).log.text = s.log.text :=
    (congrArg View.text hview).trans (View.text_advance upto _)
  have hapart : ((s.act (.read disk upto)).parse.messages.map Message.finding).Pairwise fun f g =>
      s.log.text.lineEndAfter f.span.stop ≤ g.start := by
    rw [List.pairwise_map, ← htext]
    exact hread.apart
  refine (h.apart_advance_iff upto).mp ?_
  rw [← hview]
  exact hapart

end Read

theorem view_onEdit (s : Session) (offset : Nat) :
    (s.onEdit offset).parseState.view = s.parseState.view.flushFrom offset :=
  Parse.view_flush s.parseState offset

theorem tidy_edit {s : Session} (h : s.parseState.view.Tidy) (offset : Nat) {l : Transcript}
    (hl : ∀ k, k ≤ offset → k ≤ s.log.text.length → l.text.take k = s.log.text.take k) :
    View.Tidy (parseState { s.onEdit offset with log := l }).view := by
  have hflush := h.flushFrom offset
  have hstop := h.stop_le_flushFrom offset
  rw [← view_onEdit] at hflush hstop
  -- the text up to the edit stays, and all findings are in it
  have hin : ∀ f ∈ (s.onEdit offset).parseState.view.findings,
      f.span.stop ≤ min offset s.log.text.length :=
    fun f hf => Nat.le_min.mpr ⟨hstop f hf, hflush.within f hf⟩
  exact hflush.change rfl hin (Nat.min_le_right _ _)
    (hl _ (Nat.min_le_left _ _) (Nat.min_le_right _ _))

/-- Only a reading can leave a session that is not tidy. -/
theorem tidy_act {s : Session} (h : s.parseState.view.Tidy) (a : Action)
    (ha : ∀ disk upto, a = .read disk upto → (s.act a).parseState.view.Tidy) :
    (s.act a).parseState.view.Tidy := by
  cases a with
  | append t =>
    refine h.change rfl h.within (Nat.le_refl _) ?_
    show (s.log.text ++ t).take s.log.text.length = s.log.text.take s.log.text.length
    rw [List.take_left' rfl, List.take_length]
  | insert offset t => exact tidy_edit h offset fun k hk hlen => Parse.take_insert hk hlen t
  | delete span => exact tidy_edit h span.start fun k hk hlen => Parse.take_delete hk hlen
  | read disk upto => exact ha disk upto rfl
  | finish => exact ⟨h.nonempty, h.within, h.apart⟩

/-- A session stays tidy if each reading is harmless or leaves it tidy. -/
theorem tidy_run {s : Session} (hs : s.parseState.Sound) (h₀ : s.parseState.view.Tidy)
    (as : List Action) (h : ∀ bs disk upto cs, as = bs ++ .read disk upto :: cs →
      (s.run bs).parseState.view.Harmless upto ∨ (s.run (bs ++ [.read disk upto])).Tidy) :
    (s.run as).parseState.view.Tidy := by
  induction as using List.reverseRecOn with
  | nil => exact h₀
  | append_singleton as a ih =>
    -- the readings before the last action are readings of the whole as well
    have hbefore := ih fun bs disk upto cs has =>
      h bs disk upto (cs ++ [a]) (by rw [has, List.append_assoc, List.cons_append])
    have hsound := sound_run hs as
    rw [run_concat]
    refine tidy_act hbefore a fun disk upto ha => ?_
    subst ha
    rw [view_read disk upto hsound]
    refine hbefore.advance ?_
    rcases h as disk upto [] rfl with hharmless | htidy
    · exact hharmless
    · rw [run_concat] at htidy
      exact harmless_of_tidy disk upto hsound hbefore htidy

/-- A rule for a pair of lines. -/
def pairRule : Rule :=
  let letter (c : Char) : Pattern.Expr := .one (.singleton c)
  .ofExpr "pair" (.cat (letter 'A') (.cat (letter '\n') (letter 'B'))) 2

def pairRules : RuleSet := ⟨[pairRule, .ofSet "letter" (.singleton 'B')]⟩

/-- In any history of edits and readings, every reading leaves one message for each line just if
every reading is harmless. -/
theorem readings_tidy_iff (cfg : ScanSettings) (p : Option DirectoryPattern) (workingDir : Path)
    (searchPath : List (Option Path)) (nav : NavigationSettings) (sources : Sources)
    (log : Transcript) (as : List Action) :
    let s := start cfg { pattern := p } { workingDir, searchPath } nav sources log
    (∀ (bs : List Action) (disk : Disk) (upto : Nat) (cs : List Action),
        as = bs ++ .read disk upto :: cs → (s.run (bs ++ [.read disk upto])).Tidy)
      ↔ ∀ (bs : List Action) (disk : Disk) (upto : Nat) (cs : List Action),
        as = bs ++ .read disk upto :: cs → (s.run bs).parseState.view.Harmless upto := by
  intro s
  have hs : s.parseState.Sound := sound_start cfg p workingDir searchPath nav sources log
  have h₀ : s.parseState.view.Tidy := ⟨nofun, nofun, List.Pairwise.nil⟩
  -- the readings before a reading are readings of the history as well
  have hpart : ∀ {bs ds : List Action} {a b : Action} {cs es : List Action}, as = bs ++ a :: cs →
      bs = ds ++ b :: es → as = ds ++ b :: (es ++ a :: cs) := by
    rintro bs ds a b cs es rfl rfl
    rw [List.append_assoc, List.cons_append]
  constructor
  · -- a reading that leaves a tidy session tidy was harmless
    intro h bs disk upto cs has
    have hbefore : (s.run bs).parseState.view.Tidy := tidy_run hs h₀ bs
      fun ds disk' upto' es hbs => .inr (h ds disk' upto' _ (hpart has hbs))
    have htidy := h bs disk upto cs has
    rw [run_concat] at htidy
    exact harmless_of_tidy disk upto (sound_run hs bs) hbefore htidy
  · intro h bs disk upto cs has
    have hbefore : (s.run bs).parseState.view.Tidy := tidy_run hs h₀ bs
      fun ds disk' upto' es hbs => .inl (h ds disk' upto' _ (hpart has hbs))
    rw [run_concat]
    refine tidy_of_view ?_
    rw [view_read disk upto (sound_run hs bs)]
    exact hbefore.advance (h bs disk upto cs has)

/-- A letter is put in right behind a pair.  The next reading begins at the start of this line,
inside the pair, and finds the second rule's message in a line that has one. -/
theorem readings_tidy_differs :
    let s := (ofText { rules := pairRules } none ⟨['/']⟩ [none] {} {} []).run
      [.append "A\nB\nx\n".toList, .read .empty 6, .insert 3 ['B']]
    (s.parseAll .empty).2.parse.messages.map (fun m => (m.rule, m.span))
        = [("pair", ⟨0, 3⟩), ("letter", ⟨2, 3⟩)]
      ∧ ¬ (s.parseAll .empty).2.Tidy := by
  intro s
  refine ⟨by decide +kernel, fun htidy => ?_⟩
  have hapart := htidy.apart
  revert hapart
  decide +kernel

def Action.Streams : Action → Prop
  | .append _ => True
  | .read _ _ => True
  | _ => False

theorem uncut_start (cfg : ScanSettings) (p : Option DirectoryPattern) (workingDir : Path)
    (searchPath : List (Option Path)) (nav : NavigationSettings) (sources : Sources) :
    (ofText cfg p workingDir searchPath nav sources []).parseState.view.Uncut := by
  rw [parseState_ofText]
  exact ⟨rfl, ⟨rfl, rfl, Nat.zero_le _, .inl terminated_nil⟩, terminated_nil, nofun⟩

theorem uncut_act {s : Session} (hs : s.parseState.Sound) (h : s.parseState.view.Uncut) {a : Action}
    (ha : a.Streams) : (s.act a).parseState.view.Uncut := by
  cases a with
  | append t => exact h.append t
  | read disk upto =>
    rw [view_read disk upto hs]
    exact h.advance upto
  | _ => exact ha.elim

theorem uncut_run {s : Session} (hs : s.parseState.Sound) (h : s.parseState.view.Uncut)
    {as : List Action} (has : ∀ a ∈ as, a.Streams) : (s.run as).parseState.view.Uncut := by
  induction as generalizing s with
  | nil => exact h
  | cons a as ih =>
    exact ih (sound_act hs a) (uncut_act hs h (has a List.mem_cons_self))
      fun b hb => has b (List.mem_cons_of_mem a hb)

/-- While a log only grows, each reading leaves one message for each line. -/
theorem readings_tidy_of_streams (cfg : ScanSettings) (p : Option DirectoryPattern)
    (workingDir : Path) (searchPath : List (Option Path)) (nav : NavigationSettings)
    (sources : Sources) {as : List Action} (has : ∀ a ∈ as, a.Streams) :
    let s := ofText cfg p workingDir searchPath nav sources []
    ∀ (bs : List Action) (disk : Disk) (upto : Nat) (cs : List Action),
      as = bs ++ .read disk upto :: cs → (s.run (bs ++ [.read disk upto])).Tidy := by
  intro s
  have hs := sound_start cfg p workingDir searchPath nav sources (.ofText [])
  have h₀ := uncut_start cfg p workingDir searchPath nav sources
  refine (readings_tidy_iff cfg p workingDir searchPath nav sources (.ofText []) as).mpr
    fun bs disk upto cs hsplit => (uncut_run hs h₀ fun b hb => ?_).harmless upto
  exact has b (hsplit ▸ List.mem_append_left _ hb)

end Session

end BuildLog
