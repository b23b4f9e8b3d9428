import BuildLog.Proofs.Letters
import BuildLog.Proofs.Runs
import Mathlib.Data.List.Infix

/-!
# Rereading — what a second reading of the same text changes

A reading leaves the last findings provisional, and the next one reads their text again, also when
it reads no further than the first.  So a second reading changes nothing exactly if it has nothing
to read, or finds the provisional findings once more.
-/

namespace BuildLog

namespace View

/-! ## 1. Two readings -/

theorem readable_eq_nil_of_le {v : View} {m n : Nat} (hmn : m ≤ n) (hn : v.readable n = []) :
    v.readable m = [] := by
  rw [readable_eq_nil_iff] at hn
  by_cases hend : v.atEnd n = true
  · -- the longer reading comes to the end of the log, so the cursor is there
    rw [if_pos hend, Text.length_slice] at hn
    exact readable_of_le (by omega)
  · -- neither reading does, and no newline of the shorter one's text is missing from the longer's
    have hend' : ¬ v.atEnd m = true := by
      unfold atEnd at hend ⊢
      simp only [Bool.and_eq_true, decide_eq_true_eq, not_and] at hend ⊢
      intro hfin
      have := hend hfin
      omega
    rw [if_neg hend] at hn
    rw [readable_eq_nil_iff, if_neg hend']
    have htake : v.text.take (min m v.text.length) <+: v.text.take (min n v.text.length) :=
      List.take_prefix_take_left (by omega)
    obtain ⟨r, hr⟩ : v.text.slice v.cursor (min m v.text.length)
        <+: v.text.slice v.cursor (min n v.text.length) := List.IsPrefix.drop htake v.cursor
    have hle := Text.terminatedLength_le_append (v.text.slice v.cursor (min m v.text.length)) r
    rw [hr] at hle
    omega

/-- What a finding says is settled once the cursor is behind its start: it ends before the cursor
as well. -/
theorem stop_le_of_start_lt {v : View} {text : Text} {n : Nat} {f : Finding}
    (hf : f ∈ v.found text)
    (hlt : f.start < v.cursor + certainLength n text v.cursor (v.found text)) :
    f.span.stop ≤ v.cursor + certainLength n text v.cursor (v.found text) := by
  have hle := le_found_lineEnd v text f.span.stop
  have hwithin : ∀ g ∈ v.found text, v.cursor ≤ g.start ∧ g.start < g.span.stop := fun g hg =>
    ⟨(found_within v text g hg).start_le, (found_within v text g hg).nonempty⟩
  rcases lineEnd_le_or_le_start n hwithin (found_pairwise v text) hf with hend | hstart
  · omega
  · omega

/-! ## 2. After a reading -/

/-- A view after a text was read: its findings come in order about the cursor, and the labels that
reach behind the cursor are those of the findings that begin there. -/
structure Fresh (v : View) : Prop where
  split : v.kept ++ v.provisional = v.findings
  labelled : ∀ f ∈ v.provisional, f.labelledSpan ∈ v.labels
  labels : ∀ l ∈ v.labels, l.span.meets v.cursor v.text.length = true →
    ∃ f ∈ v.provisional, l = f.labelledSpan

section ReadText

variable (v : View) (text : Text) (certain : Bool)

theorem cursor_le_readText : v.cursor ≤ (v.readText text certain).2.cursor := Nat.le_add_right _ _

theorem provisional_readText : (v.readText text certain).2.provisional
    = (v.found text).filter ((v.readText text certain).2.cursor ≤ ·.start) := by
  have hcursor := cursor_le_readText v text certain
  show (v.kept ++ v.found text).filter _ = _
  rw [List.filter_append, List.filter_eq_nil_iff.mpr, List.nil_append]
  intro f hf
  have := (List.mem_filter.mp hf).2
  simp only [decide_eq_true_eq] at this ⊢
  omega

theorem kept_readText : (v.readText text certain).2.kept
    = v.kept ++ (v.found text).filter (·.start < (v.readText text certain).2.cursor) := by
  have hcursor := cursor_le_readText v text certain
  show (v.kept ++ v.found text).filter _ = _
  rw [List.filter_append, List.filter_eq_self.mpr]
  intro f hf
  have := (List.mem_filter.mp hf).2
  simp only [decide_eq_true_eq] at this ⊢
  omega

theorem stop_le_readText {f : Finding} (hf : f ∈ v.found text)
    (hlt : f.start < (v.readText text certain).2.cursor) :
    f.span.stop ≤ (v.readText text certain).2.cursor := by
  revert hlt
  show f.start < v.cursor + (if certain then _ else _) → _ ≤ v.cursor + (if certain then _ else _)
  cases certain with
  | true => exact fun _ => (found_within v text f hf).stop_le
  | false => exact stop_le_of_start_lt hf

theorem fresh_readText : (v.readText text certain).2.Fresh := by
  have hlt := found_pairwise_lt v text
  have hprov := provisional_readText v text certain
  have hcursor := cursor_le_readText v text certain
  refine ⟨?_, fun f hf => ?_, fun l hl hmeets => ?_⟩
  · rw [kept_readText, hprov, List.append_assoc,
      filter_lt_append Finding.start (hlt.imp Nat.le_of_lt)]
    rfl
  · rw [hprov] at hf
    exact mem_labelAll.mpr (.inr (List.mem_map_of_mem (List.mem_filter.mp hf).1))
  · rw [hprov]
    have hlen : (v.readText text certain).2.text.length = v.text.length := rfl
    simp only [Span.meets, Bool.and_eq_true, decide_eq_true_eq] at hmeets
    rcases mem_labelAll.mp hl with hl | hl
    · have hnot := Span.not_meets_iff.mp (List.mem_filter.mp hl).2
      omega
    · -- a finding that reaches behind the new cursor begins there
      obtain ⟨f, hf, rfl⟩ := List.mem_map.mp hl
      refine ⟨f, List.mem_filter.mpr ⟨hf, ?_⟩, rfl⟩
      have hlink := (found_within v text f hf).link.2
      have hreach : f.labelledSpan.span.stop = f.hyperlink.stop := rfl
      by_contra hbefore
      simp only [decide_eq_true_eq, Nat.not_le] at hbefore
      have := stop_le_readText v text certain hf hbefore
      omega

end ReadText

/-- A second reading changes nothing exactly if there is nothing to read, or if what is read has
the provisional findings again. -/
theorem Fresh.reread_iff {v : View} (h : v.Fresh) (n : Nat) :
    ((v.readOn n).1 = 0 ∧ (v.readOn n).2.findings = v.findings
        ∧ ∀ l, l ∈ (v.readOn n).2.labels ↔ l ∈ v.labels)
      ↔ v.readable n = [] ∨ v.found (v.readable n) = v.provisional := by
  unfold readOn
  by_cases hnil : v.readable n = []
  · rw [if_pos hnil]
    exact ⟨fun _ => .inl hnil, fun _ => ⟨rfl, rfl, fun _ => Iff.rfl⟩⟩
  · rw [if_neg hnil]
    have hfindings : (v.readText (v.readable n) (v.atEnd n)).2.findings
        = v.kept ++ v.found (v.readable n) := rfl
    constructor
    · rintro ⟨-, hsame, -⟩
      rw [hfindings, ← h.split] at hsame
      exact .inr (List.append_cancel_left hsame)
    · intro hfound
      have hfound := hfound.resolve_left hnil
      refine ⟨?_, ?_, fun l => ?_⟩
      · show (v.found (v.readable n)).length - v.provisional.length = 0
        rw [hfound, Nat.sub_self]
      · rw [hfindings, hfound, h.split]
      · show l ∈ labelAll (v.found (v.readable n)) (v.clearLabels v.cursor v.text.length) ↔ _
        rw [mem_labelAll, hfound]
        constructor
        · rintro (hl | hl)
          · exact (List.mem_filter.mp hl).1
          · obtain ⟨f, hf, rfl⟩ := List.mem_map.mp hl
            exact h.labelled f hf
        · intro hl
          -- a label that is cleared is one of a provisional finding, and is put in again
          cases hm : l.span.meets v.cursor v.text.length with
          | false => exact .inl (List.mem_filter.mpr ⟨hl, by rw [hm]; rfl⟩)
          | true =>
            obtain ⟨f, hf, rfl⟩ := h.labels l hl hm
            exact .inr (List.mem_map_of_mem hf)

theorem advance_advance_iff (v : View) {m n : Nat} (hmn : m ≤ n) :
    (((v.advance n).2.advance m).1 = 0
        ∧ ((v.advance n).2.advance m).2.findings = (v.advance n).2.findings
        ∧ ∀ l, l ∈ ((v.advance n).2.advance m).2.labels ↔ l ∈ (v.advance n).2.labels)
      ↔ (v.advance n).2.readable m = []
        ∨ (v.advance n).2.found ((v.advance n).2.readable m) = (v.advance n).2.provisional := by
  rw [(ready_advance n v).advance]
  unfold advance
  by_cases hnil : v.settle.snap.readable n = []
  · -- nothing was read, so nothing is read again
    have hread : (v.settle.snap.readOn n).2 = v.settle.snap := by
      rw [readOn, if_pos hnil]
    have hnil' : v.settle.snap.readable m = [] := readable_eq_nil_of_le hmn hnil
    rw [hread, readOn, if_pos hnil']
    exact ⟨fun _ => .inl hnil', fun _ => ⟨rfl, rfl, fun _ => Iff.rfl⟩⟩
  · have hread : (v.settle.snap.readOn n).2
        = (v.settle.snap.readText (v.settle.snap.readable n) (v.settle.snap.atEnd n)).2 := by
      rw [readOn, if_neg hnil]
    rw [hread]
    exact (fresh_readText _ _ _).reread_iff m

end View

/-! ## 3. States -/

namespace Parse

/-- A second reading that goes no further than the first, in any state of a run.  It adds nothing
and leaves the messages and the set of labels alone exactly if it has nothing to read, or if the
text from the cursor to its end has just the messages that the first reading left provisional. -/
theorem second_reading_iff {s : State} (hs : s.Reachable) {first second : Nat}
    (hle : second ≤ first) (disk disk' : Disk) :
    ((advance disk' second (advance disk first s).2).1 = 0
        ∧ (advance disk' second (advance disk first s).2).2.parse.messages.map Message.finding
          = (advance disk first s).2.parse.messages.map Message.finding
        ∧ ∀ l, l ∈ (advance disk' second (advance disk first s).2).2.log.labels.spans
          ↔ l ∈ (advance disk first s).2.log.labels.spans)
      ↔ (advance disk first s).2.view.readable second = []
        ∨ (advance disk first s).2.view.found ((advance disk first s).2.view.readable second)
          = (advance disk first s).2.view.provisional := by
  obtain ⟨-, hview, hsound⟩ := view_advance hs.proper.sound disk first
  obtain ⟨hcount, hview', -⟩ := view_advance hsound disk' second
  have hiff := View.advance_advance_iff s.view hle
  rw [← hview, ← hcount, ← hview'] at hiff
  exact hiff

/-- Reading a line of two that were read changes nothing. -/
theorem second_reading_capitals :
    let s := (State.start .capitals (some .slash) ⟨['/']⟩ [none] (.ofText "A\n/B\n".toList)).run []
    (s.Reachable ∧ 2 ≤ 5)
      ∧ (advance .empty 2 (advance .empty 5 s).2).1 = 0
      ∧ (advance .empty 2 (advance .empty 5 s).2).2.parse.messages.map Message.finding
        = (advance .empty 5 s).2.parse.messages.map Message.finding
      ∧ ∀ l, l ∈ (advance .empty 2 (advance .empty 5 s).2).2.log.labels.spans
        ↔ l ∈ (advance .empty 5 s).2.log.labels.spans := by
  intro s
  have hs : s.Reachable := State.reachable_run _ _ _ _ _ _
  exact ⟨⟨hs, by decide⟩,
    (second_reading_iff hs (by decide) .empty .empty).mpr (by decide +kernel)⟩

/-- A rule for three lines, maybe with one more, and one for each of their letters. -/
def blockRules : RuleSet :=
  let letter (c : Char) : Pattern.Expr := .one (.singleton c)
  let line (c : Char) : Pattern.Expr := .cat (letter c) (letter '\n')
  ⟨[.ofExpr "block" (.cat (line 'A') (.cat (line 'B') (.cat (letter 'C')
      (.times (.cat (letter '\n') (letter 'D')) 0 (some 1) true)))) 4,
    .ofSet "letter" (.ofRange 65 67)]⟩

/-- The first reading finds three lines that belong together.  The second stops before the last of
them, and finds a message in each of the other two instead. -/
theorem second_reading_differs :
    let s := (State.start { rules := blockRules } none ⟨['/']⟩ [none]
      (.ofText "A\nB\nC\n".toList)).run []
    (advance .empty 4 (advance .empty 6 s).2).1 = 1
      ∧ (advance .empty 6 s).2.parse.messages.map (fun m => (m.rule, m.span))
        = [("block", ⟨0, 5⟩)]
      ∧ (advance .empty 4 (advance .empty 6 s).2).2.parse.messages.map (fun m => (m.rule, m.span))
        = [("letter", ⟨0, 1⟩), ("letter", ⟨2, 3⟩)] := by
  decide +kernel

end Parse

end BuildLog
