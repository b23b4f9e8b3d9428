import BuildLog.Proofs.Cuts
import BuildLog.Proofs.Rereading

/-!
# Holding — where a reading of a log stops that may still grow

Such a reading takes the complete lines from the cursor on.  Then the cursor is held in front of the
last of them, or behind the line of a message that begins before these, and so no message of what was
read lies across it.  This needs nothing of the state before, not even that its file table is sound.
-/

namespace BuildLog

open Text

/-! ## 1. The messages of a text -/

section Scan

variable {cfg : ScanSettings} {disk : Disk} {text : Text} {input : Array Char} {base : Nat}
  {previous : Option Inherited} {s : ScanState}

theorem Candidate.span_of_mem_all {rules : RuleSet} {c : Candidate}
    (hc : c ∈ all rules text.toArray) :
    c.start < c.found.span.stop ∧ c.found.span.stop ≤ text.length := by
  have hmem : c.hit text.toArray 0 ∈ rules.hits text 0 := by
    rw [← map_all]
    exact List.mem_map_of_mem hc
  have hw := rules.within_of_mem_hits text 0 hmem
  have hnonempty : c.start + 0 < c.found.span.stop + 0 := hw.nonempty
  have hstop : c.found.span.stop + 0 ≤ 0 + text.length := hw.found.stop_le
  omega

/-- Messages have the spans of candidates, and begin where the text claimed before ends or later. -/
theorem span_of_mem_scanCandidates {claimed : Nat} {cs : List Candidate}
    (hcs : ∀ c ∈ cs, c.start < c.found.span.stop) {m : Message}
    (hm : m ∈ (scanCandidates cfg disk text input base claimed previous s cs).1) :
    base + claimed ≤ m.start ∧ ∃ c ∈ cs, m.span = c.found.span.shift base := by
  induction cs generalizing claimed previous s with
  | nil => cases hm
  | cons c cs ih =>
    have hrest : ∀ d ∈ cs, d.start < d.found.span.stop := fun d hd =>
      hcs d (List.mem_cons_of_mem c hd)
    rw [scanCandidates] at hm
    split at hm
    · obtain ⟨hle, d, hd, hspan⟩ := ih hrest hm
      exact ⟨hle, d, List.mem_cons_of_mem c hd, hspan⟩
    · rename_i hclaimed
      split at hm
      · obtain ⟨hle, d, hd, hspan⟩ := ih hrest hm
        exact ⟨hle, d, List.mem_cons_of_mem c hd, hspan⟩
      · rename_i m' u hmessage
        rcases List.mem_cons.mp hm with rfl | hm
        · have hspan := (Candidate.spans_of_message? hmessage).1
          have hstart : m.start = c.start + base := congrArg Span.start hspan
          exact ⟨by omega, c, List.mem_cons_self, hspan⟩
        · -- the line that is claimed now ends behind the candidate
          obtain ⟨hle, d, hd, hspan⟩ := ih hrest hm
          have hnonempty := hcs c List.mem_cons_self
          have hend := le_lineEndAfter text c.found.span.stop
          exact ⟨by omega, d, List.mem_cons_of_mem c hd, hspan⟩

theorem scanCandidates_apart {claimed : Nat} {cs : List Candidate}
    (hcs : ∀ c ∈ cs, c.start < c.found.span.stop) :
    (scanCandidates cfg disk text input base claimed previous s cs).1.Pairwise
      fun m k => base + text.lineEndAfter (m.span.stop - base) ≤ k.start := by
  induction cs generalizing claimed previous s with
  | nil => exact .nil
  | cons c cs ih =>
    have hrest : ∀ d ∈ cs, d.start < d.found.span.stop := fun d hd =>
      hcs d (List.mem_cons_of_mem c hd)
    rw [scanCandidates]
    split
    · exact ih hrest
    · split
      · exact ih hrest
      · rename_i m u hmessage
        refine .cons (fun k hk => ?_) (ih hrest)
        have hle := (span_of_mem_scanCandidates hrest hk).1
        rw [(Candidate.spans_of_message? hmessage).1]
        show base + text.lineEndAfter (c.found.span.stop + base - base) ≤ k.start
        rwa [Nat.add_sub_cancel]

/-- The messages of a text lie in it, whatever the files are that they refer to. -/
theorem span_of_mem_scan {m : Message} (hm : m ∈ (scan cfg disk text base previous s).1) :
    base ≤ m.start ∧ m.start < m.span.stop ∧ m.span.stop ≤ base + text.length := by
  obtain ⟨hle, c, hc, hspan⟩ := span_of_mem_scanCandidates
    (fun c hc => (Candidate.span_of_mem_all hc).1) hm
  obtain ⟨hnonempty, hstop⟩ := Candidate.span_of_mem_all hc
  have hstart : m.start = c.start + base := congrArg Span.start hspan
  have hend : m.span.stop = c.found.span.stop + base := congrArg Span.stop hspan
  omega

theorem scan_apart : (scan cfg disk text base previous s).1.Pairwise
    fun m k => base + text.lineEndAfter (m.span.stop - base) ≤ k.start :=
  scanCandidates_apart fun _ hc => (Candidate.span_of_mem_all hc).1

end Scan

/-! ## 2. Complete lines -/

namespace Parse

/-- How many further lines a match may have, behind the one that it begins in. -/
def State.heldLines (u : State) : Nat := u.parse.settings.rules.maxLines - 1

/-- What is left by a reading of complete lines `t` at the cursor of `u`. -/
structure State.Holds (u : State) (t : Text) (v : State) : Prop where
  /-- The lines are those of the log at the cursor, which are not changed. -/
  lines : ∃ front back, u.log.text = front ++ (t ++ back) ∧ front.length = u.parse.cursor
  text : v.log.text = u.log.text
  nonempty : t ≠ []
  newline : t.getLast? = some '\n'
  /-- The last lines begin at a byte that is found by cuts where characters begin. -/
  tailByte : t.tailByte? u.heldLines = some (t.byteIndex (t.tailStart u.heldLines))
  tailLine : t.tailStart u.heldLines = 0 ∨ t[t.tailStart u.heldLines - 1]? = some '\n'
  /-- The last lines are as many as further lines of a match, or all that there are. -/
  tailCount : (t.drop (t.tailStart u.heldLines)).count '\n' = min u.heldLines (t.count '\n')
  tailZero : t.count '\n' ≤ u.heldLines → t.tailStart u.heldLines = 0
  /-- The cursor is where the bytes of the lines and of the new messages say. -/
  held : (Excerpt.mk t u.parse.cursor).certainOffset? u.parse.settings.rules.maxLines
    (v.parse.messages.filter (u.parse.cursor ≤ ·.start)) = some v.parse.cursor
  le_cursor : u.parse.cursor ≤ v.parse.cursor
  cursor_le : v.parse.cursor ≤ u.parse.cursor + t.length
  lineStart : v.parse.cursor = 0 ∨ v.log.text[v.parse.cursor - 1]? = some '\n'
  /-- The new messages lie in the lines, and none of them lies across the cursor. -/
  messages : ∀ m ∈ v.parse.messages, u.parse.cursor ≤ m.start →
    m.span.stop ≤ u.parse.cursor + t.length
      ∧ (v.log.text.lineEndAfter m.span.stop ≤ v.parse.cursor ∨ v.parse.cursor ≤ m.start)

/-- The messages of a text at the cursor. -/
def State.messagesIn (u : State) (disk : Disk) (t : Text) : List Message :=
  (scan u.parse.settings disk t u.parse.cursor
    ((u.parse.messages.filter (·.start < u.parse.cursor)).getLast?.map .ofMessage) (u.scanState t)).1

section ReadText

variable {u : State} {t : Text} (disk : Disk)

theorem parse_messages_readText (certain : Bool) : (readText disk t certain u).2.parse.messages
    = u.parse.messages.filter (·.start < u.parse.cursor) ++ u.messagesIn disk t := rfl

theorem cursor_readText : (readText disk t false u).2.parse.cursor = u.parse.cursor
    + certainLength u.parse.settings.rules.maxLines t u.parse.cursor (u.messagesIn disk t) := rfl

/-- The messages that a reading leaves from the old cursor on are those that it finds. -/
theorem filter_messages_readText (certain : Bool) :
    (readText disk t certain u).2.parse.messages.filter (u.parse.cursor ≤ ·.start)
      = u.messagesIn disk t := by
  rw [parse_messages_readText]
  refine filter_append_right (fun m hm => ?_) fun m hm => decide_eq_true (span_of_mem_scan hm).1
  have hlt := (List.mem_filter.mp hm).2
  simp only [decide_eq_true_eq] at hlt
  exact decide_eq_false (by omega)

theorem messagesIn_lineEnd_le_or_le_start {m : Message} (hm : m ∈ u.messagesIn disk t) :
    u.parse.cursor + t.lineEndAfter (m.span.stop - u.parse.cursor)
        ≤ (readText disk t false u).2.parse.cursor
      ∨ (readText disk t false u).2.parse.cursor ≤ m.start := by
  have hspans : ∀ f ∈ (u.messagesIn disk t).map Message.finding,
      u.parse.cursor ≤ f.start ∧ f.start < f.span.stop := by
    intro f hf
    obtain ⟨k, hk, rfl⟩ := List.mem_map.mp hf
    exact ⟨(span_of_mem_scan hk).1, (span_of_mem_scan hk).2.1⟩
  have hpair : ((u.messagesIn disk t).map Message.finding).Pairwise fun f g =>
      u.parse.cursor + t.lineEndAfter (f.span.stop - u.parse.cursor) ≤ g.start :=
    List.pairwise_map.mpr scan_apart
  have h := View.lineEnd_le_or_le_start u.parse.settings.rules.maxLines hspans hpair
    (List.mem_map_of_mem hm)
  rw [cursor_readText, certainLength_eq]
  rw [Message.span_finding, Message.start_finding] at h
  omega

theorem text_readText (certain : Bool) : (readText disk t certain u).2.log.text = u.log.text :=
  text_labels _ _

variable {front back : Text} (hlog : u.log.text = front ++ (t ++ back))
  (hcursor : front.length = u.parse.cursor) (hfront : front.Terminated) (hne : t ≠ [])
  (ht : t.Terminated)
include hlog hcursor hfront hne ht

theorem holds_readText : u.Holds t (readText disk t false u).2 := by
  have hstop : ∀ m ∈ u.messagesIn disk t, m.span.stop ≤ u.parse.cursor + t.length := fun m hm =>
    (span_of_mem_scan hm).2.2
  have hlength : certainLength u.parse.settings.rules.maxLines t u.parse.cursor
      (u.messagesIn disk t) ≤ t.length := by
    rw [certainLength_eq]
    refine View.certainLength_le_length _ fun f hf => ?_
    obtain ⟨m, hm, rfl⟩ := List.mem_map.mp hf
    exact hstop m hm
  have hcertain : Terminated (t.take (certainLength u.parse.settings.rules.maxLines t
      u.parse.cursor (u.messagesIn disk t))) := by
    rw [certainLength_eq]
    exact View.terminated_take_certainLength ht _ _ _
  have htail := tailStart_le t u.heldLines
  have hend : (readText disk t false u).2.parse.cursor ≤ u.log.text.length := by
    rw [cursor_readText, hlog, List.length_append, List.length_append]
    omega
  refine
    { lines := ⟨front, back, hlog, hcursor⟩
      text := text_readText disk false
      nonempty := hne
      newline := (terminated_iff.mp ht).resolve_left hne
      tailByte := tailByte?_eq ht _
      tailLine := (terminated_take_iff htail).mp (terminated_take_tailStart ht _)
      tailCount := count_drop_tailStart ht _
      tailZero := tailStart_eq_zero ht
      held := ?held
      le_cursor := Nat.le_add_right _ _
      cursor_le := Nat.add_le_add_left hlength _
      lineStart := ?lineStart
      messages := ?messages }
  case held =>
    rw [filter_messages_readText]
    exact Excerpt.certainOffset?_eq (e := ⟨t, u.parse.cursor⟩) ht _ hstop
  case lineStart =>
    -- the lines in front of the cursor are those in front of the reading, and those that are certain
    rw [text_readText, ← terminated_take_iff hend, cursor_readText, hlog, ← hcursor,
      List.take_length_add_append, List.take_append_of_le_length (by rwa [hcursor])]
    rw [hcursor]
    exact hfront.append hcertain
  case messages =>
    intro m hm hstart
    have hmem : m ∈ u.messagesIn disk t := by
      rw [← filter_messages_readText disk false]
      exact List.mem_filter.mpr ⟨hm, decide_eq_true hstart⟩
    obtain ⟨-, hnonempty, hle⟩ := span_of_mem_scan hmem
    -- the line of the match ends in the lines that are read
    have hlineEnd : u.log.text.lineEndAfter m.span.stop
        = u.parse.cursor + t.lineEndAfter (m.span.stop - u.parse.cursor) := by
      have hleft := lineEndAfter_append_left hfront (t ++ back) (m.span.stop - u.parse.cursor)
      rwa [← hlog, hcursor, lineEndAfter_append_right ht back (by omega),
        Nat.add_sub_of_le (by omega)] at hleft
    refine ⟨hle, ?_⟩
    rw [text_readText, hlineEnd]
    exact messagesIn_lineEnd_le_or_le_start disk hmem

end ReadText

/-! ## 3. Readings -/

/-- The text up to an offset that a reading has not come to yet. -/
def State.ahead (u : State) (upto : Nat) : Text := u.log.text.slice u.parse.cursor upto

section Advance

variable {s u : State} {upto : Nat}

theorem atEnd_snap_settle (h : s.parse.finished = false ∨ upto < s.log.length) :
    (snap (settle s)).view.atEnd upto = false := by
  rw [view_snap, view_settle, View.atEnd, (View.sameSetting_snap s.view.settle).finished,
    View.text_snap]
  show (s.parse.finished && decide (min upto s.log.text.length = s.log.text.length)) = false
  rcases h with h | h
  · rw [h, Bool.false_and]
  · have hlt : upto < s.log.text.length := h
    rw [Bool.and_eq_false_iff, decide_eq_false_iff_not]
    exact .inr (by omega)

/-- While more may come, what is read are the complete lines ahead. -/
theorem readable_of_atEnd_eq_false (h : u.view.atEnd upto = false) :
    u.view.readable upto = (u.ahead upto).take (u.ahead upto).terminatedLength := by
  have hahead : u.view.text.slice u.view.cursor (min upto u.view.text.length) = u.ahead upto := by
    show (u.log.text.take (min upto u.log.text.length)).drop u.parse.cursor = _
    rw [← List.take_take, List.take_length]
    rfl
  unfold View.readable
  rw [h, hahead]
  rfl

/-- A newline ahead is that of a complete line, which begins where the cursor is. -/
theorem exists_log_eq (hu : u.view.Ready) (hmem : '\n' ∈ u.ahead upto) :
    ∃ front back, u.log.text
        = front ++ ((u.ahead upto).take (u.ahead upto).terminatedLength ++ back)
      ∧ front.length = u.parse.cursor ∧ front.Terminated
      ∧ (u.ahead upto).take (u.ahead upto).terminatedLength ≠ [] := by
  have hne : (u.ahead upto).take (u.ahead upto).terminatedLength ≠ [] := by
    rw [Ne, List.take_eq_nil_iff, not_or]
    exact ⟨fun hzero => terminatedLength_eq_zero_iff.mp hzero hmem, List.ne_nil_of_mem hmem⟩
  -- what is ahead begins the rest of the log, and is begun by its complete lines
  obtain ⟨back, hback⟩ : (u.ahead upto).take (u.ahead upto).terminatedLength
      <+: u.log.text.drop u.parse.cursor :=
    (List.take_prefix _ _).trans (List.IsPrefix.drop (List.take_prefix upto _) u.parse.cursor)
  have hlt : u.parse.cursor < u.log.text.length := by
    by_contra hge
    have hnil : u.log.text.drop u.parse.cursor = [] := List.drop_eq_nil_of_le (by omega)
    rw [hnil] at hback
    exact hne (List.append_eq_nil_iff.mp hback).1
  refine ⟨u.log.text.take u.parse.cursor, back, ?_, ?_,
    hu.lineStart.resolve_right (Nat.ne_of_lt hlt), hne⟩
  · rw [hback, List.take_append_drop]
  · rw [List.length_take, Nat.min_eq_left (Nat.le_of_lt hlt)]

end Advance

/-- A reading while the tool runs, or up to an offset before the end of the log, in any state.
Without a newline ahead it reads nothing.  Otherwise it reads the lines up to the last newline, and
the cursor is held at the start of a line, found in bytes where characters begin, that no message of
these lines lies across. -/
theorem advance_holds {s : State} {upto : Nat}
    (h : s.parse.finished = false ∨ upto < s.log.length) (disk : Disk) :
    let u := snap (settle s)
    ('\n' ∉ u.ahead upto → advance disk upto s = (0, u))
      ∧ ('\n' ∈ u.ahead upto → ∃ t rest, u.ahead upto = t ++ rest ∧ '\n' ∉ rest
        ∧ advance disk upto s = readText disk t false u ∧ u.Holds t (advance disk upto s).2) := by
  intro u
  have hready : u.view.Ready := by
    rw [view_snap, view_settle]
    exact View.ready_settle_snap s.view
  have hat : u.view.atEnd upto = false := atEnd_snap_settle h
  have hadvance := advance_eq disk upto s
  rw [hat, readable_of_atEnd_eq_false hat] at hadvance
  constructor
  · intro hnone
    rw [hadvance, terminatedLength_eq_zero_iff.mpr hnone, List.take_zero, if_pos rfl]
  · intro hmem
    obtain ⟨front, back, hlog, hcursor, hfront, hne⟩ := exists_log_eq hready hmem
    rw [if_neg hne] at hadvance
    refine ⟨_, (u.ahead upto).drop (u.ahead upto).terminatedLength,
      (List.take_append_drop _ _).symm, newline_not_mem_drop_terminatedLength _, hadvance, ?_⟩
    rw [hadvance]
    exact holds_readText disk hlog hcursor hfront hne (terminated_take_terminatedLength _)

/-- Five lines are read.  A message begins before the last three of them and ends among these, and the
cursor is held behind its line. -/
theorem advance_holds_block :
    let s := (State.start { rules := blockRules } none ⟨['/']⟩ [none]
      (.ofText "ü\nA\nB\nC\nö\nopen".toList)).run []
    let v := (advance .empty 14 s).2
    s.parse.finished = false
      ∧ v.parse.cursor = 8
      ∧ v.parse.messages.map (fun m => (m.rule, m.span)) = [("block", ⟨2, 7⟩)]
      ∧ tailByte? "ü\nA\nB\nC\nö\n".toList 3 = some 5
      ∧ ∃ t rest, (snap (settle s)).ahead 14 = t ++ rest ∧ '\n' ∉ rest
        ∧ advance .empty 14 s = readText .empty t false (snap (settle s))
        ∧ (snap (settle s)).Holds t v := by
  intro s v
  have hrunning : s.parse.finished = false := by decide +kernel
  exact ⟨hrunning, by decide +kernel, by decide +kernel, by decide +kernel,
    (advance_holds (.inl hrunning) .empty).2 (by decide +kernel)⟩

end Parse

end BuildLog
