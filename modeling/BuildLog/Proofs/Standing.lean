import BuildLog.Proofs.Flushing
import BuildLog.Proofs.Rereading

/-!
# Standing labels — one for the link of each finding

A label stands until it is cleared.  Labels are cleared from the place that an edit or a reading
goes back to, and findings are dropped that begin from there on.  This comes to the same unless the
link of a finding lies behind the place in which the finding begins before it.
-/

namespace BuildLog

open Text LabelIndex

/-! ## 1. Lists of labels -/

section Lists

variable {α β : Type} {l : List α}

/-- Two filters, one of which keeps less, leave the same up to order just if they keep the same. -/
theorem perm_map_filter_iff {p q : α → Bool} (f : α → β) (h : ∀ x ∈ l, q x = true → p x = true) :
    ((l.filter q).map f).Perm ((l.filter p).map f) ↔ ∀ x ∈ l, p x = true → q x = true := by
  have hq : l.filter q = (l.filter p).filter q := (filter_filter_of_imp h).symm
  constructor
  · -- the shorter list is a part of the longer one, so equal lengths make them the same
    intro hperm
    have hlen := hperm.length_eq
    rw [List.length_map, List.length_map, hq, List.length_filter_eq_length_iff] at hlen
    exact fun x hx hp => hlen x (List.mem_filter.mpr ⟨hx, hp⟩)
  · intro hall
    rw [List.filter_congr fun x hx => Bool.eq_iff_iff.mpr ⟨h x hx, hall x hx⟩]

/-- A change that leaves what passes a filter alone, and makes nothing else pass. -/
theorem filter_filterMap {p : α → Bool} {f : α → Option α} (hsame : ∀ x ∈ l, p x = true → f x = some x)
    (hout : ∀ x ∈ l, p x = false → ∀ y, f x = some y → p y = false) :
    (l.filterMap f).filter p = l.filter p := by
  induction l with
  | nil => rfl
  | cons x l ih =>
    have hrest := ih (fun y hy => hsame y (List.mem_cons_of_mem x hy))
      fun y hy => hout y (List.mem_cons_of_mem x hy)
    rw [List.filterMap_cons]
    cases hp : p x with
    | true =>
      rw [hsame x List.mem_cons_self hp]
      dsimp only
      rw [List.filter_cons_of_pos hp, hrest, List.filter_cons_of_pos hp]
    | false =>
      rw [List.filter_cons_of_neg (by simp [hp])]
      cases hf : f x with
      | none => exact hrest
      | some y =>
        have hy := hout x List.mem_cons_self hp y hf
        dsimp only
        rw [List.filter_cons_of_neg (by simp [hy]), hrest]

end Lists

theorem perm_insertSorted (s : LabelledSpan) (ls : List LabelledSpan) :
    (insertSorted s ls).Perm (s :: ls) := by
  induction ls with
  | nil => exact List.Perm.refl _
  | cons t ls ih =>
    rw [insertSorted]
    split
    · exact (ih.cons t).trans (List.Perm.swap s t ls)
    · exact List.Perm.refl _

theorem perm_foldInsert (ls acc : List LabelledSpan) :
    (ls.foldl (fun acc s => insertSorted s acc) acc).Perm (acc ++ ls) := by
  induction ls generalizing acc with
  | nil => rw [List.append_nil]; exact List.Perm.refl _
  | cons s ls ih =>
    have hinsert : (insertSorted s acc ++ ls).Perm (s :: acc ++ ls) :=
      (perm_insertSorted s acc).append_right ls
    exact (ih _).trans (hinsert.trans List.perm_middle.symm)

theorem perm_labelsAfterDeletion (start stop : Nat) (ls : List LabelledSpan) :
    (labelsAfterDeletion start stop ls).Perm (ls.filterMap fun l =>
      (spanAfterDeletion start stop l.span).map fun p => { l with span := p }) :=
  perm_foldInsert _ []

namespace View

theorem perm_labelAll (fs : List Finding) (ls : List LabelledSpan) :
    (labelAll fs ls).Perm (ls ++ fs.map Finding.labelledSpan) := by
  rw [labelAll_eq]
  exact perm_foldInsert _ ls

/-! ## 2. Mirrored views -/

/-- The labels that are not to be cleared. -/
def standing (v : View) : List LabelledSpan :=
  v.labels.filter fun l => v.pendingClear.all (l.span.stop ≤ ·)

/-- The findings that begin before an offset have their links before it as well. -/
def Clean (k : Nat) (v : View) : Prop := ∀ f ∈ v.findings, f.start < k → f.hyperlink.stop ≤ k

/-- The labels that stand are those of the findings. -/
structure Mirrored (v : View) : Prop where
  nonempty : LabelsNonempty v.labels
  within : LabelsWithin v.text.length v.labels
  /-- No label is about the place that labels are to be cleared from. -/
  apart : ∀ p, v.pendingClear = some p → ∀ l ∈ v.labels, l.span.start < p → l.span.stop ≤ p
  cursor_le : v.cursor ≤ v.text.length
  clean : v.Clean v.cursor
  lineStart : Terminated (v.text.take v.cursor) ∨ ∀ f ∈ v.findings, f.hyperlink.stop ≤ v.cursor
  le_link : ∀ f ∈ v.findings, f.start ≤ f.hyperlink.start
  standing : v.standing.Perm (v.findings.map Finding.labelledSpan)

variable {v w : View}

theorem standing_of_none (h : v.pendingClear = none) : v.standing = v.labels := by
  unfold View.standing
  rw [h]
  exact List.filter_eq_self.mpr fun _ _ => rfl

theorem mem_standing {l : LabelledSpan} :
    l ∈ v.standing ↔ l ∈ v.labels ∧ ∀ p, v.pendingClear = some p → l.span.stop ≤ p := by
  unfold View.standing
  rw [List.mem_filter]
  cases v.pendingClear with
  | none => simp
  | some p => simp

namespace Mirrored

variable (h : v.Mirrored)
include h

theorem mem_labels {f : Finding} (hf : f ∈ v.findings) : f.labelledSpan ∈ v.standing :=
  h.standing.mem_iff.mpr (List.mem_map_of_mem hf)

theorem link_nonempty : ∀ f ∈ v.findings, f.hyperlink.start < f.hyperlink.stop :=
  fun _ hf => h.nonempty _ (mem_standing.mp (h.mem_labels hf)).1

theorem link_le_length : ∀ f ∈ v.findings, f.hyperlink.stop ≤ v.text.length :=
  fun _ hf => h.within _ (mem_standing.mp (h.mem_labels hf)).1

theorem start_lt_of_link_le {f : Finding} (hf : f ∈ v.findings) {k : Nat}
    (hk : f.hyperlink.stop ≤ k) : f.start < k := by
  have := h.le_link f hf
  have := h.link_nonempty f hf
  omega

/-- Labels that reach beyond a place, and findings that begin behind it, are the same just if no
link was cut off from its finding. -/
theorem perm_cut_iff (k : Nat) :
    (v.standing.filter (·.span.stop ≤ k)).Perm
        ((v.findings.filter (·.start < k)).map Finding.labelledSpan) ↔ v.Clean k := by
  have hstop : (v.standing.filter (·.span.stop ≤ k)).Perm
      ((v.findings.filter (·.hyperlink.stop ≤ k)).map Finding.labelledSpan) := by
    have hperm := h.standing.filter (·.span.stop ≤ k)
    rw [List.filter_map] at hperm
    exact hperm
  have hiff := perm_map_filter_iff Finding.labelledSpan (l := v.findings)
    (p := fun f => decide (f.start < k)) (q := fun f => decide (f.hyperlink.stop ≤ k))
    fun f hf hle => decide_eq_true (h.start_lt_of_link_le hf (of_decide_eq_true hle))
  constructor
  · intro hperm f hf hlt
    exact of_decide_eq_true (hiff.mp (hstop.symm.trans hperm) f hf (decide_eq_true hlt))
  · intro hclean
    exact hstop.trans (hiff.mpr fun f hf hlt =>
      decide_eq_true (hclean f hf (of_decide_eq_true hlt)))

end Mirrored

/-! ## 3. Flushes and edits -/

namespace Mirrored

/-- All can be dropped from a place on that cuts no link off. -/
theorem dropFrom (h : v.Mirrored) {d q : Nat} (hclean : v.Clean d) (r : Bool)
    (hq : ∀ x, x ≤ q ↔ x ≤ d ∧ ∀ p, v.pendingClear = some p → x ≤ p) : Mirrored
      { v.dropFrom d with cursor := min d v.cursor, rewound := r, pendingClear := some q } := by
  have hkept : ∀ f ∈ v.findings.filter (·.start < d), f ∈ v.findings ∧ f.hyperlink.stop ≤ d := by
    intro f hf
    obtain ⟨hf, hlt⟩ := List.mem_filter.mp hf
    exact ⟨hf, hclean f hf (of_decide_eq_true hlt)⟩
  have hstanding : v.labels.filter (fun l => (some q).all (l.span.stop ≤ ·))
      = v.standing.filter (·.span.stop ≤ d) := by
    unfold View.standing
    rw [List.filter_filter]
    apply List.filter_congr
    intro l _
    have hl := hq l.span.stop
    rw [Bool.eq_iff_iff]
    cases hp : v.pendingClear with
    | none => simpa [hp] using hl
    | some p => simpa [hp] using hl
  refine ⟨h.nonempty, h.within, ?_, Nat.le_trans (Nat.min_le_right _ _) h.cursor_le, ?_, ?_,
    fun f hf => h.le_link f (hkept f hf).1, ?_⟩
  · -- a label about the place would be one that stands, and so that of a finding
    rintro p ⟨⟩ l hl hlt
    have hlq := (hq (l.span.start + 1)).mp hlt
    have hstands : l ∈ v.standing :=
      mem_standing.mpr ⟨hl, fun p hp => h.apart p hp l hl (hlq.2 p hp)⟩
    obtain ⟨f, hf, rfl⟩ := List.mem_map.mp (h.standing.mem_iff.mp hstands)
    have hstart : f.start < d := Nat.lt_of_le_of_lt (h.le_link f hf) hlq.1
    exact (hq _).mpr ⟨hclean f hf hstart, (mem_standing.mp hstands).2⟩
  · -- before the new cursor, a finding is before the old one and before the place
    intro f hf hlt
    have hlt' : f.start < min d v.cursor := hlt
    have hfc := h.clean f (hkept f hf).1 (by omega)
    exact Nat.le_min.mpr ⟨(hkept f hf).2, hfc⟩
  · show Terminated (v.text.take (min d v.cursor)) ∨ _
    rcases Nat.le_total d v.cursor with hdc | hdc
    · rw [Nat.min_eq_left hdc]
      exact .inr fun f hf => (hkept f hf).2
    · rw [Nat.min_eq_right hdc]
      exact h.lineStart.imp id fun hall f hf => hall f (hkept f hf).1
  · have hcut := (h.perm_cut_iff d).mpr hclean
    rw [← hstanding] at hcut
    exact hcut

theorem flushFrom (h : v.Mirrored) {offset : Nat}
    (hclean : v.Clean (doubtfulFrom offset v.findings.reverse)) :
    (v.flushFrom offset).Mirrored ∧ (v.flushFrom offset).cursor ≤ offset
      ∧ ∀ f ∈ (v.flushFrom offset).findings, f.hyperlink.stop ≤ offset := by
  have hle := doubtfulFrom_le offset v.findings.reverse
  generalize hd : doubtfulFrom offset v.findings.reverse = d at hclean hle
  rcases flushFrom_cases v offset hd with ⟨hsame, hcursor, hbefore⟩ | ⟨r, q, hflush, hq⟩
  · rw [hsame]
    exact ⟨h, by omega, fun f hf => Nat.le_trans (hclean f hf (hbefore f hf)) hle⟩
  · rw [hflush]
    refine ⟨h.dropFrom hclean r hq, Nat.le_trans (Nat.min_le_left _ _) hle, fun f hf => ?_⟩
    obtain ⟨hf, hlt⟩ := List.mem_filter.mp hf
    exact Nat.le_trans (hclean f hf (of_decide_eq_true hlt)) hle

/-- An edit of the text that leaves the labels that stand, and brings none back that does not. -/
theorem change (h : v.Mirrored) {text : Text} {labels : List LabelledSpan}
    {move : LabelledSpan → Option LabelledSpan} (hperm : labels.Perm (v.labels.filterMap move))
    (hsame : ∀ l ∈ v.standing, move l = some l)
    (hstale : ∀ p, v.pendingClear = some p → ∀ l ∈ v.labels, p ≤ l.span.start →
      ∀ m, move l = some m → p ≤ m.span.start)
    (hnonempty : LabelsNonempty labels) (hwithin : LabelsWithin text.length labels)
    (htext : text.take v.cursor = v.text.take v.cursor) (hcursor : v.cursor ≤ text.length) :
    Mirrored { v with text, labels } := by
  -- labels that do not stand are from the place on that labels are to be cleared from
  have hbehind : ∀ l ∈ v.labels, l ∉ v.standing →
      ∃ p, v.pendingClear = some p ∧ p < l.span.stop ∧ p ≤ l.span.start := by
    intro l hl hout
    rw [mem_standing] at hout
    push Not at hout
    obtain ⟨p, hp, hlt⟩ := hout hl
    refine ⟨p, hp, hlt, ?_⟩
    by_contra hstart
    have := h.apart p hp l hl (by omega)
    omega
  have hmoved : ∀ m ∈ labels, m ∈ v.standing ∨ ∃ p, v.pendingClear = some p ∧ p ≤ m.span.start := by
    intro m hm
    obtain ⟨l, hl, hlm⟩ := List.mem_filterMap.mp (hperm.mem_iff.mp hm)
    by_cases hstands : l ∈ v.standing
    · rw [hsame l hstands] at hlm
      exact .inl (Option.some.inj hlm ▸ hstands)
    · obtain ⟨p, hp, -, hle⟩ := hbehind l hl hstands
      exact .inr ⟨p, hp, hstale p hp l hl hle m hlm⟩
  refine ⟨hnonempty, hwithin, fun p hp m hm hlt => ?_, hcursor, h.clean, ?_, h.le_link, ?_⟩
  · rcases hmoved m hm with hstands | ⟨p', hp', hle⟩
    · exact (mem_standing.mp hstands).2 p hp
    · have hpp : p' = p := Option.some.inj (hp'.symm.trans hp)
      omega
  · show Terminated (text.take v.cursor) ∨ _
    rw [htext]
    exact h.lineStart
  · refine List.Perm.trans ?_ h.standing
    refine (hperm.filter _).trans (List.Perm.of_eq (filter_filterMap ?_ ?_))
    · intro l hl hstands
      exact hsame l (List.mem_filter.mpr ⟨hl, hstands⟩)
    · intro l hl hout m hm
      have hnot : l ∉ v.standing := fun hmem => by
        rw [(List.mem_filter.mp hmem).2] at hout
        cases hout
      -- a label that does not stand is moved back to the place to clear from at most
      obtain ⟨p, hp, -, hle⟩ := hbehind l hl hnot
      have hmle := hstale p hp l hl hle m hm
      have hmn := hnonempty m (hperm.mem_iff.mpr (List.mem_filterMap.mpr ⟨l, hl, hm⟩))
      show v.pendingClear.all _ = false
      rw [hp]
      exact decide_eq_false (by omega)

section Edits

variable (h : v.Mirrored) {l : Transcript} (htext : v.text = l.text)
  (hlabels : v.labels = l.labels.spans)
include h htext hlabels

theorem append (t : Text) :
    Mirrored { v with text := (l.append t).2.text, labels := (l.append t).2.labels.spans } := by
  have hlen : v.text.length ≤ (l.text ++ t).length := by
    rw [htext, List.length_append]
    exact Nat.le_add_right _ _
  have hperm : l.labels.spans.Perm (v.labels.filterMap some) := by
    rw [List.filterMap_some, hlabels]
  refine h.change hperm (fun _ _ => rfl) ?_ (hlabels ▸ h.nonempty) ?_ ?_
    (Nat.le_trans h.cursor_le hlen)
  · rintro p _ m _ hle _ ⟨⟩
    exact hle
  · exact fun m hm => Nat.le_trans (h.within m (hlabels ▸ hm)) hlen
  · show (l.text ++ t).take v.cursor = _
    rw [List.take_append_of_le_length (htext ▸ h.cursor_le), htext]

theorem insert {offset : Nat} (hcursor : v.cursor ≤ offset)
    (hlinks : ∀ f ∈ v.findings, f.hyperlink.stop ≤ offset) (t : Text) : Mirrored
      { v with text := (l.insert offset t).text, labels := (l.insert offset t).labels.spans } := by
  have hwithin : LabelsWithin l.text.length l.labels.spans := htext ▸ hlabels ▸ h.within
  have hspans : (l.insert offset t).labels.spans
      = labelsAfterInsertion (min offset l.text.length) t.length v.labels := by
    rw [spans_insert, hlabels]
  refine h.change (List.Perm.of_eq (hspans.trans (labelsAfterInsertion_eq_filterMap _ _ _)))
    ?_ ?_ ?_ (Transcript.within_insert hwithin offset t) ?_ ?_
  · intro m hm
    obtain ⟨f, hf, rfl⟩ := List.mem_map.mp (h.standing.mem_iff.mp hm)
    have h₁ := hlinks f hf
    have h₂ := h.link_nonempty f hf
    have h₃ : f.hyperlink.stop ≤ l.text.length := htext ▸ h.link_le_length f hf
    rw [spanAfterInsertion_of_le (by show f.hyperlink.start < _; omega)
      (by show f.hyperlink.stop ≤ _; omega)]
  · rintro p _ m _ hle _ ⟨⟩
    show p ≤ (spanAfterInsertion _ _ m.span).start
    rw [start_spanAfterInsertion]
    split <;> omega
  · rw [hspans]
    exact nonempty_labelsAfterInsertion h.nonempty
  · rw [Parse.take_insert hcursor (htext ▸ h.cursor_le), htext]
  · show v.cursor ≤ (l.text.take _ ++ t ++ l.text.drop _).length
    have := htext ▸ h.cursor_le
    rw [List.length_append, List.length_append, List.length_take]
    omega

/-- Text may be taken out behind all links, if that is behind the place that labels are to be
cleared from: else a label that does not stand could come to lie before it. -/
theorem delete {span : Span} (hcursor : v.cursor ≤ span.start)
    (hlinks : ∀ f ∈ v.findings, f.hyperlink.stop ≤ span.start)
    (hpending : ∀ p, v.pendingClear = some p → p ≤ span.start) : Mirrored
      { v with text := (l.delete span).text, labels := (l.delete span).labels.spans } := by
  have hwithin : LabelsWithin l.text.length l.labels.spans := htext ▸ hlabels ▸ h.within
  have htake := Parse.take_delete hcursor (l := l) (htext ▸ h.cursor_le)
  by_cases hempty : (l.clamp span).start = (l.clamp span).stop
  · -- nothing is taken out
    have hsame : l.delete span = l := if_pos hempty
    rw [hsame, ← htext, ← hlabels]
    exact h
  · have hss : (l.clamp span).start ≤ (l.clamp span).stop := Nat.le_max_left _ _
    have hspans : (l.delete span).labels.spans
        = labelsAfterDeletion (l.clamp span).start (l.clamp span).stop v.labels := by
      unfold Transcript.delete
      dsimp only
      rw [if_neg hempty, hlabels]
      rfl
    refine h.change (List.Perm.trans (List.Perm.of_eq hspans) (perm_labelsAfterDeletion _ _ _)) ?_ ?_
      ?_ (Transcript.within_delete hwithin span) (htake.trans (htext ▸ rfl)) ?_
    · -- the labels that stand are before the text that is taken out
      intro m hm
      obtain ⟨f, hf, rfl⟩ := List.mem_map.mp (h.standing.mem_iff.mp hm)
      have hle : f.labelledSpan.span.stop ≤ (l.clamp span).start :=
        Nat.le_min.mpr ⟨hlinks f hf, htext ▸ h.link_le_length f hf⟩
      rw [spanAfterDeletion_of_le hle]
      rfl
    · intro p hp m hm hle n hn
      obtain ⟨s, hs, rfl⟩ := Option.map_eq_some_iff.mp hn
      have h₁ := h.nonempty m hm
      have h₂ := h.within m hm
      have hp' : p ≤ (l.clamp span).start := Nat.le_min.mpr ⟨hpending p hp, by rw [← htext]; omega⟩
      exact le_start_of_spanAfterDeletion hp' hss hle hs
    · rw [hspans]
      exact nonempty_labelsAfterDeletion hss h.nonempty
    · have := congrArg List.length htake
      have hle : v.cursor ≤ l.text.length := htext ▸ h.cursor_le
      rw [List.length_take, List.length_take] at this
      show v.cursor ≤ (l.delete span).text.length
      omega

end Edits

end Mirrored

/-! ## 4. Readings -/

/-- Readings put a label in for each finding, and clear those that reach beyond the cursor. -/
theorem perm_readText_iff (hn : LabelsNonempty v.labels) (hw : LabelsWithin v.text.length v.labels)
    (text : Text) (certain : Bool) :
    (v.readText text certain).2.labels.Perm
        ((v.readText text certain).2.findings.map Finding.labelledSpan)
      ↔ (v.labels.filter (·.span.stop ≤ v.cursor)).Perm (v.kept.map Finding.labelledSpan) := by
  -- labels are not empty and in the text, so those that stay are those that end by the cursor
  have hclear : v.clearLabels v.cursor v.text.length
      = v.labels.filter (·.span.stop ≤ v.cursor) := by
    apply List.filter_congr
    intro l hl
    have h₁ := hn l hl
    have h₂ := hw l hl
    rw [Bool.eq_iff_iff, Span.not_meets_iff, decide_eq_true_eq]
    omega
  have hread : (v.readText text certain).2.labels.Perm
      (v.labels.filter (·.span.stop ≤ v.cursor) ++ (v.found text).map Finding.labelledSpan) := by
    rw [← hclear]
    exact perm_labelAll _ _
  have hfindings : (v.readText text certain).2.findings.map Finding.labelledSpan
      = v.kept.map Finding.labelledSpan ++ (v.found text).map Finding.labelledSpan :=
    List.map_append
  rw [hfindings]
  constructor
  · exact fun hperm => (List.perm_append_right_iff _).mp (hread.symm.trans hperm)
  · exact fun hperm => hread.trans (hperm.append_right _)

namespace Mirrored

theorem settle (h : v.Mirrored) : v.settle.Mirrored ∧ v.settle.labels = v.standing := by
  have hlabels : v.settle.labels = v.standing := by
    unfold View.settle View.standing
    cases hp : v.pendingClear with
    | none => exact (List.filter_eq_self.mpr fun _ _ => rfl).symm
    | some p =>
      apply List.filter_congr
      intro l hl
      have h₁ := h.nonempty l hl
      have h₂ := h.within l hl
      rw [Bool.eq_iff_iff, Span.not_meets_iff]
      simp only [Option.all_some, decide_eq_true_eq]
      omega
  have hcursor : v.settle.cursor = v.cursor := Nat.min_eq_left h.cursor_le
  have hmem : ∀ l ∈ v.settle.labels, l ∈ v.labels := by
    rw [hlabels]
    exact fun l hl => (mem_standing.mp hl).1
  refine ⟨⟨fun l hl => h.nonempty l (hmem l hl), fun l hl => h.within l (hmem l hl), nofun, ?_, ?_,
    ?_, h.le_link, ?_⟩, hlabels⟩
  · rw [hcursor]
    exact h.cursor_le
  · rw [hcursor]
    exact h.clean
  · rw [hcursor]
    exact h.lineStart
  · rw [standing_of_none rfl, hlabels]
    exact h.standing

/-- Bringing the cursor to the start of its line leaves a label for each finding just if it cuts no
link off, both at once and after what is behind the cursor is dropped. -/
theorem perm_snap_iff (h : v.Mirrored) (hp : v.pendingClear = none) :
    (v.snap.labels.Perm (v.snap.findings.map Finding.labelledSpan) ↔ v.Clean v.snap.cursor)
      ∧ ((v.snap.labels.filter (·.span.stop ≤ v.snap.cursor)).Perm
          (v.snap.kept.map Finding.labelledSpan) ↔ v.Clean v.snap.cursor) := by
  have hcut := fun k => h.perm_cut_iff k
  rw [standing_of_none hp] at hcut
  unfold snap
  split
  · rename_i hin
    -- the cursor is inside a line, and all links are before it
    have hlinks : ∀ f ∈ v.findings, f.hyperlink.stop ≤ v.cursor := by
      refine h.lineStart.resolve_left fun hterm => ?_
      rw [(insideLine_eq_false h.cursor_le).mpr (.inl hterm)] at hin
      cases hin
    have hclear : v.clearLabels v.lineStart v.cursor
        = v.labels.filter (·.span.stop ≤ v.lineStart) := by
      apply List.filter_congr
      intro l hl
      have hnonempty := h.nonempty l hl
      rw [← standing_of_none hp] at hl
      obtain ⟨f, hf, rfl⟩ := List.mem_map.mp (h.standing.mem_iff.mp hl)
      have hstop : f.labelledSpan.span.stop ≤ v.cursor := hlinks f hf
      rw [Bool.eq_iff_iff, Span.not_meets_iff, decide_eq_true_eq]
      omega
    refine ⟨?_, ?_⟩
    · show (v.clearLabels v.lineStart v.cursor).Perm _ ↔ _
      rw [hclear]
      exact hcut v.lineStart
    · show ((v.clearLabels v.lineStart v.cursor).filter _).Perm
        (((v.findings.filter (·.start < v.lineStart)).filter (·.start < v.lineStart)).map _) ↔ _
      rw [hclear, filter_filter_of_imp fun _ _ => id, filter_filter_of_imp fun _ _ => id]
      exact hcut v.lineStart
  · refine ⟨iff_of_true ?_ h.clean, hcut v.cursor⟩
    rw [← standing_of_none hp]
    exact h.standing

/-- A reading leaves a label for each finding just if it cuts no link off. -/
theorem perm_advance_iff (h : v.Mirrored) (upto : Nat) :
    (v.advance upto).2.labels.Perm ((v.advance upto).2.findings.map Finding.labelledSpan)
      ↔ v.Clean v.settle.snap.cursor := by
  obtain ⟨hsettle, -⟩ := h.settle
  obtain ⟨hsnap, hkept⟩ := hsettle.perm_snap_iff rfl
  have hmem : ∀ l ∈ v.settle.snap.labels, l ∈ v.settle.labels := by
    unfold snap
    split
    · exact fun l hl => (List.mem_filter.mp hl).1
    · exact fun l hl => hl
  unfold advance readOn
  split
  · exact hsnap
  · refine (perm_readText_iff (fun l hl => hsettle.nonempty l (hmem l hl)) ?_ _ _).trans hkept
    rw [text_snap]
    exact fun l hl => hsettle.within l (hmem l hl)

theorem advance (h : v.Mirrored) (hlinks : v.settings.rules.LinksNonempty) {upto : Nat}
    (hclean : v.Clean v.settle.snap.cursor) : (v.advance upto).2.Mirrored := by
  have hready := ready_advance upto v
  have hperm := (h.perm_advance_iff upto).mpr hclean
  -- findings that were there before are some of those of the view, and others were found
  have hsettings : v.settle.snap.settings = v.settings := (sameSetting_snap v.settle).settings
  have hold : ∀ f ∈ v.settle.snap.findings, f ∈ v.findings :=
    fun f hf => (sublist_snap v.settle).mem hf
  have hfound : ∀ f ∈ v.settle.snap.found (v.settle.snap.readable upto),
      f.hyperlink.start < f.hyperlink.stop := fun f hf => (hsettings ▸ hlinks).findings hf
  have hlink : ∀ f ∈ (v.advance upto).2.findings, f.start ≤ f.hyperlink.start
      ∧ f.hyperlink.start < f.hyperlink.stop
      ∧ (f.start < (v.advance upto).2.cursor → f.hyperlink.stop ≤ (v.advance upto).2.cursor) := by
    have hkeep : ∀ f ∈ v.settle.snap.findings, f.start ≤ f.hyperlink.start
        ∧ f.hyperlink.start < f.hyperlink.stop :=
      fun f hf => ⟨h.le_link f (hold f hf), h.link_nonempty f (hold f hf)⟩
    unfold View.advance readOn
    split
    · exact fun f hf => ⟨(hkeep f hf).1, (hkeep f hf).2, hclean f (hold f hf)⟩
    · intro f hf
      rcases List.mem_append.mp hf with hf | hf
      · obtain ⟨hf, hlt⟩ := List.mem_filter.mp hf
        have hcut := hclean f (hold f hf) (of_decide_eq_true hlt)
        exact ⟨(hkeep f hf).1, (hkeep f hf).2, fun _ =>
          Nat.le_trans hcut (cursor_le_readText _ _ _)⟩
      · have hw := found_within _ _ f hf
        exact ⟨hw.link.1, hfound f hf, fun hlt =>
          Nat.le_trans hw.link.2 (stop_le_readText _ _ _ hf hlt)⟩
  have hwithin : LabelsWithin (v.advance upto).2.text.length (v.advance upto).2.labels := by
    rw [text_advance]
    exact within_advance h.within upto
  refine ⟨fun l hl => ?_, hwithin, fun p hp => ?_, hready.cursor_le, fun f hf => (hlink f hf).2.2,
    ?_, fun f hf => (hlink f hf).1, ?_⟩
  · obtain ⟨f, hf, rfl⟩ := List.mem_map.mp (hperm.mem_iff.mp hl)
    exact (hlink f hf).2.1
  · rw [hready.pending] at hp
    cases hp
  · -- at the end of the log, all links are before the cursor
    refine hready.lineStart.imp id fun hend f hf => ?_
    rw [hend]
    exact hwithin _ (hperm.mem_iff.mpr (List.mem_map_of_mem hf))
  · rw [standing_of_none hready.pending]
    exact hperm

end Mirrored

end View

end BuildLog
