import BuildLog.Proofs.Groups
import BuildLog.Proofs.Renewal
import BuildLog.Text.Excerpt
import Mathlib.Order.Monotone.Defs

/-!
# Excerpts — a message lies where its match lies

The search in the table of an excerpt finds the first character that begins at a byte or later.  So
offsets and bytes lead back to each other where characters begin, and what a match captured, counted
in bytes, is selected by the spans of its message, counted in characters of the log.
-/

namespace BuildLog

/-! ## 1. Bytes of a text -/

namespace Text

theorem bytes_append (t u : Text) : bytes (t ++ u) = bytes t ++ bytes u := List.flatMap_append

theorem length_bytes_cons (c : Char) (t : Text) :
    (bytes (c :: t)).length = c.utf8Size + (bytes t).length := by
  simp [bytes]

theorem length_le_bytes (t : Text) : t.length ≤ t.bytes.length := by
  induction t with
  | nil => simp
  | cons c t ih =>
    have := c.utf8Size_pos
    rw [length_bytes_cons, List.length_cons]
    omega

/-- The byte at which the character at an index begins. -/
def byteIndex (t : Text) (i : Nat) : Nat := (bytes (t.take i)).length

/-- The bytes of a span of characters. -/
def byteSpan (t : Text) (s : Span) : Span := ⟨t.byteIndex s.start, t.byteIndex s.stop⟩

theorem byteIndex_of_le {t : Text} {i : Nat} (h : t.length ≤ i) : t.byteIndex i = t.bytes.length := by
  rw [byteIndex, List.take_of_length_le h]

theorem bytes_take {t : Text} {i j : Nat} (h : i ≤ j) :
    bytes (t.take j) = bytes (t.take i) ++ bytes (t.slice i j) := by
  rw [← bytes_append, slice]
  congr 1
  conv_lhs => rw [← List.take_append_drop i (t.take j), List.take_take, Nat.min_eq_left h]

theorem byteIndex_add {t : Text} {i j : Nat} (h : i ≤ j) :
    t.byteIndex j = t.byteIndex i + (bytes (t.slice i j)).length := by
  rw [byteIndex, bytes_take h, List.length_append, byteIndex]

theorem byteIndex_mono {t : Text} {i j : Nat} (h : i ≤ j) : t.byteIndex i ≤ t.byteIndex j := by
  rw [byteIndex_add h]
  exact Nat.le_add_right _ _

theorem byteIndex_lt {t : Text} {i j : Nat} (h : i < j) (hj : j ≤ t.length) :
    t.byteIndex i < t.byteIndex j := by
  have hle := length_le_bytes (t.slice i j)
  rw [length_slice] at hle
  rw [byteIndex_add (Nat.le_of_lt h)]
  omega

theorem byteIndex_cons_succ (c : Char) (t : Text) (i : Nat) :
    byteIndex (c :: t) (i + 1) = c.utf8Size + t.byteIndex i := by
  rw [byteIndex, List.take_succ_cons, length_bytes_cons]
  rfl

/-- The characters of a slice are encoded by the bytes of their span. -/
theorem bytes_slice (t : Text) {s : Span} (h : s.start ≤ s.stop) :
    bytes (t.slice s.start s.stop)
      = (t.bytes.take (t.byteSpan s).stop).drop (t.byteSpan s).start := by
  have htake : t.bytes.take (t.byteIndex s.stop) = bytes (t.take s.stop) := by
    have hsplit : t.bytes = bytes (t.take s.stop) ++ bytes (t.drop s.stop) := by
      rw [← bytes_append, List.take_append_drop]
    rw [hsplit]
    exact List.take_left
  show _ = (t.bytes.take (t.byteIndex s.stop)).drop (t.byteIndex s.start)
  rw [htake, bytes_take h]
  exact List.drop_left.symm

theorem getElem?_byteOffsets (t : Text) (pos i : Nat) :
    (t.byteOffsets pos)[i]? = if i ≤ t.length then some (pos + t.byteIndex i) else none := by
  induction t generalizing pos i with
  | nil => cases i <;> simp [byteOffsets, byteIndex, bytes]
  | cons c t ih =>
    cases i with
    | zero => simp [byteOffsets, byteIndex, bytes]
    | succ i =>
      rw [byteOffsets, List.getElem?_cons_succ, ih, byteIndex_cons_succ, List.length_cons]
      simp [Nat.add_assoc]

theorem length_byteOffsets (t : Text) (pos : Nat) : (t.byteOffsets pos).length = t.length + 1 := by
  induction t generalizing pos with
  | nil => rfl
  | cons c t ih => rw [byteOffsets, List.length_cons, ih, List.length_cons]

/-- A byte at which a character begins, or the text ends. -/
def Boundary (t : Text) (byte : Nat) : Prop :=
  ∃ front back, t = front ++ back ∧ byte = (bytes front).length

theorem boundary_iff {t : Text} {byte : Nat} :
    t.Boundary byte ↔ ∃ i ≤ t.length, byte = t.byteIndex i := by
  constructor
  · rintro ⟨front, back, rfl, rfl⟩
    refine ⟨front.length, ?_, ?_⟩
    · simp
    · rw [byteIndex, List.take_left]
  · rintro ⟨i, -, rfl⟩
    exact ⟨t.take i, t.drop i, (List.take_append_drop i t).symm, rfl⟩

end Text

/-! ## 2. The search in a table -/

/-- The search keeps to the first index at which the table is not below the number. -/
theorem searchIndex_spec {table : Array Nat} {n lo hi : Nat}
    (hasc : ∀ i j, i < j → j < table.size → table.getD i 0 < table.getD j 0) (hle : lo ≤ hi)
    (hhi : hi ≤ table.size) (hbelow : ∀ i < lo, table.getD i 0 < n)
    (habove : ∀ i, hi ≤ i → i < table.size → n ≤ table.getD i 0) :
    (∀ i < searchIndex table n lo hi, table.getD i 0 < n)
      ∧ ∀ i, searchIndex table n lo hi ≤ i → i < table.size → n ≤ table.getD i 0 := by
  fun_induction searchIndex table n lo hi with
  | case1 lo hi hlt mid found heq =>
    refine ⟨fun i hi' => ?_, fun i hi' hsize => ?_⟩
    · rw [← heq]
      exact hasc i mid hi' (by omega)
    · rcases Nat.eq_or_lt_of_le hi' with rfl | hlt'
      · exact Nat.le_of_eq heq.symm
      · rw [← heq]
        exact Nat.le_of_lt (hasc mid i hlt' hsize)
  | case2 lo hi hlt mid found hne hless ih =>
    refine ih (by omega) hhi (fun i hi' => ?_) habove
    rcases Nat.eq_or_lt_of_le (Nat.le_of_lt_succ hi') with rfl | hlt'
    · exact hless
    · exact Nat.lt_trans (hasc i mid hlt' (by omega)) hless
  | case3 lo hi hlt mid found hne hnless ih =>
    refine ih (by omega) (by omega) hbelow fun i hi' hsize => ?_
    have hfound : n ≤ found := Nat.le_of_not_lt hnless
    rcases Nat.eq_or_lt_of_le hi' with rfl | hlt'
    · exact hfound
    · exact Nat.le_trans hfound (Nat.le_of_lt (hasc mid i hlt' hsize))
  | case4 lo hi hlt =>
    obtain rfl : lo = hi := by omega
    exact ⟨hbelow, habove⟩

theorem searchIndex_le_iff {table : Array Nat} {n i : Nat}
    (hasc : ∀ i j, i < j → j < table.size → table.getD i 0 < table.getD j 0) (hi : i < table.size) :
    searchIndex table n 0 table.size ≤ i ↔ n ≤ table.getD i 0 := by
  obtain ⟨hbelow, habove⟩ := searchIndex_spec (n := n) hasc (Nat.zero_le table.size)
    (Nat.le_refl _) (fun i hi => absurd hi (Nat.not_lt_zero i))
    (fun i hi hi' => absurd hi (Nat.not_le.mpr hi'))
  constructor
  · exact fun hle => habove i hle hi
  · intro hle
    by_contra hlt
    have := hbelow i (Nat.lt_of_not_le hlt)
    omega

/-! ## 3. Offsets and bytes -/

namespace Excerpt

variable (e : Excerpt)

theorem byteOffset_eq (offset : Nat) : e.byteOffset offset = e.text.byteIndex (offset - e.base) := by
  unfold byteOffset table byteLength
  rw [List.getElem?_toArray, Text.getElem?_byteOffsets]
  split
  · simp
  · rename_i hlt
    exact (Text.byteIndex_of_le (by omega)).symm

theorem getD_table {i : Nat} (h : i ≤ e.text.length) : e.table.getD i 0 = e.text.byteIndex i := by
  rw [Array.getD_eq_getD_getElem?, table, List.getElem?_toArray, Text.getElem?_byteOffsets, if_pos h]
  simp

theorem size_table : e.table.size = e.text.length + 1 := by
  rw [table, List.size_toArray, Text.length_byteOffsets]

/-- The offset of a byte is the first at which a character begins there or later. -/
theorem charOffset_le_iff (byte : Nat) {offset : Nat} (h : e.base ≤ offset) :
    e.charOffset byte ≤ offset ↔ min byte e.byteLength ≤ e.byteOffset offset := by
  have hasc : ∀ i j, i < j → j < e.table.size → e.table.getD i 0 < e.table.getD j 0 := by
    intro i j hij hj
    rw [size_table] at hj
    rw [e.getD_table (by omega), e.getD_table (by omega)]
    exact Text.byteIndex_lt hij (by omega)
  have hsearch : ∀ i ≤ e.text.length,
      searchIndex e.table (min byte e.byteLength) 0 e.table.size ≤ i
        ↔ min byte e.byteLength ≤ e.text.byteIndex i := by
    intro i hi
    rw [← e.getD_table hi]
    exact searchIndex_le_iff hasc (by rw [size_table]; omega)
  have hadd : e.charOffset byte ≤ offset
      ↔ searchIndex e.table (min byte e.byteLength) 0 e.table.size ≤ offset - e.base := by
    rw [charOffset]
    omega
  rw [hadd, byteOffset_eq]
  by_cases hin : offset - e.base ≤ e.text.length
  · exact hsearch _ hin
  · -- past the end there is the last byte, and the search does not get there
    have hlen := e.text.byteIndex_of_le (Nat.le_refl e.text.length)
    have hend : e.text.byteIndex (offset - e.base) = e.byteLength :=
      Text.byteIndex_of_le (by omega)
    have hlast := (hsearch e.text.length (Nat.le_refl _)).mpr (hlen ▸ Nat.min_le_right _ _)
    rw [hend]
    exact iff_of_true (by omega) (Nat.min_le_right _ _)

theorem base_le_charOffset (byte : Nat) : e.base ≤ e.charOffset byte := Nat.le_add_right _ _

theorem charOffset_mono : Monotone e.charOffset := by
  intro b c h
  have hc := (e.charOffset_le_iff c (e.base_le_charOffset c)).mp (Nat.le_refl _)
  apply (e.charOffset_le_iff b (e.base_le_charOffset c)).mpr
  omega

theorem byteOffset_mono : Monotone e.byteOffset := by
  intro o p h
  rw [byteOffset_eq, byteOffset_eq]
  exact Text.byteIndex_mono (Nat.sub_le_sub_right h e.base)

theorem byteOffset_le (offset : Nat) : e.byteOffset offset ≤ e.byteLength := by
  rw [byteOffset_eq, byteLength]
  have hle := Text.byteIndex_mono (t := e.text) (Nat.le_max_left (offset - e.base) e.text.length)
  rwa [Text.byteIndex_of_le (Nat.le_max_right (offset - e.base) e.text.length)] at hle

theorem boundary_byteOffset {offset : Nat} (h : offset ≤ e.base + e.text.length) :
    e.text.Boundary (e.byteOffset offset) :=
  Text.boundary_iff.mpr ⟨offset - e.base, by omega, e.byteOffset_eq offset⟩

/-- An offset in the excerpt is that of the byte at which its character begins. -/
theorem charOffset_byteOffset {offset : Nat} (hbase : e.base ≤ offset)
    (hend : offset ≤ e.base + e.text.length) : e.charOffset (e.byteOffset offset) = offset := by
  have hmin : min (e.byteOffset offset) e.byteLength = e.byteOffset offset :=
    Nat.min_eq_left (e.byteOffset_le offset)
  apply Nat.le_antisymm
  · exact (e.charOffset_le_iff _ hbase).mpr (Nat.min_le_left _ _)
  · -- an earlier character would begin at an earlier byte
    have hfirst := (e.charOffset_le_iff (e.byteOffset offset)
      (e.base_le_charOffset (e.byteOffset offset))).mp (Nat.le_refl _)
    rw [hmin, byteOffset_eq, byteOffset_eq] at hfirst
    by_contra hlt
    have hbefore := e.base_le_charOffset (e.byteOffset offset)
    rw [byteOffset_eq] at hlt hbefore
    have := Text.byteIndex_lt (t := e.text)
      (i := e.charOffset (e.text.byteIndex (offset - e.base)) - e.base) (j := offset - e.base)
      (by omega) (by omega)
    omega

theorem charOffset_byteIndex {i : Nat} (h : i ≤ e.text.length) :
    e.charOffset (e.text.byteIndex i) = i + e.base := by
  have hoffset := e.byteOffset_eq (i + e.base)
  rw [Nat.add_sub_cancel] at hoffset
  rw [← hoffset]
  exact e.charOffset_byteOffset (Nat.le_add_left _ _) (by omega)

/-- A byte at which a character begins is that of its offset. -/
theorem byteOffset_charOffset {byte : Nat} (h : e.text.Boundary byte) :
    e.byteOffset (e.charOffset byte) = byte := by
  obtain ⟨i, hi, rfl⟩ := Text.boundary_iff.mp h
  rw [e.charOffset_byteIndex hi, byteOffset_eq, Nat.add_sub_cancel]

/-- The bytes of some characters are those characters, counted from the start of the log. -/
theorem charRange_byteSpan {s : Span} (h : s.start ≤ s.stop) (hstop : s.stop ≤ e.text.length) :
    e.charRange (e.text.byteSpan s) = s.shift e.base := by
  show (Span.mk _ _) = _
  rw [Text.byteSpan, e.charOffset_byteIndex (Nat.le_trans h hstop), e.charOffset_byteIndex hstop]
  rfl

end Excerpt

/-! ## 4. What a match captured -/

/-- Some bytes of an excerpt, and the text that they encode. -/
structure Capture where
  bytes : Span
  text : Text
deriving Repr, DecidableEq

namespace Excerpt

variable (e : Excerpt)

/-- The capture of some characters of the excerpt. -/
def captureOf (s : Span) : Capture := ⟨e.text.byteSpan s, e.text.slice s.start s.stop⟩

/-- What a match captured as group `i`. -/
def capture (m : Pattern.Match) (i : Nat) : Option Capture := (m.group i).map e.captureOf

/-- The text of a group is what the match captured. -/
theorem groupText_ofMatch (m : Pattern.Match) (i : Nat) :
    (Found.ofMatch e.text.toArray m).groupText i = (e.capture m i).map (·.text) := by
  rw [capture, Option.map_map]
  show (m.group i).map _ = (m.group i).map _
  congr 1
  funext s
  show (Array.extract _ _ _).toList = e.text.slice s.start s.stop
  rw [Array.toList_extract, List.extract_eq_take_drop, Text.slice, List.drop_take]

/-- A span of the log selects what was captured: it is the range of the bytes, it lies in the
excerpt, and its characters are the text. -/
structure Selects (s : Span) (c : Capture) : Prop where
  range : s = e.charRange c.bytes
  base_le : e.base ≤ s.start
  start_le_stop : s.start ≤ s.stop
  stop_le : s.stop ≤ e.base + e.text.length
  quote : e.quote s = c.text
  encoded : c.text.bytes = (e.text.bytes.take c.bytes.stop).drop c.bytes.start

theorem selects_captureOf {s : Span} (h : s.start ≤ s.stop) (hstop : s.stop ≤ e.text.length) :
    e.Selects (s.shift e.base) (e.captureOf s) where
  range := (e.charRange_byteSpan h hstop).symm
  base_le := Nat.le_add_left _ _
  start_le_stop := Nat.add_le_add_right h e.base
  stop_le := by
    show s.stop + e.base ≤ _
    omega
  quote := by simp [quote, Span.shift, captureOf]
  encoded := Text.bytes_slice e.text h

end Excerpt

/-- A message says where a match of a rule was found, and where the groups that the rule names
were. -/
structure Message.Shows (e : Excerpt) (r : Rule) (found : Pattern.Match) (m : Message) :
    Prop where
  rule : m.rule = r.name
  /-- What the roles of the rule read of a group is what was captured. -/
  texts : ∀ i, (Found.ofMatch e.text.toArray found).groupText i
    = (e.capture found i).map (·.text)
  span : e.Selects m.span (e.captureOf found.span)
  hyperlink : e.Selects m.hyperlink
    ((r.hyperlink.bind (e.capture found)).getD (e.captureOf found.span))
  highlights : m.highlights.Forall₂ (fun h c => h.face = c.1 ∧ e.Selects h.span c.2)
    (r.highlights.filterMap fun h => (e.capture found h.group).map (h.face, ·))
  hyperlink_lies : m.hyperlink.LiesIn m.span
  highlights_lie : ∀ h ∈ m.highlights, h.span.LiesIn m.span

/-- The message of a candidate shows where its match was found. -/
theorem Candidate.shows_of_message? {cfg : ScanSettings} {disk : Disk} {e : Excerpt}
    {previous : Option Inherited} {s u : ScanState} {c : Candidate} {m : Message}
    (hp : c.rule.pattern.Compiled) (hc : c.found ∈ c.rule.pattern.allMatches e.text.toArray)
    (hm : c.message? cfg disk e.text.toArray e.base previous s = some (m, u)) :
    m.Shows e c.rule c.found := by
  obtain ⟨hspan, hlink, hhighlights⟩ := spans_of_message? hm
  obtain ⟨-, -, -, -, hrule, -⟩ := of_message? hm
  have hselects : ∀ {i t}, c.found.group i = some t →
      e.Selects (t.shift e.base) (e.captureOf t) ∧ (t.shift e.base).LiesIn m.span := by
    intro i t ht
    obtain ⟨hle, hstop, hlies⟩ := hp.group_lies hc ht
    rw [List.size_toArray] at hstop
    exact ⟨e.selects_captureOf hle hstop, hspan ▸ hlies.shift e.base⟩
  have hwhole : e.Selects m.span (e.captureOf c.found.span) := by
    rw [hspan]
    exact (hselects (i := 0) rfl).1
  have hcapture : c.rule.hyperlink.bind (e.capture c.found)
      = (c.rule.hyperlink.bind c.found.group).map e.captureOf := by
    rw [Option.map_bind]
    rfl
  have hlinked : e.Selects m.hyperlink
      ((c.rule.hyperlink.bind (e.capture c.found)).getD (e.captureOf c.found.span))
      ∧ m.hyperlink.LiesIn m.span := by
    rw [hlink, hcapture]
    cases hg : c.rule.hyperlink.bind c.found.group with
    | none => exact ⟨hwhole, Nat.le_refl _, Nat.le_refl _⟩
    | some t =>
      obtain ⟨i, -, ht⟩ := Option.bind_eq_some_iff.mp hg
      exact hselects ht
  refine ⟨hrule, e.groupText_ofMatch c.found, hwhole, hlinked.1, ?_, hlinked.2, ?_⟩
  · rw [hhighlights]
    induction c.rule.highlights with
    | nil => exact .nil
    | cons h hs ih =>
      rw [List.filterMap_cons, List.filterMap_cons, Excerpt.capture, Option.map_map]
      cases hg : c.found.group h.group with
      | none => exact ih
      | some t => exact .cons ⟨rfl, (hselects hg).1⟩ ih
  · intro h hh
    rw [hhighlights] at hh
    obtain ⟨role, -, hrole⟩ := List.mem_filterMap.mp hh
    obtain ⟨t, ht, rfl⟩ := Option.map_eq_some_iff.mp hrole
    exact (hselects ht).2

/-! ## 5. Scans -/

/-- A message of a text shows where a match of one of the rules was found. -/
theorem exists_shows_of_mem_scan {cfg : ScanSettings} {disk : Disk} {e : Excerpt}
    {previous : Option Inherited} {s : ScanState}
    (hrules : cfg.rules.Compiled) {m : Message}
    (hm : m ∈ (scan cfg disk e.text e.base previous s).1) :
    ∃ r ∈ cfg.rules.rules, ∃ found ∈ r.pattern.allMatches e.text.toArray, m.Shows e r found := by
  rw [scan_eq_scanRecords] at hm
  obtain ⟨rec, hrec, rfl⟩ := List.mem_map.mp hm
  have hkept : KeptByReading (fun _ => True) (fun _ => True) fun _ : FileTable => True :=
    { intern := by simp, placeAt := by simp, retain := by simp, dropFile := by simp
      release := by simp }
  obtain ⟨-, hmem, hmessage⟩ := of_mem_records hkept trivial hrec
  obtain ⟨r, hr, hmatch⟩ := List.mem_flatMap.mp (Candidate.mem_flatMap_of_mem_all hmem)
  obtain ⟨found, hfound, hcandidate⟩ := List.mem_map.mp hmatch
  rw [← hcandidate] at hmessage
  have hfound := (List.mem_filter.mp hfound).1
  exact ⟨r, hr, found, hfound,
    Candidate.shows_of_message? (c := ⟨r, found⟩) (hrules r hr) hfound hmessage⟩

/-- Every message of a text shows where a match of a rule was found, whatever characters the text
has and wherever in the log it begins.  Offsets and bytes are in the same order, and where
characters begin they lead back to each other. -/
theorem scan_shows (cfg : ScanSettings) (disk : Disk) (e : Excerpt) (previous : Option Inherited)
    (s : ScanState) (hrules : cfg.rules.Compiled) :
    (∀ m ∈ (scan cfg disk e.text e.base previous s).1, ∃ r ∈ cfg.rules.rules,
        ∃ found ∈ r.pattern.allMatches e.text.toArray, m.Shows e r found)
      ∧ Monotone e.charOffset ∧ Monotone e.byteOffset
      ∧ (∀ offset, e.base ≤ offset → offset ≤ e.base + e.text.length →
          e.text.Boundary (e.byteOffset offset) ∧ e.charOffset (e.byteOffset offset) = offset)
      ∧ ∀ byte, e.text.Boundary byte → e.byteOffset (e.charOffset byte) = byte :=
  ⟨fun _ hm => exists_shows_of_mem_scan hrules hm, e.charOffset_mono, e.byteOffset_mono,
    fun _ hbase hend => ⟨e.boundary_byteOffset hend, e.charOffset_byteOffset hbase hend⟩,
    fun _ h => e.byteOffset_charOffset h⟩

/-- A capital and an accented letter, which is the link and is shown in bold. -/
def accentRule : Rule :=
  { Rule.ofExpr "accent" (.cat (.one (.ofRange 65 90)) (.group 1 none (.one (.ofRange 224 255)))) 1
    with hyperlink := some 1, highlights := [⟨1, "bold"⟩] }

/-- The message in a text whose bytes and characters differ, away from the start of the log. -/
theorem scan_shows_accent :
    let e : Excerpt := ⟨"é\nXéé\n".toList, 10⟩
    let s : ScanState := ⟨{ pattern := none }, { workingDir := ⟨['/']⟩ }⟩
    ∃ m ∈ (scan { rules := ⟨[accentRule]⟩ } Session.templateDisk e.text e.base none s).1,
      m.span = ⟨12, 14⟩ ∧ m.hyperlink = ⟨13, 14⟩ ∧ m.highlights = [⟨⟨13, 14⟩, "bold"⟩]
        ∧ ∃ found ∈ accentRule.pattern.allMatches e.text.toArray, m.Shows e accentRule found := by
  intro e s
  obtain ⟨m, hm, hspan, hlink, hbold⟩ :
      ∃ m ∈ (scan { rules := ⟨[accentRule]⟩ } Session.templateDisk e.text e.base none s).1,
        m.span = ⟨12, 14⟩ ∧ m.hyperlink = ⟨13, 14⟩ ∧ m.highlights = [⟨⟨13, 14⟩, "bold"⟩] := by
    decide +kernel
  have hrules : RuleSet.Compiled ⟨[accentRule]⟩ := fun r hr => List.mem_singleton.mp hr ▸ rfl
  obtain ⟨r, hr, found, hfound, hshows⟩ :=
    (scan_shows { rules := ⟨[accentRule]⟩ } Session.templateDisk e none s hrules).1 m hm
  obtain rfl := List.mem_singleton.mp hr
  exact ⟨m, hm, hspan, hlink, hbold, found, hfound, hshows⟩

end BuildLog
