import BuildLog.Parse
import BuildLog.Proofs.Excerpts
import BuildLog.Proofs.Lines

/-!
# Cuts — lines of an excerpt, found in its bytes

A text can be cut at a byte only where a character begins.  The last lines of a text are found by
cuts in front of its newlines, and the line of a match is followed from a cut behind it.  Newlines
are a single byte, so all of these cuts can be made, and what they lead to are the bytes of the
offsets at which the lines begin and end.
-/

namespace BuildLog

namespace Text

/-! ## 1. Cuts -/

/-- The text before a byte, and that from the byte on; none if the byte is inside a character or
past the end. -/
def cutAt? : (t : Text) → (byte : Nat) → Option (Text × Text)
  | t, 0 => some ([], t)
  | [], _ + 1 => none
  | c :: t, byte + 1 =>
    if c.utf8Size ≤ byte + 1 then
      (cutAt? t (byte + 1 - c.utf8Size)).map fun p => (c :: p.1, p.2)
    else none

theorem cutAt?_append (front back : Text) :
    cutAt? (front ++ back) front.bytes.length = some (front, back) := by
  induction front with
  | nil => rw [List.nil_append]; cases back <;> rfl
  | cons c front ih =>
    have hpos := c.utf8Size_pos
    obtain ⟨n, hn⟩ : ∃ n, c.utf8Size + (bytes front).length = n + 1 :=
      ⟨c.utf8Size + (bytes front).length - 1, by omega⟩
    have hrest : n + 1 - c.utf8Size = (bytes front).length := by omega
    rw [length_bytes_cons, hn, List.cons_append, cutAt?, if_pos (by omega), hrest, ih]
    rfl

theorem cutAt?_eq_some {t front back : Text} {byte : Nat} :
    t.cutAt? byte = some (front, back) ↔ t = front ++ back ∧ byte = front.bytes.length := by
  constructor
  · intro h
    induction t, byte using cutAt?.induct generalizing front with
    | case1 t =>
      obtain ⟨rfl, rfl⟩ : [] = front ∧ t = back := by simpa [cutAt?] using h
      exact ⟨rfl, rfl⟩
    | case2 byte => simp [cutAt?] at h
    | case3 c t byte hsize ih =>
      rw [cutAt?, if_pos hsize, Option.map_eq_some_iff] at h
      obtain ⟨⟨front', back'⟩, hcut, heq⟩ := h
      obtain ⟨rfl, rfl⟩ : c :: front' = front ∧ back' = back := Prod.mk.inj heq
      obtain ⟨rfl, hbyte⟩ := ih hcut
      refine ⟨rfl, ?_⟩
      rw [length_bytes_cons]
      omega
    | case4 c t byte hsize => simp [cutAt?, hsize] at h
  · rintro ⟨rfl, rfl⟩
    exact cutAt?_append front back

/-- A text can be cut where its characters begin, and at its end. -/
theorem isSome_cutAt? {t : Text} {byte : Nat} : (t.cutAt? byte).isSome ↔ t.Boundary byte := by
  rw [Option.isSome_iff_exists]
  constructor
  · rintro ⟨⟨front, back⟩, h⟩
    exact ⟨front, back, cutAt?_eq_some.mp h⟩
  · rintro ⟨front, back, h⟩
    exact ⟨(front, back), cutAt?_eq_some.mpr h⟩

example : cutAt? "é\n".toList 1 = none := by decide

theorem cutAt?_byteIndex (t : Text) (i : Nat) :
    t.cutAt? (t.byteIndex i) = some (t.take i, t.drop i) :=
  cutAt?_eq_some.mpr ⟨(List.take_append_drop i t).symm, rfl⟩

@[simp] theorem byteIndex_zero (t : Text) : t.byteIndex 0 = 0 := rfl

theorem byteIndex_add_drop (t : Text) (i j : Nat) :
    t.byteIndex (i + j) = t.byteIndex i + byteIndex (t.drop i) j := by
  rw [byteIndex, List.take_add, bytes_append, List.length_append]
  rfl

theorem byteIndex_take {t : Text} {i j : Nat} (h : i ≤ j) :
    byteIndex (t.take j) i = t.byteIndex i := by
  rw [byteIndex, List.take_take, Nat.min_eq_left h, byteIndex]

theorem byteIndex_lt_iff {t : Text} {i j : Nat} (hj : j ≤ t.length) :
    t.byteIndex i < t.byteIndex j ↔ i < j := by
  refine ⟨fun hlt => ?_, fun hlt => byteIndex_lt hlt hj⟩
  by_contra hle
  exact absurd (byteIndex_mono (t := t) (Nat.le_of_not_lt hle)) (Nat.not_le.mpr hlt)

theorem byteIndex_max (t : Text) (i j : Nat) :
    t.byteIndex (max i j) = max (t.byteIndex i) (t.byteIndex j) :=
  Monotone.map_max fun _ _ => byteIndex_mono

/-! ## 2. Newlines -/

/-- The bytes of the newlines of a text that begins at byte `pos`. -/
def newlineBytes (pos : Nat) : (t : Text) → List Nat
  | [] => []
  | c :: t =>
    if c = '\n' then pos :: newlineBytes (pos + c.utf8Size) t
    else newlineBytes (pos + c.utf8Size) t

theorem newlineBytes_eq_nil_iff {pos : Nat} {t : Text} : newlineBytes pos t = [] ↔ '\n' ∉ t := by
  induction t generalizing pos with
  | nil => exact iff_of_true rfl List.not_mem_nil
  | cons c t ih =>
    rw [newlineBytes, List.mem_cons, not_or]
    by_cases hc : c = '\n'
    · rw [if_pos hc]
      exact iff_of_false (List.cons_ne_nil _ _) fun h => h.1 hc.symm
    · rw [if_neg hc, ih]
      exact (and_iff_right (Ne.symm hc)).symm

/-- Behind the first newline the first line ends. -/
theorem head?_newlineBytes (pos : Nat) (t : Text) :
    ((newlineBytes pos t).head?.map (· + 1)).getD (pos + t.bytes.length)
      = pos + t.byteIndex t.firstLineLength := by
  induction t generalizing pos with
  | nil => rfl
  | cons c t ih =>
    rw [newlineBytes, firstLineLength]
    by_cases hc : c = '\n'
    · subst hc
      rw [if_pos rfl, if_pos rfl, byteIndex_cons_succ]
      rfl
    · rw [if_neg hc, if_neg hc, byteIndex_cons_succ, length_bytes_cons, ← Nat.add_assoc, ih,
        Nat.add_assoc]

/-- Behind the last newline the complete lines end. -/
theorem getLast?_newlineBytes (pos : Nat) (t : Text) :
    ((newlineBytes pos t).getLast?.map (· + 1)).getD pos = pos + t.byteIndex t.terminatedLength := by
  induction t generalizing pos with
  | nil => rfl
  | cons c t ih =>
    have hrest := ih (pos + c.utf8Size)
    rw [newlineBytes]
    by_cases hnil : newlineBytes (pos + c.utf8Size) t = []
    · -- no newline follows, so `c` is the last one or there is none
      have hzero := terminatedLength_eq_zero_iff.mpr (newlineBytes_eq_nil_iff.mp hnil)
      rw [hnil, terminatedLength, hzero]
      by_cases hc : c = '\n'
      · subst hc
        rfl
      · rw [if_neg hc, if_neg hc]
        rfl
    · obtain ⟨b, bs, hcons⟩ := List.exists_cons_of_ne_nil hnil
      have hpos : 0 < terminatedLength t :=
        Nat.pos_of_ne_zero fun hzero =>
          hnil (newlineBytes_eq_nil_iff.mpr (terminatedLength_eq_zero_iff.mp hzero))
      have hlast : (if c = '\n' then pos :: newlineBytes (pos + c.utf8Size) t
          else newlineBytes (pos + c.utf8Size) t).getLast?
          = (newlineBytes (pos + c.utf8Size) t).getLast? := by
        split
        · rw [hcons, List.getLast?_cons_cons]
        · rfl
      rw [hlast, terminatedLength_cons_of_pos c hpos, byteIndex_cons_succ, ← Nat.add_assoc, ← hrest,
        hcons, List.getLast?_cons]
      rfl

/-! ## 3. The last lines -/

/-- The byte where the last `lines` of the lines before byte `start` begin.  Each of them begins
behind the last newline before the one that ends it. -/
def tailByteFrom? (t : Text) : (lines start : Nat) → Option Nat
  | 0, start => some start
  | lines + 1, start =>
    if start = 0 then some 0
    else (t.cutAt? (start - 1)).bind fun p =>
      tailByteFrom? t lines (((newlineBytes 0 p.1).getLast?.map (· + 1)).getD 0)

/-- The byte where the last lines of a newline-terminated text begin; none if a cut on the way
there is inside a character. -/
def tailByte? (t : Text) (lines : Nat) : Option Nat := t.tailByteFrom? lines t.bytes.length

theorem reverse_take_terminatedLength (t : Text) :
    (t.take t.terminatedLength).reverse = t.reverse.dropWhile (· ≠ '\n') := by
  induction t using List.reverseRecOn with
  | nil => rfl
  | append_singleton t c ih =>
    rw [List.reverse_append, List.reverse_singleton, List.singleton_append]
    by_cases hc : c = '\n'
    · subst hc
      have hall : terminatedLength (t ++ ['\n']) = (t ++ ['\n']).length := terminated_append_newline t
      rw [hall, List.take_length, List.dropWhile_cons_of_neg (by simp)]
      simp
    · have hzero : terminatedLength [c] = 0 := by simp [terminatedLength, hc]
      rw [terminatedLength_append_of_zero t hzero, List.dropWhile_cons_of_pos (by simp [hc]), ← ih,
        List.take_append_of_le_length (terminatedLength_le t)]

/-- The last lines but one begin where the last of those before it do. -/
theorem tailStart_append_newline (t : Text) (n : Nat) :
    tailStart (t ++ ['\n']) (n + 1) = tailStart (t.take t.terminatedLength) n := by
  unfold tailStart
  rw [reverse_take_terminatedLength, List.reverse_append]
  rfl

theorem byteIndex_succ_of_newline {t : Text} {i : Nat} (h : t[i]? = some '\n') :
    t.byteIndex (i + 1) = t.byteIndex i + 1 := by
  rw [byteIndex, List.take_add_one, h, bytes_append, List.length_append]
  rfl

theorem tailByteFrom?_eq {t : Text} {k : Nat} (hk : k ≤ t.length) (ht : Terminated (t.take k))
    (n : Nat) : t.tailByteFrom? n (t.byteIndex k) = some (t.byteIndex (tailStart (t.take k) n)) := by
  induction n generalizing k with
  | zero =>
    rw [tailByteFrom?, tailStart_zero, List.length_take, Nat.min_eq_left hk]
  | succ n ih =>
    cases k with
    | zero =>
      rw [byteIndex_zero, tailByteFrom?, if_pos rfl]
      rfl
    | succ k =>
      -- the cut is in front of the newline at `k`
      have hnewline : t[k]? = some '\n' :=
        ((terminated_take_iff hk).mp ht).resolve_left (Nat.succ_ne_zero k)
      have htake : t.take (k + 1) = t.take k ++ ['\n'] := by
        rw [List.take_add_one, hnewline]
        rfl
      have hle := terminatedLength_take_le t k
      have hlast := getLast?_newlineBytes 0 (t.take k)
      rw [Nat.zero_add, byteIndex_take hle] at hlast
      have hrest := ih (k := terminatedLength (t.take k)) (by omega)
        (terminated_take_terminatedLength_take t k)
      rw [byteIndex_succ_of_newline hnewline, tailByteFrom?, if_neg (Nat.succ_ne_zero _),
        Nat.add_sub_cancel, cutAt?_byteIndex, Option.bind_some, hlast, hrest, htake,
        tailStart_append_newline, List.take_take, Nat.min_eq_left hle]

/-- Every cut on the way to the last lines can be made, and leads to the byte at which they
begin. -/
theorem tailByte?_eq {t : Text} (ht : Terminated t) (n : Nat) :
    t.tailByte? n = some (t.byteIndex (t.tailStart n)) := by
  have h := tailByteFrom?_eq (t := t) (Nat.le_refl t.length) (by rwa [List.take_length]) n
  rwa [byteIndex_of_le (Nat.le_refl _), List.take_length] at h

theorem count_dropWhile_newline (rev : Text) :
    (rev.dropWhile (· ≠ '\n')).count '\n' = rev.count '\n' := by
  induction rev with
  | nil => rfl
  | cons c rev ih =>
    by_cases hc : c = '\n'
    · rw [List.dropWhile_cons_of_neg (by simp [hc])]
    · rw [List.dropWhile_cons_of_pos (by simp [hc]), ih, List.count_cons_of_ne hc]

theorem count_dropLastLines {rev : Text} (h : rev = [] ∨ rev.head? = some '\n') (n : Nat) :
    (dropLastLines n rev).count '\n' = rev.count '\n' - n := by
  induction n generalizing rev with
  | zero => rfl
  | succ n ih =>
    cases rev with
    | nil => exact (Nat.zero_sub _).symm
    | cons c rev =>
      obtain rfl : c = '\n' := by simpa using h
      have hhead : rev.dropWhile (· ≠ '\n') = []
          ∨ (rev.dropWhile (· ≠ '\n')).head? = some '\n' := dropLastLines_head (n := 1) h
      rw [dropLastLines, ih hhead, count_dropWhile_newline, List.count_cons_self]
      omega

/-- The last lines of a text are as many as are asked for, or all that there are. -/
theorem count_drop_tailStart {t : Text} (ht : Terminated t) (n : Nat) :
    (t.drop (t.tailStart n)).count '\n' = min n (t.count '\n') := by
  have hfront : (t.take (t.tailStart n)).count '\n' = t.count '\n' - n := by
    rw [take_tailStart, List.count_reverse, count_dropLastLines (reverse_of_terminated ht),
      List.count_reverse]
  have hsplit : (t.take (t.tailStart n)).count '\n' + (t.drop (t.tailStart n)).count '\n'
      = t.count '\n' := by
    rw [← List.count_append, List.take_append_drop]
  omega

theorem tailStart_eq_zero {t : Text} (ht : Terminated t) {n : Nat} (h : t.count '\n' ≤ n) :
    t.tailStart n = 0 := by
  -- no newline is left in front of the last lines, so nothing is
  have hfront : (t.take (t.tailStart n)).count '\n' = 0 := by
    rw [take_tailStart, List.count_reverse, count_dropLastLines (reverse_of_terminated ht),
      List.count_reverse]
    omega
  rcases terminated_iff.mp (terminated_take_tailStart ht n) with hnil | hlast
  · have hlen := congrArg List.length hnil
    rw [List.length_take, Nat.min_eq_left (tailStart_le t n)] at hlen
    exact hlen
  · exact absurd (List.mem_of_getLast? hlast) (List.count_eq_zero.mp hfront)

/-! ## 4. The end of a line -/

/-- The byte at which the line of the byte before `stop` ends; none if `stop` is inside a
character. -/
def lineEndByte? (t : Text) (stop : Nat) : Option Nat :=
  if stop = 0 then some 0
  else (t.cutAt? stop).map fun p =>
    if p.1.getLast? = some '\n' then stop
    else ((newlineBytes stop p.2).head?.map (· + 1)).getD t.bytes.length

theorem lineEndByte?_eq {t : Text} {stop : Nat} (h : stop ≤ t.length) :
    t.lineEndByte? (t.byteIndex stop) = some (t.byteIndex (t.lineEndAfter stop)) := by
  rcases Nat.eq_zero_or_pos stop with rfl | hpos
  · rfl
  · have hbyte : t.byteIndex stop ≠ 0 := Nat.ne_of_gt (byteIndex_lt hpos h)
    have hlen : t.bytes.length = t.byteIndex stop + (bytes (t.drop stop)).length := by
      rw [byteIndex, ← List.length_append, ← bytes_append, List.take_append_drop]
    rw [lineEndByte?, if_neg hbyte, cutAt?_byteIndex, Option.map_some, lineEndAfter]
    by_cases hlast : (t.take stop).getLast? = some '\n'
    · rw [if_pos hlast, if_pos (by simp [hlast])]
    · rw [if_neg hlast, if_neg (by simp [hlast]; omega), hlen, head?_newlineBytes, byteIndex_add_drop]

end Text

/-! ## 5. Certain messages -/

namespace Excerpt

/-- The offset up to which the messages of a newline-terminated excerpt are certain, found in its
bytes; none if a cut on the way there is inside a character. -/
def certainOffset? (e : Excerpt) (maxLines : Nat) (ms : List Message) : Option Nat :=
  (e.text.tailByte? (maxLines - 1)).bind fun tail =>
    match (ms.filter fun m => e.byteOffset m.start < tail).getLast? with
    | none => some (e.charOffset tail)
    | some m => (e.text.lineEndByte? (e.byteOffset m.span.stop)).map fun stop =>
        e.charOffset (max tail stop)

theorem certainOffset?_eq {e : Excerpt} (ht : e.text.Terminated) (maxLines : Nat) {ms : List Message}
    (hms : ∀ m ∈ ms, m.span.stop ≤ e.base + e.text.length) :
    e.certainOffset? maxLines ms
      = some (e.base + Parse.certainLength maxLines e.text e.base ms) := by
  have htail := e.text.tailStart_le (maxLines - 1)
  -- messages are before the last lines by their bytes if they are so by their characters
  have hfilter : ms.filter (fun m =>
        e.byteOffset m.start < e.text.byteIndex (e.text.tailStart (maxLines - 1)))
      = ms.filter (fun m => m.start - e.base < e.text.tailStart (maxLines - 1)) := by
    refine List.filter_congr fun m _ => decide_eq_decide.mpr ?_
    rw [e.byteOffset_eq, Text.byteIndex_lt_iff htail]
  unfold certainOffset? Parse.certainLength
  rw [Text.tailByte?_eq ht, Option.bind_some, hfilter]
  dsimp only
  cases hlast : (ms.filter fun m =>
      decide (m.start - e.base < e.text.tailStart (maxLines - 1))).getLast? with
  | none =>
    dsimp only
    rw [e.charOffset_byteIndex htail, Nat.add_comm]
  | some m =>
    have hstop := hms m (List.mem_filter.mp (List.mem_of_getLast? hlast)).1
    have hin : m.span.stop - e.base ≤ e.text.length := by omega
    have hend := Text.lineEndAfter_le hin
    dsimp only
    rw [e.byteOffset_eq, Text.lineEndByte?_eq hin, Option.map_some, ← Text.byteIndex_max,
      e.charOffset_byteIndex (Nat.max_le.mpr ⟨htail, hend⟩), Nat.add_comm]

end Excerpt

end BuildLog
