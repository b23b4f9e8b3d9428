import BuildLog.Proofs.Files
import BuildLog.Proofs.Hits
import BuildLog.Proofs.Trail

/-!
# Scans — what a scan finds is read off the text alone

A match makes entries in the file table, and may ask the trail for its directory.  Whatever the
trail answers, the messages say what the findings of the matches say in the directories that were
answered; a trail that knows its events answers the directory in effect.
-/

namespace BuildLog

/-! ## 1. The state of a scan -/

/-- Two trails that differ at most in what they remember. -/
def DirectoryTrail.SameEvents (t u : DirectoryTrail) : Prop := ∃ memo, u = { t with memo := memo }

namespace DirectoryTrail.SameEvents

variable {t u v : DirectoryTrail}

theorem refl (t : DirectoryTrail) : t.SameEvents t := ⟨t.memo, rfl⟩

theorem trans (h : t.SameEvents u) (h' : u.SameEvents v) : t.SameEvents v := by
  obtain ⟨m, rfl⟩ := h
  obtain ⟨m', rfl⟩ := h'
  exact ⟨m', rfl⟩

theorem stackAt (h : t.SameEvents u) (o : Nat) : u.stackAt o = t.stackAt o := by
  obtain ⟨m, rfl⟩ := h
  rfl

end DirectoryTrail.SameEvents

/-- The directory in effect at an offset. -/
def DirectoryTrail.directoryAt (t : DirectoryTrail) (o : Nat) : Option Path :=
  (t.stackAt o).directory?

/-- The directory that a trail answers for an offset. -/
def DirectoryTrail.answerAt (t : DirectoryTrail) (o : Nat) : Option Path :=
  (t.frameAt o).1.directory?

theorem DirectoryTrail.Sound.answerAt {t : DirectoryTrail} (h : t.Sound) :
    t.answerAt = t.directoryAt := by
  funext o
  rw [DirectoryTrail.answerAt, frameAt_fst h]
  rfl

namespace ScanState

structure Sound (s : ScanState) : Prop where
  trail : s.trail.Sound
  table : s.table.Sound

/-- What a scan may do to its state: the table stays sound, and the trail keeps its events. -/
structure Leads (s u : ScanState) : Prop where
  sound : u.Sound
  sameEvents : s.trail.SameEvents u.trail

theorem Leads.refl {s : ScanState} (h : s.Sound) : s.Leads s := ⟨h, .refl _⟩

theorem Leads.trans {s u v : ScanState} (h : s.Leads u) (h' : u.Leads v) : s.Leads v :=
  ⟨h'.sound, h.sameEvents.trans h'.sameEvents⟩

theorem Leads.directoryAt {s u : ScanState} (h : s.Leads u) :
    u.trail.directoryAt = s.trail.directoryAt := by
  funext o
  rw [DirectoryTrail.directoryAt, h.sameEvents.stackAt]
  rfl

end ScanState

/-- What a match at an offset may do to the state: the table stays sound, and the trail may be asked
for the offset. -/
structure ScanState.Asks (offset : Nat) (s u : ScanState) : Prop where
  table : u.table.Sound
  trail : u.trail = s.trail ∨ u.trail = (s.trail.frameAt offset).2

theorem ScanState.Asks.leads {offset : Nat} {s u : ScanState} (h : s.Asks offset u) (hs : s.Sound) :
    s.Leads u := by
  rcases h.trail with heq | heq
  · exact ⟨⟨heq ▸ hs.trail, h.table⟩, heq ▸ .refl _⟩
  · exact ⟨⟨heq ▸ hs.trail.frameAt offset, h.table⟩, heq ▸ DirectoryTrail.frameAt_snd s.trail offset⟩

def FileChoice.origin (c : FileChoice) : Origin := ⟨c.filename, c.directory⟩

/-- A file that was chosen has a live entry. -/
structure FileChoice.Good (offset : Nat) (s : ScanState) (c : FileChoice) : Prop where
  live : c.state.table.Live c.file
  asks : s.Asks offset c.state

theorem namedFile_good {s : ScanState} (h : s.table.Sound) (disk : Disk) (rule : Rule)
    (filename : String) (offset : Nat) :
    (namedFile disk rule filename offset s).Good offset s
      ∧ (namedFile disk rule filename offset s).origin = ⟨filename, s.trail.answerAt offset⟩ := by
  unfold namedFile
  dsimp only
  -- whichever entries were dropped before, the name is given a live one
  have htable : ∀ {t : FileTable}, t.Sound →
      (FileChoice.mk (t.intern disk { filename } (s.trail.frameAt offset).1 rule.formats).1 filename
        (s.trail.frameAt offset).1.directory? ⟨(s.trail.frameAt offset).2,
          (t.intern disk { filename } (s.trail.frameAt offset).1 rule.formats).2⟩).Good offset s :=
    fun ht => ⟨FileTable.live_intern ht _ _ _ _, ht.intern _ _ _ _, .inr rfl⟩
  refine ⟨htable ?_, rfl⟩
  split
  · split
    · exact FileTable.Sound.dropFile h _
    · exact h
  · exact h

theorem inheritedFile_good {s : ScanState} (h : s.table.Sound) (disk : Disk) (rule : Rule)
    (previous : Inherited) (offset : Nat) :
    (inheritedFile disk rule previous s).Good offset s
      ∧ (inheritedFile disk rule previous s).origin = previous.origin := by
  unfold inheritedFile
  split
  · rename_i hlive
    exact ⟨⟨hlive, h, .inl rfl⟩, rfl⟩
  · exact ⟨⟨FileTable.live_intern h _ _ _ _, h.intern _ _ _ _, .inl rfl⟩, rfl⟩

/-! ## 2. Messages are findings -/

/-- The spans of a message are those of the match and its groups, counted from the start of the
log. -/
theorem Candidate.spans_of_message? {cfg : ScanSettings} {disk : Disk} {input : Array Char}
    {base : Nat} {previous : Option Inherited} {s s' : ScanState} {c : Candidate} {m : Message}
    (hm : c.message? cfg disk input base previous s = some (m, s')) :
    m.span = c.found.span.shift base
      ∧ m.hyperlink = ((c.rule.hyperlink.bind c.found.group).map (·.shift base)).getD m.span
      ∧ m.highlights = c.rule.highlights.filterMap fun h =>
          (c.found.group h.group).map fun s => ⟨s.shift base, h.face⟩ := by
  unfold message? at hm
  dsimp only at hm
  split at hm
  · cases hm
  · split at hm
    · cases hm
    · cases hm
      exact ⟨rfl, rfl, rfl⟩

section Scan

variable (cfg : ScanSettings) (disk : Disk) (input : Array Char) (base : Nat)

/-- The file that a scan chooses is the one that the text names. -/
theorem chooseFile_spec {s : ScanState} (h : s.table.Sound) (previous : Option Inherited)
    (c : Candidate) :
    (chooseFile cfg disk c.rule (.ofMatch input c.found) (c.start + base) previous s).map
        FileChoice.origin
      = (c.hit input base).origin? cfg s.trail.answerAt (previous.map Inherited.origin)
    ∧ ∀ choice ∈ chooseFile cfg disk c.rule (.ofMatch input c.found) (c.start + base) previous s,
        choice.Good (c.start + base) s := by
  have hprimary : (c.rule.file.bind (·.primary (.ofMatch input c.found)))
      = c.rule.file.bind (·.primary (c.hit input base).found) := by
    simp only [Candidate.hit, Found.primary_shift]
  unfold chooseFile Hit.origin?
  rw [hprimary]
  have hrule : (c.hit input base).rule = c.rule := rfl
  rw [hrule]
  -- either the match names a file, or that of the message before it counts
  cases (c.rule.file.bind (·.primary (c.hit input base).found)).bind RoleValue.text? with
  | some raw =>
    dsimp only
    constructor
    · rw [Option.map_map]
      exact congrArg (Option.map · _) (funext fun name =>
        (namedFile_good h disk c.rule (String.ofList name) (c.start + base)).2)
    · intro choice hc
      obtain ⟨name, -, rfl⟩ := Option.map_eq_some_iff.mp hc
      exact (namedFile_good h disk c.rule (String.ofList name) (c.start + base)).1
  | none =>
    dsimp only
    constructor
    · rw [Option.map_map]
      exact congrArg (Option.map · _) (funext fun p =>
        (inheritedFile_good h disk c.rule p (c.start + base)).2)
    · intro choice hc
      obtain ⟨p, -, rfl⟩ := Option.map_eq_some_iff.mp hc
      exact (inheritedFile_good h disk c.rule p (c.start + base)).1

/-- The message of a candidate is there if and only if the hit has a finding, and says what the
finding says. -/
theorem message?_spec {s : ScanState} (h : s.table.Sound) (previous : Option Inherited)
    (c : Candidate) :
    (c.message? cfg disk input base previous s).map (·.1.finding)
      = (c.hit input base).finding? cfg s.trail.answerAt (previous.map Inherited.origin)
    ∧ ∀ r ∈ c.message? cfg disk input base previous s, s.Asks (c.start + base) r.2 := by
  obtain ⟨horigin, hgood⟩ := chooseFile_spec cfg disk input base h previous c
  have hstart : (c.found.span.shift base).start = c.start + base := rfl
  unfold Candidate.message? Hit.finding?
  dsimp only
  rw [← horigin, hstart]
  cases hc : chooseFile cfg disk c.rule (.ofMatch input c.found) (c.start + base) previous s with
  | none =>
    simp only [Option.map_none, Option.mem_def, reduceCtorEq, false_implies, implies_true, and_self]
  | some choice =>
    obtain ⟨hlive, hasks⟩ := hgood choice hc
    -- the entry is live, so its places can be made and no message is lost
    obtain ⟨place, endPlace, table, hplaces, htable⟩ := placesOf_of_live hlive
      (textLocation cfg c.rule (.ofMatch input c.found) choice.filename choice.directory)
    dsimp only
    rw [hplaces]
    constructor
    · simp only [Option.map_some, Option.some.injEq]
      simp only [Message.finding, Hit.findingIn, Candidate.hit, Found.resolve_shift,
        Found.textLocation_shift, Found.group_shift, Found.span_ofMatch_shift, FileChoice.origin,
        Finding.mk.injEq, true_and, Option.map_map]
      refine ⟨?_, rfl⟩
      congr 1
      cases c.rule.hyperlink with
      | none => rfl
      | some g => rfl
    · intro r hr
      rw [← Option.some.inj hr]
      exact ⟨(htable hasks.table).retain _, hasks.trail⟩

/-- What candidates make of a state is what is found in the directories that its trail answers.  If
the trail is sound, these are the directories in effect. -/
theorem scanCandidates_spec {s : ScanState} (h : s.table.Sound) (text : Text) (claimed : Nat)
    (previous : Option Inherited) {cs : List Candidate} (hcs : cs.Pairwise (·.start < ·.start)) :
    ∃ dirAt, (scanCandidates cfg disk text input base claimed previous s cs).1.map Message.finding
        = findings cfg dirAt (fun stop => base + text.lineEndAfter (stop - base)) (base + claimed)
            (previous.map Inherited.origin) (cs.map (Candidate.hit input base))
      ∧ (s.trail.Sound → ∀ c ∈ cs,
        dirAt (c.start + base) = s.trail.directoryAt (c.start + base)) := by
  induction cs generalizing claimed previous s with
  | nil => exact ⟨fun _ => none, rfl, fun _ c hc => absurd hc List.not_mem_nil⟩
  | cons c cs ih =>
    obtain ⟨hlater, hcs⟩ := List.pairwise_cons.mp hcs
    obtain ⟨hfinding, hasks⟩ := message?_spec cfg disk input base h previous c
    -- the directory answered here, and those that the later matches are in
    let dirsWith (dirAt : Nat → Option Path) (o : Nat) : Option Path :=
      if o = c.start + base then s.trail.answerAt o else dirAt o
    have hhere : ∀ dirAt, (c.hit input base).finding? cfg (dirsWith dirAt)
        (previous.map Inherited.origin)
        = (c.message? cfg disk input base previous s).map (·.1.finding) := by
      intro dirAt
      have hdir : dirsWith dirAt (c.hit input base).start
          = s.trail.answerAt (c.hit input base).start := if_pos rfl
      rw [hfinding]
      unfold Hit.finding? Hit.origin?
      rw [hdir]
    have hne : ∀ d ∈ cs, d.start + base ≠ c.start + base := by
      intro d hd
      have := hlater d hd
      omega
    have hrest : ∀ dirAt claimed' previous',
        findings cfg (dirsWith dirAt) (fun stop => base + text.lineEndAfter (stop - base)) claimed'
            previous' (cs.map (Candidate.hit input base))
          = findings cfg dirAt (fun stop => base + text.lineEndAfter (stop - base)) claimed'
            previous' (cs.map (Candidate.hit input base)) := by
      intro dirAt claimed' previous'
      refine findings_congr claimed' previous' (fun k hk => if_neg ?_) fun _ _ => rfl
      obtain ⟨d, hd, rfl⟩ := List.mem_map.mp hk
      exact hne d hd
    have hdirs : ∀ dirAt, (s.trail.Sound → ∀ d ∈ cs,
          dirAt (d.start + base) = s.trail.directoryAt (d.start + base)) →
        s.trail.Sound → ∀ d ∈ c :: cs,
          dirsWith dirAt (d.start + base) = s.trail.directoryAt (d.start + base) := by
      intro dirAt hdirAt htrail d hd
      rcases List.mem_cons.mp hd with rfl | hd
      · rw [← htrail.answerAt]
        exact if_pos rfl
      · rw [← hdirAt htrail d hd]
        exact if_neg (hne d hd)
    by_cases hlt : c.start < claimed
    · obtain ⟨dirAt, heq, hdirAt⟩ := ih h claimed previous hcs
      refine ⟨dirsWith dirAt, ?_, hdirs dirAt hdirAt⟩
      rw [List.map_cons, findings, Candidate.start_hit, if_pos (by omega), hrest,
        scanCandidates, if_pos hlt]
      exact heq
    · cases hm : c.message? cfg disk input base previous s with
      | none =>
        obtain ⟨dirAt, heq, hdirAt⟩ := ih h claimed previous hcs
        refine ⟨dirsWith dirAt, ?_, hdirs dirAt hdirAt⟩
        rw [List.map_cons, findings, Candidate.start_hit, if_neg (by omega), hhere, hm, hrest,
          scanCandidates, if_neg hlt, hm]
        exact heq
      | some r =>
        obtain ⟨m, u⟩ := r
        have hu := hasks _ hm
        obtain ⟨dirAt, heq, hdirAt⟩ := ih hu.table (text.lineEndAfter c.found.span.stop)
          (some (.ofMessage m)) hcs
        refine ⟨dirsWith dirAt, ?_, hdirs dirAt fun htrail d hd => ?_⟩
        · -- the line that the message claims is that of the candidate
          have hspan := (Candidate.spans_of_message? hm).1
          have hclaim : base + text.lineEndAfter (m.finding.span.stop - base)
              = base + text.lineEndAfter c.found.span.stop := by
            rw [Message.span_finding, hspan, Span.shift, Nat.add_sub_cancel]
          rw [List.map_cons, findings, Candidate.start_hit, if_neg (by omega), hhere, hm,
            scanCandidates, if_neg hlt, hm]
          dsimp only [Option.map_some]
          rw [hrest, hclaim, List.map_cons, heq]
          rfl
        · have hleads := hu.leads ⟨htrail, h⟩
          rw [hdirAt hleads.sound.trail d hd, hleads.directoryAt]

theorem leads_scanCandidates {s : ScanState} (h : s.Sound) (text : Text) (claimed : Nat)
    (previous : Option Inherited) (cs : List Candidate) :
    s.Leads (scanCandidates cfg disk text input base claimed previous s cs).2 := by
  induction cs generalizing claimed previous s with
  | nil => exact .refl h
  | cons c cs ih =>
    rw [scanCandidates]
    split
    · exact ih h claimed previous
    · obtain ⟨-, hasks⟩ := message?_spec cfg disk input base h.table previous c
      split
      · exact ih h claimed previous
      · rename_i m u hm
        have hu := (hasks _ hm).leads h
        exact hu.trans (ih hu.sound _ _)

/-- What a scan of a text finds is read off the matches of its rules, in the directories that the
trail answers. -/
theorem exists_scan_eq {s : ScanState} (h : s.table.Sound) (text : Text)
    (previous : Option Inherited) :
    ∃ dirAt, (scan cfg disk text base previous s).1.map Message.finding
        = findings cfg dirAt (fun stop => base + text.lineEndAfter (stop - base)) base
            (previous.map Inherited.origin) (cfg.rules.hits text base)
      ∧ (s.trail.Sound → ∀ k ∈ cfg.rules.hits text base,
        dirAt k.start = s.trail.directoryAt k.start) := by
  have hin := cfg.rules.hits_inOrder text base
  rw [← Candidate.map_all, Hit.InOrder, List.pairwise_map] at hin
  have hcs : (Candidate.all cfg.rules text.toArray).Pairwise (·.start < ·.start) :=
    hin.imp fun hlt => Nat.lt_of_add_lt_add_right hlt
  rw [← Candidate.map_all]
  obtain ⟨dirAt, heq, hdirAt⟩ := scanCandidates_spec cfg disk text.toArray base h text 0 previous hcs
  refine ⟨dirAt, heq, fun htrail k hk => ?_⟩
  obtain ⟨c, hc, rfl⟩ := List.mem_map.mp hk
  exact hdirAt htrail c hc

/-- A scan finds what the text says, and leaves a state as good as the one before. -/
theorem scan_spec {s : ScanState} (h : s.Sound) (text : Text) (previous : Option Inherited) :
    (scan cfg disk text base previous s).1.map Message.finding
      = findings cfg s.trail.directoryAt (fun stop => base + text.lineEndAfter (stop - base)) base
          (previous.map Inherited.origin) (cfg.rules.hits text base)
    ∧ s.Leads (scan cfg disk text base previous s).2 := by
  obtain ⟨dirAt, heq, hdirAt⟩ := exists_scan_eq cfg disk base h.table text previous
  refine ⟨?_, leads_scanCandidates cfg disk text.toArray base h text 0 previous _⟩
  rw [heq]
  exact findings_congr base _ (hdirAt h.trail) fun _ _ => rfl

end Scan

end BuildLog
