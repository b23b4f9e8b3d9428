import BuildLog.Proofs.Matches
import BuildLog.Scan

/-!
# Findings — what a text has to say, apart from a file table

The finding of a match is given by its rule, by the text it was found in, by the directory announced
there and by the finding before it.  The candidates of a scan are the matches that findings are taken
from.
-/

namespace BuildLog

/-! ## 1. Findings -/

/-- A message without its entries in the file table. -/
structure Finding where
  span : Span
  hyperlink : Span
  severity : Severity
  rule : String
  location : TextLocation
  highlights : List Highlight
deriving Repr, DecidableEq

/-- A file as a message names it. -/
structure Origin where
  filename : String
  directory : Option Path
deriving Repr, DecidableEq

namespace Finding

def start (f : Finding) : Nat := f.span.start

def origin (f : Finding) : Origin := ⟨f.location.filename, f.location.directory⟩

def labelledSpan (f : Finding) : LabelledSpan :=
  ⟨f.hyperlink, ⟨f.severity, f.location.filename, f.location.line, f.location.column⟩⟩

end Finding

/-- What a message says of the log. -/
def Message.finding (m : Message) : Finding :=
  ⟨m.span, m.hyperlink, m.severity, m.rule, m.location, m.highlights⟩

@[simp] theorem Message.start_finding (m : Message) : m.finding.start = m.start := rfl

@[simp] theorem Message.span_finding (m : Message) : m.finding.span = m.span := rfl

@[simp] theorem Message.labelledSpan_finding (m : Message) :
    m.finding.labelledSpan = m.labelledSpan := rfl

def Inherited.origin (i : Inherited) : Origin := ⟨i.filename, i.directory⟩

/-! ## 2. Hits -/

/-- A match of a rule, counted from the start of the log. -/
structure Hit where
  rule : Rule
  found : Found

namespace Hit

def start (h : Hit) : Nat := h.found.start

/-- Puts a hit in order of starts, unless there is one that begins at the same place. -/
def insert (h : Hit) : List Hit → List Hit
  | [] => [h]
  | d :: ds =>
    if h.start < d.start then h :: d :: ds
    else if h.start = d.start then d :: ds
    else d :: insert h ds

/-- Hits in order of their starts; of several that begin at one place, the first counts. -/
def merge (hs : List Hit) : List Hit := hs.foldl (fun acc h => insert h acc) []

/-- The file that a hit names, or else that of the finding before. -/
def origin? (cfg : ScanSettings) (dirAt : Nat → Option Path) (previous : Option Origin)
    (h : Hit) : Option Origin :=
  match (h.rule.file.bind (·.primary h.found)).bind RoleValue.text? with
  | some raw =>
    (Substitution.applyAll cfg.substitutions raw.trim).map fun name =>
      ⟨String.ofList name, dirAt h.start⟩
  | none => previous

/-- The finding of a hit in a file. -/
def findingIn (cfg : ScanSettings) (h : Hit) (o : Origin) : Finding where
  span := h.found.span
  hyperlink := (h.rule.hyperlink.bind h.found.group).getD h.found.span
  severity := h.rule.severity.resolve h.found
  rule := h.rule.name
  location := textLocation cfg h.rule h.found o.filename o.directory
  highlights := h.rule.highlights.filterMap fun r =>
    (h.found.group r.group).map fun s => ⟨s, r.face⟩

def finding? (cfg : ScanSettings) (dirAt : Nat → Option Path) (previous : Option Origin)
    (h : Hit) : Option Finding :=
  (h.origin? cfg dirAt previous).map (h.findingIn cfg)

end Hit

/-- The hits of a rule: its matches that are not empty. -/
def Rule.hits (r : Rule) (t : Text) (base : Nat) : List Found :=
  (r.pattern.hits t base).filter fun f => !f.span.isEmpty

/-- The hits of some rules in a text that begins at offset `base`. -/
def RuleSet.hits (s : RuleSet) (t : Text) (base : Nat) : List Hit :=
  Hit.merge (s.rules.flatMap fun r => (r.hits t base).map (Hit.mk r))

/-- The findings of hits in order: those that no finding before has claimed the line of. -/
def findings (cfg : ScanSettings) (dirAt : Nat → Option Path) (lineEnd : Nat → Nat) :
    (claimed : Nat) → (previous : Option Origin) → List Hit → List Finding
  | _, _, [] => []
  | claimed, previous, h :: hs =>
    if h.start < claimed then findings cfg dirAt lineEnd claimed previous hs
    else
      match h.finding? cfg dirAt previous with
      | none => findings cfg dirAt lineEnd claimed previous hs
      | some f => f :: findings cfg dirAt lineEnd (lineEnd f.span.stop) (some f.origin) hs

/-! ## 3. Candidates are hits -/

namespace Found

@[simp] theorem start_ofMatch_shift (input : Array Char) (m : Pattern.Match) (delta : Nat) :
    ((ofMatch input m).shift delta).start = m.span.start + delta := rfl

@[simp] theorem isEmpty_shift (s : Span) (delta : Nat) : (s.shift delta).isEmpty = s.isEmpty := by
  unfold Span.isEmpty Span.shift
  rw [decide_eq_decide]
  exact Nat.add_le_add_iff_right

theorem span_shift {f : Found} (h : (f.group 0).isSome) (delta : Nat) :
    (f.shift delta).span = f.span.shift delta := by
  unfold span
  rw [group_shift]
  obtain ⟨s, hs⟩ := Option.isSome_iff_exists.mp h
  rw [hs]
  rfl

theorem start_shift {f : Found} (h : (f.group 0).isSome) (delta : Nat) :
    (f.shift delta).start = f.start + delta := congrArg Span.start (f.span_shift h delta)

@[simp] theorem primary_shift (f : Found) (delta : Nat) (r : Role) :
    r.primary (f.shift delta) = r.primary f := by
  cases r <;> rfl

@[simp] theorem secondary_shift (f : Found) (delta : Nat) (r : Role) :
    r.secondary (f.shift delta) = r.secondary f := by
  cases r <;> rfl

@[simp] theorem resolve_shift (f : Found) (delta : Nat) (r : SeverityRole) :
    r.resolve (f.shift delta) = r.resolve f := by
  cases r with
  | fixed s => rfl
  | byGroup w i => simp only [SeverityRole.resolve, group_shift, Option.isSome_map]

@[simp] theorem textLocation_shift (cfg : ScanSettings) (rule : Rule) (f : Found) (delta : Nat)
    (filename : String) (directory : Option Path) :
    textLocation cfg rule (f.shift delta) filename directory
      = textLocation cfg rule f filename directory := by
  simp only [textLocation, primary_shift, secondary_shift]

end Found

namespace Candidate

/-- A candidate in a text that begins at offset `base`, as a hit. -/
def hit (input : Array Char) (base : Nat) (c : Candidate) : Hit :=
  ⟨c.rule, (Found.ofMatch input c.found).shift base⟩

variable {input : Array Char} {base : Nat}

@[simp] theorem start_hit (c : Candidate) : (c.hit input base).start = c.start + base := rfl

theorem map_insert (c : Candidate) (ds : List Candidate) :
    (insert c ds).map (hit input base)
      = Hit.insert (c.hit input base) (ds.map (hit input base)) := by
  induction ds with
  | nil => rfl
  | cons d ds ih =>
    rw [insert, List.map_cons, Hit.insert, start_hit, start_hit]
    -- counted from the start of the log, the order of two starts is the same
    rcases Nat.lt_trichotomy c.start d.start with hlt | heq | hgt
    · rw [if_pos hlt, if_pos (Nat.add_lt_add_right hlt base)]
      rfl
    · have hnlt : ¬ c.start + base < d.start + base := by omega
      rw [if_neg (by omega), if_pos heq, if_neg hnlt, if_pos (congrArg (· + base) heq)]
      rfl
    · have hnlt : ¬ c.start + base < d.start + base := by omega
      have hne : ¬ c.start + base = d.start + base := by omega
      rw [if_neg (by omega), if_neg (Nat.ne_of_gt hgt), if_neg hnlt, if_neg hne, List.map_cons, ih]

theorem map_ofRule (t : Text) (base : Nat) (r : Rule) :
    (ofRule t.toArray r).map (hit t.toArray base) = (r.hits t base).map (Hit.mk r) := by
  unfold ofRule Rule.hits Pattern.hits
  rw [List.filter_map, List.map_map, List.map_map]
  congr 1
  apply List.filter_congr
  intro m _
  simp

/-- The candidates of a text are the hits in it. -/
theorem map_all (rules : RuleSet) (t : Text) (base : Nat) :
    (all rules t.toArray).map (hit t.toArray base) = rules.hits t base := by
  have hfold : ∀ (cs acc : List Candidate),
      (cs.foldl (fun acc c => insert c acc) acc).map (hit t.toArray base)
        = (cs.map (hit t.toArray base)).foldl (fun acc h => Hit.insert h acc)
            (acc.map (hit t.toArray base)) := by
    intro cs
    induction cs with
    | nil => exact fun _ => rfl
    | cons c cs ih =>
      intro acc
      rw [List.foldl_cons, ih, map_insert, List.map_cons, List.foldl_cons]
  unfold all RuleSet.hits Hit.merge
  rw [hfold, List.map_flatMap]
  simp only [map_ofRule]
  rfl

end Candidate

end BuildLog
