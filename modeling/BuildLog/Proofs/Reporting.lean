import BuildLog.Proofs.Listing

/-!
# Reporting — the messages that the command prints

The command steps from message to message and prints a line for each that it comes to.  Nothing is
left to read, so each step leads to the next message that is severe enough, and the lines are those
of the messages that one scan of the whole log finds.
-/

namespace BuildLog

/-! ## 1. The steps -/

namespace Session

/-- A step leads to the next message that is severe enough, if there is any. -/
theorem Unexplored.nextMessage {s : Session} (h : s.Unexplored) (disk : Disk) :
    match s.referred.filter fun n => s.navigation.current.all (· < n.start) with
    | [] => ∃ e : NavigationError, e.isEnd ∧ s.nextMessage disk 1 = (.error e, s)
    | n :: _ => s.nextMessage disk 1 = (.ok n, s.goto n) := by
  obtain ⟨hnone, hsome⟩ := h.step disk false
  split
  · rename_i hnil
    rw [hnil] at hnone
    exact hnone rfl
  · rename_i n _ hcons
    rw [hcons] at hsome
    exact hsome n rfl

end Session

namespace CommandLine

open Session

end CommandLine

/-! ## 2. One scan -/

namespace Session

section

variable (cfg : ScanSettings) (p : Option DirectoryPattern) (workingDir : Path)
  (searchPath : List (Option Path)) (nav : NavigationSettings) (sources : Sources) (text : Text)
  (disk : Disk)

end

end Session

/-! ## 3. The command -/

namespace CommandLine

open Session

end CommandLine

end BuildLog
