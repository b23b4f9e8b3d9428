import BuildLog.Unicode.Letter
import BuildLog.Unicode.Script
import BuildLog.Unicode.Word
import BuildLog.Unicode.Decimal
import BuildLog.Unicode.Blank
import BuildLog.Unicode.CaseFolding
import BuildLog.Unicode.CellWidth
import BuildLog.Unicode.GraphemeBreak
import BuildLog.Text.Basic
import BuildLog.Text.Line
import BuildLog.Text.Grapheme
import BuildLog.Text.Width
import BuildLog.Severity
import BuildLog.Path
import BuildLog.Disk
import BuildLog.Slots
import BuildLog.Pattern.Basic
import BuildLog.Substitution
import BuildLog.Rule.Basic
import BuildLog.Rule.Set
import BuildLog.Rule.Catalog
import BuildLog.Rule.Document
import BuildLog.Directory
import BuildLog.Label
import BuildLog.Transcript
import BuildLog.Sources
import BuildLog.FileTable
import BuildLog.Message
import BuildLog.Scan
import BuildLog.Parse
import BuildLog.Navigation
import BuildLog.Session
import BuildLog.Yaml.Field
import BuildLog.Settings
import BuildLog.CommandLine
import BuildLog.Main
import BuildLog.Proofs.Lines
import BuildLog.Proofs.Matches
import BuildLog.Proofs.Searches
import BuildLog.Proofs.Files
import BuildLog.Proofs.Trail
import BuildLog.Proofs.Findings
import BuildLog.Proofs.Hits
import BuildLog.Proofs.Scans
import BuildLog.Proofs.View
import BuildLog.Proofs.Labels
import BuildLog.Proofs.Reach
import BuildLog.Proofs.Reading
import BuildLog.Proofs.Runs
import BuildLog.Proofs.Flushing
import BuildLog.Proofs.Rereading
import BuildLog.Proofs.Locality
import BuildLog.Proofs.Ordering
import BuildLog.Proofs.Shifting
import BuildLog.Proofs.WholeReading
import BuildLog.Proofs.Streaming
import BuildLog.Proofs.Editing
import BuildLog.Proofs.Letters
import BuildLog.Proofs.Handles
import BuildLog.Proofs.Entries
import BuildLog.Proofs.References
import BuildLog.Proofs.Counting
import BuildLog.Proofs.Sweeping
import BuildLog.Proofs.OneMessage
import BuildLog.Proofs.OpenLine
import BuildLog.Proofs.Standing
import BuildLog.Proofs.Mirroring
import BuildLog.Proofs.Components
import BuildLog.Proofs.Indexes
import BuildLog.Proofs.OneFile
import BuildLog.Proofs.Coalescing
import BuildLog.Proofs.Committed
import BuildLog.Proofs.Resuming
import BuildLog.Proofs.Trimming
import BuildLog.Proofs.Chronicle
import BuildLog.Proofs.Filing
import BuildLog.Proofs.Hops
import BuildLog.Proofs.Yielding
import BuildLog.Proofs.Changes
import BuildLog.Proofs.Lasting
import BuildLog.Proofs.Marks
import BuildLog.Proofs.Going
import BuildLog.Proofs.Naming
import BuildLog.Proofs.Buffers
import BuildLog.Proofs.Links
import BuildLog.Proofs.Arrivals
import BuildLog.Proofs.Opening
import BuildLog.Proofs.Listing
import BuildLog.Proofs.Reporting
import BuildLog.Proofs.Edits
import BuildLog.Proofs.Moving
import BuildLog.Proofs.Attaching
import BuildLog.Proofs.Extents
import BuildLog.Proofs.Footprints
import BuildLog.Proofs.Loading
import BuildLog.Proofs.Overruns
import BuildLog.Proofs.Retracing
import BuildLog.Proofs.Renewal
import BuildLog.Proofs.Excerpts
import BuildLog.Proofs.Following
import BuildLog.Proofs.Markers
import BuildLog.Proofs.Columns
import BuildLog.Proofs.Folding
import BuildLog.Proofs.Dropping
import BuildLog.Proofs.Issuing
import BuildLog.Proofs.Cells
import BuildLog.Proofs.Cuts
import BuildLog.Proofs.Holding
