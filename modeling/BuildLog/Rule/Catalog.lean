import BuildLog.Rule.Set

/-!
# The catalog — message grammars of known tools, in order of priority

Where a log line could be read by several tools' grammars, the order decides.  Patterns have no
back-references and no looking ahead or behind, so some grammars admit a little more than their
tool prints.
-/

namespace BuildLog

/-- The roles of a rule, apart from its name and pattern. -/
structure Roles where
  file : Option Role := none
  line : Option Role := none
  column : Option Role := none
  severity : SeverityRole := .fixed .error
  hyperlink : Option Nat := none
  highlights : List HighlightRole := []
  flushes : Bool := false
  lines : Nat := 1
deriving Repr, DecidableEq

/-- One grammar of the catalog. -/
structure Grammar where
  name : String
  pattern : String
  roles : Roles
deriving Repr, DecidableEq

/-- The grammars, the one with the highest priority first. -/
def catalog : List Grammar := [
  ⟨"absoft",
    "^(?:[Ee]rror on |[Ww]arning on( ))?[Ll]ine[ \\t]+([0-9]+)[ \\t]+of[ \\t]+\"?([a-zA-Z]?:?[^\":\\n]+)\"?:",
    { file := some (.group 3), line := some (.group 2), severity := .byGroup (some 1) none }⟩,
  ⟨"ada",
    "(warning: .*)? at ([^ \\n]+):([0-9]+)$",
    { file := some (.group 2), line := some (.group 3), severity := .byGroup (some 1) none }⟩,
  ⟨"aix",
    " in line ([0-9]+) of file ([^ \\n]+[^. \\n])\\.? ",
    { file := some (.group 2), line := some (.group 1) }⟩,
  ⟨"ant",
    "^[ \\t]*(?:\\[[^\\] \\n]+\\][ \\t]*)\x7b1,2\x7d((?:[A-Za-z]:)?[^: \\n]+):([0-9]+):(?:([0-9]+):([0-9]+):([0-9]+):)?( warning)?",
    { file := some (.group 1), line := some (.range 2 4), column := some (.range 3 5),
      severity := .byGroup (some 6) none }⟩,
  ⟨"bash",
    "^([^: \\n\\t]+): line ([0-9]+):",
    { file := some (.group 1), line := some (.group 2) }⟩,
  ⟨"borland",
    "^(?:Error|Warnin(g)) (?:[FEW][0-9]+ )?([a-zA-Z]?:?[^:( \\t\\n]+) ([0-9]+)(?:[) \\t]|:[^0-9\\n])",
    { file := some (.group 2), line := some (.group 3), severity := .byGroup (some 1) none }⟩,
  ⟨"python-tracebacks-and-caml",
    "^[ \\t]*File \"?([^,\" \\n\\t<>]+)\"?, lines? ([0-9]+)-?([0-9]+)?(?:$|,(?: characters? ([0-9]+)-?([0-9]+)?:)?([ \\n]Warning(?: [0-9]+)?:)?)",
    { file := some (.group 1), line := some (.range 2 3), column := some (.range 4 5),
      severity := .byGroup (some 6) none, lines := 2 }⟩,
  ⟨"cmake",
    "^CMake (?:Error|(Warning)) at (.*):([1-9][0-9]*) \\([^)]+\\):$",
    { file := some (.group 2), line := some (.group 3), severity := .byGroup (some 1) none }⟩,
  ⟨"cmake-info",
    "^  (?: \\*)?(.*):([1-9][0-9]*) \\([^)]+\\)$",
    { file := some (.group 1), line := some (.group 2), severity := .fixed .info }⟩,
  ⟨"comma",
    "^\"([^,\" \\n\\t]+)\", line ([0-9]+)(?:[(. pos]+([0-9]+)\\)?)?[:.,; (-]( warning:|[-0-9 ]*\\(W\\))?",
    { file := some (.group 1), line := some (.group 2), column := some (.group 3),
      severity := .byGroup (some 4) none }⟩,
  ⟨"cucumber",
    "(?:^cucumber(?: -p [^[:space:]]+)?|#) ([^(\\n].*):([1-9][0-9]*)",
    { file := some (.group 1), line := some (.group 2) }⟩,
  ⟨"msft",
    "^ *([0-9]+>)?((?:[a-zA-Z]:)?[^ :(\\t\\n][^:(\\t\\n]*)\\(([0-9]+)(?:,([0-9]+))?\\) ?: (?:see declaration|(?:warnin(g)|[a-z ]+) C[0-9]+:)",
    { file := some (.group 2), line := some (.group 3), column := some (.group 4),
      severity := .byGroup (some 5) none }⟩,
  ⟨"edg-1",
    "^([^ \\n]+)\\(([0-9]+)\\): (?:error|warnin(g)|remar(k))",
    { file := some (.group 1), line := some (.group 2),
      severity := .byGroup (some 3) (some 4) }⟩,
  ⟨"edg-2",
    "at line ([0-9]+) of \"([^ \\n]+)\"$",
    { file := some (.group 2), line := some (.group 1), severity := .fixed .info }⟩,
  ⟨"epc",
    "^Error [0-9]+ at \\(([0-9]+):([^)\\n]+)\\)",
    { file := some (.group 2), line := some (.group 1) }⟩,
  ⟨"ftnchek",
    "(^Warning .*)? line[ \\n]([0-9]+)[ \\n](?:col ([0-9]+)[ \\n])?file ([^ :;\\n]+)",
    { file := some (.group 4), line := some (.group 2), column := some (.group 3),
      severity := .byGroup (some 1) none, lines := 4 }⟩,
  ⟨"iar",
    "^\"(.*)\",([0-9]+)\\s+(?:Error|Warnin(g))\\[[0-9]+\\]:",
    { file := some (.group 1), line := some (.group 2), severity := .byGroup (some 3) none }⟩,
  ⟨"ibm",
    "^([^( \\n\\t]+)\\(([0-9]+):([0-9]+)\\) : (?:warnin(g)|informationa(l))?",
    { file := some (.group 1), line := some (.group 2), column := some (.group 3),
      severity := .byGroup (some 4) (some 5) }⟩,
  ⟨"irix",
    "^[-[:alnum:]_/ ]+: (?:(?:[sS]evere|[eE]rror|[wW]arnin(g)|[iI]nf(o))[0-9 ]*: )?([^,\" \\n\\t]+)(?:, line|:) ([0-9]+):",
    { file := some (.group 3), line := some (.group 4),
      severity := .byGroup (some 1) (some 2) }⟩,
  ⟨"java",
    "^(?:[ \\t]+at |==[0-9]+== +(?:at|b(y))).+\\(([^()\\n]+):([0-9]+)\\)$",
    { file := some (.group 2), line := some (.group 3), severity := .byGroup (some 1) none }⟩,
  ⟨"javac",
    "^((?:[A-Za-z]:)?[^:\\n]+\\.java):([0-9]+): (?:(warning)|error): [^\\n]*\\n[^\\n]*\\n([ \\t]*)\\^",
    { file := some (.group 1), line := some (.group 2), column := some (.widthOf 4),
      severity := .byGroup (some 3) none, hyperlink := some 1, lines := 3 }⟩,
  ⟨"jikes-file",
    "^(?:Found|Issued) .* compiling \"(.+)\":$",
    { file := some (.group 1), severity := .fixed .info }⟩,
  ⟨"maven",
    "^(?:\\[(?:ERROR|(WARNING)|(INFO))\\] )?([^\\n \\[](?:[^\\n :]| [^\\n/-]|:[^\\n \\[])*):\\[([[:digit:]]+),([[:digit:]]+)\\] ",
    { file := some (.group 3), line := some (.group 4), column := some (.group 5),
      severity := .byGroup (some 1) (some 2) }⟩,
  ⟨"jikes-line",
    "^ *([0-9]+)\\.[ \\t]+.*\\n +(<-*>\\n\\*\\*\\* (?:Error|Warnin(g)))",
    { line := some (.group 1), severity := .byGroup (some 3) none, hyperlink := some 2,
      lines := 3 }⟩,
  ⟨"clang-include",
    "^In file included from ([^\\n:]+):([0-9]+):$",
    { file := some (.group 1), line := some (.group 2), severity := .fixed .info,
      hyperlink := some 1 }⟩,
  ⟨"gcc-include",
    "^(?:In file included |                 |\\t)from ([0-9]*[^0-9\\n](?:[^\\n :]| [^-/\\n]|:[^ \\n])*?):([0-9]+)(?::([0-9]+))?(?:(:)|(,|$))?",
    { file := some (.group 1), line := some (.group 2), column := some (.group 3),
      severity := .byGroup (some 4) (some 5) }⟩,
  ⟨"ruby-Test::Unit",
    "^    [\\[ ]?([^ (].*):([1-9][0-9]*)(\\])?:in ",
    { file := some (.group 1), line := some (.group 2) }⟩,
  ⟨"gmake",
    ": \\*\\*\\* \\[((.+?):([0-9]+): .+)\\]",
    { file := some (.group 2), line := some (.group 3), severity := .fixed .info,
      hyperlink := some 1 }⟩,
  ⟨"rust",
    "^(?:(error)|(warning))(?:\\[[A-Z0-9]+\\])?:[^\\n]*\\n[ \\t]*--> ([^:\\n]+):([[:digit:]]+):([[:digit:]]+)",
    { file := some (.group 3), line := some (.group 4), column := some (.group 5),
      severity := .byGroup (some 2) none, hyperlink := some 3, lines := 2,
      highlights := [⟨1, "error"⟩, ⟨2, "warning"⟩] }⟩,
  ⟨"gnu",
    "^(?:[[:alpha:]][-[:alnum:].]+: ?|[ \\t]+(?:in |from ))?([0-9]*[^0-9\\n *\\[](?:[^\\n :]| [^-/\\n]|:[^ \\n])*?): ?([0-9]+)(?:[.:]([0-9]+)(?:-(?:([0-9]+)\\.)?([0-9]+))?)?:(?: *(warning|[Ww]arning|W:)| *([Ii]nfo(?:rmation(?:al)?)?|I:|instantiated from|required from|[Nn]ote)| *[Ee]rror|[0-9]?(?:[^0-9\\n]|$)|[0-9][0-9][0-9])",
    { file := some (.group 1), line := some (.range 2 4), column := some (.range 3 5),
      severity := .byGroup (some 6) (some 7) }⟩,
  ⟨"lcc",
    "^(?:E|(W)), ([^(\\n]+)\\(([0-9]+),[ \\t]*([0-9]+)",
    { file := some (.group 2), line := some (.group 3), column := some (.group 4),
      severity := .byGroup (some 1) none }⟩,
  ⟨"makepp",
    "^makepp(?:(?:: warning(:).*?|(: Scanning|: [LR]e?l?oading makefile|: Imported|log:.*?) |: .*?)`((\\S+?)(?::([0-9]+))?)['(])",
    { file := some (.group 4), line := some (.group 5),
      severity := .byGroup (some 1) (some 2), hyperlink := some 3 }⟩,
  ⟨"mips-1",
    " \\(([0-9]+)\\) in ([^ \\n]+)",
    { file := some (.group 2), line := some (.group 1) }⟩,
  ⟨"mips-2",
    " in ([^()\\n ]+)\\(([0-9]+)\\)$",
    { file := some (.group 1), line := some (.group 2) }⟩,
  ⟨"omake",
    "^\\*\\*\\* omake: file (.*) changed",
    { file := some (.group 1), severity := .fixed .info, flushes := true }⟩,
  ⟨"oracle",
    "^(?:Semantic error|Error|PCC-[0-9]+:).* line ([0-9]+)(?:(?:,| at)? column ([0-9]+))?(?:,| in| of)? file (.*?):?$",
    { file := some (.group 3), line := some (.group 1), column := some (.group 2) }⟩,
  ⟨"perl",
    " at ([^ \\n]+) line ([0-9]+)(?:[,.]|$| during global destruction\\.$)",
    { file := some (.group 1), line := some (.group 2) }⟩,
  ⟨"php",
    "(?:Parse|Fatal) error: (.*) in (.*) on line ([0-9]+)",
    { file := some (.group 2), line := some (.group 3) }⟩,
  ⟨"rxp",
    "^(?:Error|Warnin(g)):.*\\n.* line ([0-9]+) char ([0-9]+) of file://(.+)",
    { file := some (.group 4), line := some (.group 2), column := some (.group 3),
      severity := .byGroup (some 1) none, lines := 2 }⟩,
  ⟨"sparc-pascal-file",
    "^\\w\\w\\w \\w\\w\\w +[0-3]?[0-9] +[0-2][0-9]:[0-5][0-9]:[0-5][0-9] [12][09][0-9][0-9] +(.*):$",
    { file := some (.group 1), severity := .fixed .info }⟩,
  ⟨"sun",
    ": (?:ERROR|WARNIN(G)|REMAR(K)) (?:[[:alnum:] ]+, )?File = (.+), Line = ([0-9]+)(?:, Column = ([0-9]+))?",
    { file := some (.group 3), line := some (.group 4), column := some (.group 5),
      severity := .byGroup (some 1) (some 2) }⟩,
  ⟨"sun-ada",
    "^([^, \\n\\t]+), line ([0-9]+), char ([0-9]+)[:., (-]",
    { file := some (.group 1), line := some (.group 2), column := some (.group 3) }⟩,
  ⟨"watcom",
    "^[ \\t]*((?:[a-zA-Z]:)?[^ :(\\t\\n][^:(\\t\\n]*)\\(([0-9]+)\\): ?(?:(Error! E[0-9]+)|(Warning! W[0-9]+)):",
    { file := some (.group 1), line := some (.group 2), severity := .byGroup (some 4) none }⟩,
  ⟨"4bsd",
    "(?:^|::  |\\S \\( )(/[^ \\n\\t()]+)\\(([0-9]+)\\)(?:: (warning:)?|$| \\),)",
    { file := some (.group 1), line := some (.group 2), severity := .byGroup (some 3) none }⟩,
  ⟨"gcov-file",
    "^ *-: *(0):Source:(.+)$",
    { file := some (.group 2), line := some (.group 1), severity := .fixed .info }⟩,
  ⟨"gcov-header",
    "^ *-: *(0):(?:Object|Graph|Data|Runs|Programs):.+$",
    { line := some (.group 1), severity := .fixed .info }⟩,
  ⟨"gcov-nomark",
    "^ *-: *([1-9]|[0-9]\x7b2,\x7d):.*$",
    { line := some (.group 1), severity := .fixed .info }⟩,
  ⟨"gcov-called-line",
    "^ *([0-9]+): *([0-9]+):.*$",
    { line := some (.group 2), severity := .fixed .info }⟩,
  ⟨"gcov-never-called",
    "^ *(#####): *([0-9]+):.*$",
    { line := some (.group 2), severity := .fixed .error }⟩,
  ⟨"perl--Pod::Checker",
    "^\\*\\*\\* (?:ERROR|(WARNING)).* (?:at|on) line ([0-9]+) (?:.* )?in file ([^ \\t\\n]+)",
    { file := some (.group 3), line := some (.group 2), severity := .byGroup (some 1) none }⟩,
  ⟨"perl--Test",
    "^# Failed test [0-9]+ in ([^ \\t\\r\\n]+) at line ([0-9]+)",
    { file := some (.group 1), line := some (.group 2) }⟩,
  ⟨"perl--Test2",
    "^(.*NOK.*)?# Test [0-9]+ got:.* \\(([^ \\t\\r\\n]+) at line ([0-9]+)\\)",
    { file := some (.group 2), line := some (.group 3) }⟩,
  ⟨"perl--Test::Harness",
    "^.*NOK.* ([^ \\t\\r\\n]+) at line ([0-9]+)",
    { file := some (.group 1), line := some (.group 2) }⟩,
  ⟨"weblint",
    "^([^ \\t\\r\\n(]+) \\(([0-9]+):([0-9]+)\\) ",
    { file := some (.group 1), line := some (.group 2), column := some (.group 3) }⟩,
  ⟨"guile-file",
    "^In (.+\\..+):\\n",
    { file := some (.group 1), severity := .fixed .info }⟩,
  ⟨"guile-line",
    "^ *([0-9]+): *([0-9]+)",
    { line := some (.group 1), column := some (.group 2) }⟩,
  ⟨"typescript-tsc-plain",
    "^[[:blank:]]*([^(\\r\\n)]+)\\(([0-9]+),([0-9]+)\\):[[:blank:]]+(?:error|(warning)|(info))[[:blank:]]+TS[0-9]+:",
    { file := some (.group 1), line := some (.group 2), column := some (.group 3),
      severity := .byGroup (some 4) (some 5) }⟩,
  ⟨"typescript-tsc-pretty",
    "^([^:\\n]+):([0-9]+):([0-9]+) - (?:error|(warning)|(info)) TS[0-9]+:",
    { file := some (.group 1), line := some (.group 2), column := some (.group 3),
      severity := .byGroup (some 4) (some 5) }⟩,
  ⟨"go-test",
    "^[ \\t]+([^\\n: ]+_test\\.go):([0-9]+): ",
    { file := some (.group 1), line := some (.group 2) }⟩]

def Grammar.rule (g : Grammar) : Except RuleError Rule :=
  match Rule.ofPattern g.name g.pattern with
  | .error e => .error e
  | .ok r =>
    .ok (Rule.withLines { r with
      file := g.roles.file
      line := g.roles.line
      column := g.roles.column
      severity := g.roles.severity
      hyperlink := g.roles.hyperlink
      highlights := g.roles.highlights
      flushes := g.roles.flushes } g.roles.lines)

namespace RuleSet

/-- Names of the catalog's rules, in order of priority. -/
def catalogNames : List String := catalog.map (·.name)

def builtin : Except RuleError RuleSet :=
  match catalog.mapM Grammar.rule with
  | .ok rs => ofRules rs
  | .error e => .error e

end RuleSet

end BuildLog
