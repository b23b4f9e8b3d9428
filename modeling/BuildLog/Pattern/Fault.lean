/-!
# Faults — why a text is no pattern
-/

namespace BuildLog.Pattern

inductive Fault
  | unclosedGroup
  | unopenedGroup
  | unclosedClass
  | nothingToRepeat
  | badCount
  | badRange
  | badEscape
  | backreference
  | lookaround
  | badFlags
  | badGroupName
  | duplicateGroupName
  | unknownProperty
  | notUnicode
  | tooDeep
  | tooLarge
deriving Repr, DecidableEq

def Fault.message : Fault → String
  | .unclosedGroup => "unclosed group"
  | .unopenedGroup => "unopened group"
  | .unclosedClass => "unclosed character class"
  | .nothingToRepeat => "repetition operator missing expression"
  | .badCount => "invalid repetition count"
  | .badRange => "invalid character class range"
  | .badEscape => "unrecognized escape sequence"
  | .backreference => "backreferences are not supported"
  | .lookaround => "look-around is not supported"
  | .badFlags => "invalid flags"
  | .badGroupName => "invalid capture group name"
  | .duplicateGroupName => "duplicate capture group name"
  | .unknownProperty => "Unicode property not found"
  | .notUnicode => "pattern can match invalid UTF-8"
  | .tooDeep => "pattern exceeds nesting limit"
  | .tooLarge => "compiled pattern exceeds size limit"

end BuildLog.Pattern
