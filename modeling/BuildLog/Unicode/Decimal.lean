import BuildLog.Unicode.Category

/-!
# Decimal digits
-/

namespace BuildLog.Unicode

/-- The decimal digits of all scripts. -/
def decimal : CharSet := Category.chars .decimalNumber

def isDecimal (c : Char) : Bool := decimal.contains c

end BuildLog.Unicode
