/-! Thresholds of the log. -/

set_option autoImplicit false

namespace ClaimOperator.Logging

/-- The threshold of the root, and that of the HTTP client libraries, which report every request. -/
structure Thresholds where
  root : Int
  libraries : Int
  deriving DecidableEq, Repr

/-- The libraries are heard below a warning only while debugging. -/
def thresholds (level : Int) : Thresholds := ⟨level, if level ≤ 10 then 10 else 30⟩

end ClaimOperator.Logging
