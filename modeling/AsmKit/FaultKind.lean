/-! The kinds of faults that a caller tells apart. -/

namespace AsmKit

/-- What sort of thing went wrong. What is unsupported is refused although it is nobody's fault:
texts that hold more than characters. Faults of the last sort are raised by the executors of
instructions, which name them. -/
inductive FaultKind where
  | configuration
  | unavailable
  | exhausted
  | execution
  | badValue
  | badType
  | tooLarge
  | tooDeep
  | missingMember
  | environment
  | notImplemented
  | unsupported
  | raised (name : String)
  deriving DecidableEq, Repr

end AsmKit
