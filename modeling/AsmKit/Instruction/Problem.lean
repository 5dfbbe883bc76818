/-! What a program can get wrong: problems are answers, not faults. -/

namespace AsmKit

/-- A problem in a line of a program, or in a jump. -/
inductive Problem where
  | repeatedLabel (name : String)
  | noSuchMnemonic (mnemonic : String)
  | wrongCount (mnemonic : String) (expected given : Nat)
  | badOperand (mnemonic operand operandType : String)
  | noSuchLabel (name : String)
  deriving DecidableEq, Repr

namespace Problem

def message : Problem → String
  | .repeatedLabel name => "The label '" ++ name ++ "' was found twice."
  | .noSuchMnemonic mnemonic => "no instruction named " ++ mnemonic
  | .wrongCount mnemonic expected given =>
    mnemonic ++ " expects " ++ toString expected ++ " operand(s), got " ++ toString given
  | .badOperand mnemonic operand operandType =>
    mnemonic ++ ": operand '" ++ operand ++ "' is not a valid " ++ operandType
  | .noSuchLabel name => "Unknown label: " ++ name

end Problem
end AsmKit
