import DalvikFold.Text.Numeral

namespace DalvikFold
namespace Listing

/-!
What can be wrong with a listing, and where.
-/

/-- What can be wrong with an operand. -/
inductive OperandFault where
  | unbalancedBraces
  | registerTooLarge
  | emptyRange
  | expectedRegister
  | parameterRegister
  | malformedString
  | literalOutOfRange
  | expectedClass
  | unrecognized
  | lowBitsSet
  deriving Repr, DecidableEq

def OperandFault.message : OperandFault -> String
  | .unbalancedBraces => "unbalanced braces"
  | .registerTooLarge => "register number too large"
  | .emptyRange => "empty register range"
  | .expectedRegister => "expected vN register"
  | .parameterRegister => "parameter registers are not supported"
  | .malformedString => "malformed string"
  | .literalOutOfRange => "literal out of range"
  | .expectedClass => "expected a class descriptor before '->'"
  | .unrecognized => "unrecognized operand"
  | .lowBitsSet => "low bits of a high16 literal must be zero"

/-- What can be wrong with the nesting of methods. -/
inductive NestingFault where
  | nestedMethod
  | endOutsideMethod
  | missingEnd
  | instructionOutsideMethod
  deriving Repr, DecidableEq

def NestingFault.message : NestingFault -> String
  | .nestedMethod => "nested .method"
  | .endOutsideMethod => ".end method without .method"
  | .missingEnd => "missing .end method"
  | .instructionOutsideMethod => "instruction outside .method"

/-- What can be wrong with a line. -/
inductive Fault where
  /-- The line starts with the mnemonic of no opcode. -/
  | unknownMnemonic (mnemonic : String)
  /-- An operand cannot be read; it is given as it stands in the line. -/
  | badOperand (operand : String) (fault : OperandFault)
  /-- The line is out of place. -/
  | nesting (fault : NestingFault)
  deriving Repr, DecidableEq

def Fault.message : Fault -> String
  | .unknownMnemonic mnemonic => "unknown mnemonic '" ++ mnemonic ++ "'"
  | .badOperand operand fault => "bad operand '" ++ operand ++ "': " ++ fault.message
  | .nesting fault => fault.message

/-- A fault and its line; lines are counted from one. -/
structure Error where
  line : Nat
  fault : Fault
  deriving Repr, DecidableEq

def Error.message (error : Error) : String :=
  "line " ++ Text.decimal error.line ++ ": " ++ error.fault.message

end Listing
end DalvikFold
