import DalvikFold.Instruction.Operand

namespace DalvikFold

/-!
Instructions: one occurrence of an opcode with its operands.

An instruction may have any operands.  Whether they fit the format of the
opcode is a question that is asked where an effect is built from it.
-/

/-- An opcode with its operands. -/
structure Instruction where
  opcode : Opcode
  operands : List Operand
  deriving Repr, DecidableEq

namespace Instruction

def operand? (instruction : Instruction) (position : Nat) : Option Operand :=
  instruction.operands[position]?

/-- The register at a position, if the operand there is a register. -/
def register? (instruction : Instruction) (position : Nat) : Option UInt16 :=
  (instruction.operand? position).bind Operand.register?

/-- The literal at a position, if the operand there is a literal. -/
def literal? (instruction : Instruction) (position : Nat) : Option Int64 :=
  (instruction.operand? position).bind Operand.literal?

/-- The text of the reference at a position, if the operand there is one. -/
def reference? (instruction : Instruction) (position : Nat) : Option String :=
  (instruction.operand? position).bind Operand.reference?

/-- Whether the operands are those that the format fixes, one by one.  An
instruction of a format that fixes none never matches. -/
def matchesFormat (instruction : Instruction) : Bool :=
  instruction.opcode.format.operandKinds? == some (instruction.operands.map Operand.kind)

/-- The text of an instruction: the mnemonic, and after a space the operands
with commas between them. -/
def render (instruction : Instruction) : String :=
  if instruction.operands.isEmpty then
    instruction.opcode.mnemonic
  else
    instruction.opcode.mnemonic ++ " " ++
      ", ".intercalate (instruction.operands.map Operand.render)

/-- The register that the instruction overwrites, if its opcode writes one and
its first operand names one. -/
def destination? (instruction : Instruction) : Option UInt16 :=
  if instruction.opcode.writesRegister then instruction.register? 0 else none

end Instruction

end DalvikFold
