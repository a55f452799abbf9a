import DalvikFold.Handler.Category
import DalvikFold.Instruction.Basic
import DalvikFold.Machine.Arithmetic

namespace DalvikFold

/-!
Effects, and how they are built from instructions.

An effect is what an instruction does to the registers, with its operands
already taken apart.  Building one checks that the operands fit the format and
that a literal fits its field, so that an effect needs no further check until
it meets a register file.
-/

/-- Why no effect can be built from an instruction. -/
inductive ConstructionError where
  /-- The opcode has an effect of another category. -/
  | categoryMismatch (opcode : Opcode) (expected : Category)
  /-- The operands do not fit the format of the opcode. -/
  | operandShape (opcode : Opcode) (index : Nat)
  /-- The literal does not fit the field that the format has for it. -/
  | literalOutOfRange (opcode : Opcode) (value : Int64) (bits : Nat)
  deriving Repr, DecidableEq

def ConstructionError.message : ConstructionError -> String
  | .categoryMismatch opcode expected =>
      opcode.mnemonic ++ " is not a " ++ expected.name ++ " opcode"
  | .operandShape opcode index =>
      "operands of " ++ opcode.mnemonic ++ " at index " ++ Text.decimal index ++
        " do not match format " ++ opcode.format.name
  | .literalOutOfRange opcode value bits =>
      "literal " ++ Text.signedDecimal value.toInt ++ " does not fit the " ++
        Text.decimal bits ++ "-bit field of " ++ opcode.mnemonic

/-- Whether a literal fits a signed field of the given width. -/
def fitsField (bits : Nat) (value : Int64) : Bool :=
  let bound : Nat := 1 <<< (bits - 1)
  value.toInt < (bound : Int) && -(bound : Int) ≤ value.toInt

/-- The layouts of the operands of an arithmetic instruction. -/
inductive OperandForm where
  | threeRegisters | twoAddress | literal
  deriving Repr, DecidableEq

def Arithmetic.form : Arithmetic -> OperandForm
  | .registers _ .threeRegisters => .threeRegisters
  | .registers _ .twoAddress => .twoAddress
  | .literal16 _ => .literal
  | .literal8 _ => .literal
  | .shiftLiteral8 _ => .literal

/-- The right operand of an operation. -/
inductive RightOperand where
  | register (number : UInt16)
  | literal (bits : BitVec 32)
  deriving Repr, DecidableEq

/-- The effect of an arithmetic instruction. -/
structure BinaryEffect where
  operation : Operation
  form : OperandForm
  dest : UInt16
  left : UInt16
  right : RightOperand
  deriving Repr, DecidableEq

/-- A constant that an instruction loads. -/
inductive Constant where
  | int (bits : BitVec 32)
  | long (bits : BitVec 64)
  | string (text : String)
  | classObject (descriptor : String)
  deriving Repr, DecidableEq

def Constant.value : Constant -> Value
  | .int bits => .int bits
  | .long bits => .long bits
  | .string text => .string text
  | .classObject descriptor => .classObject descriptor

/-- The effect of a constant load. -/
structure LoadEffect where
  dest : UInt16
  constant : Constant
  deriving Repr, DecidableEq

/-- The literal that a narrow constant loads.  The high form stores the upper
half of the word. -/
def NarrowLiteral.constant (form : NarrowLiteral) (value : Int64) : Constant :=
  let word := value.toBitVec.setWidth 32
  match form with
  | .high16 => .int (word <<< 16)
  | _ => .int word

/-- The literal that a wide constant loads.  The high form stores the top
sixteen bits of the word. -/
def WideLiteral.constant (form : WideLiteral) (value : Int64) : Constant :=
  match form with
  | .high16 => .long (value.toBitVec <<< 48)
  | _ => .long value.toBitVec

/-- The constant that a load makes of its operand; none if the operand is of
another kind. -/
def ConstantLoad.constant? : ConstantLoad -> Operand -> Option Constant
  | .narrow form, .literal value => some (form.constant value)
  | .wide form, .literal value => some (form.constant value)
  | .string, .string text => some (.string text)
  | .stringJumbo, .string text => some (.string text)
  | .classObject, .type descriptor => some (.classObject descriptor)
  | _, _ => none

namespace Instruction

/-- The complaint that the operands do not fit the format. -/
def shapeError (instruction : Instruction) (index : Nat) : ConstructionError :=
  .operandShape instruction.opcode index

/-- The complaint about a literal operand that does not fit its field. -/
def literalError? (instruction : Instruction) (value : Int64) : Option ConstructionError :=
  match instruction.opcode.format.literalBits? with
  | some bits =>
      if fitsField bits value then
        none
      else
        some (.literalOutOfRange instruction.opcode value bits)
  | none => none

def binaryEffect (instruction : Instruction) (index : Nat) :
    Except ConstructionError BinaryEffect :=
  match instruction.opcode.arithmetic? with
  | none => .error (.categoryMismatch instruction.opcode .binaryArithmetic)
  | some arithmetic =>
      let effect := BinaryEffect.mk arithmetic.operation arithmetic.form
      match arithmetic.form, instruction.operands with
      | .threeRegisters, [.register dest, .register left, .register right] =>
          .ok (effect dest left (.register right))
      | .twoAddress, [.register dest, .register right] =>
          .ok (effect dest dest (.register right))
      | .literal, [.register dest, .register left, .literal value] =>
          match instruction.literalError? value with
          | some error => .error error
          | none => .ok (effect dest left (.literal (value.toBitVec.setWidth 32)))
      | _, _ => .error (instruction.shapeError index)

def loadEffect (instruction : Instruction) (index : Nat) :
    Except ConstructionError LoadEffect :=
  match instruction.opcode.constantLoad? with
  | none => .error (.categoryMismatch instruction.opcode .constant)
  | some load =>
      match instruction.operands with
      | [.register dest, operand] =>
          match load.constant? operand with
          | none => .error (instruction.shapeError index)
          | some constant =>
              match operand.literal?.bind instruction.literalError? with
              | some error => .error error
              | none => .ok ⟨dest, constant⟩
      | _ => .error (instruction.shapeError index)

end Instruction

end DalvikFold
