import DalvikFold.Opcode.Format
import DalvikFold.Text.Numeral
import DalvikFold.Text.Quoted

namespace DalvikFold

/-!
The operands of instructions.

Operands are what a decoder or a listing gives: literals are already extended
to sixty-four bits, and references are the texts that name their constants.
-/

/-- An operand of an instruction. -/
inductive Operand where
  /-- A register, by its number. -/
  | register (number : UInt16)
  /-- A literal, sign-extended from its field. -/
  | literal (value : Int64)
  /-- The target of a branch, by the name of its label. -/
  | label (name : String)
  /-- The target of a branch, by its distance in code units. -/
  | offset (distance : Int32)
  /-- A string constant. -/
  | string (text : String)
  /-- A type, by its descriptor. -/
  | type (descriptor : String)
  /-- A field of a class. -/
  | field (reference : String)
  /-- A method of a class. -/
  | method (reference : String)
  /-- The parameter and result types of a method. -/
  | proto (reference : String)
  /-- A call site. -/
  | callSite (reference : String)
  /-- A method handle. -/
  | methodHandle (reference : String)
  deriving Repr, DecidableEq

namespace Operand

/-- The kind of slot that the operand fills. -/
def kind : Operand -> OperandKind
  | .register _ => .register
  | .literal _ => .literal
  | .label _ | .offset _ => .target
  | .string _ | .type _ | .field _ | .method _ | .proto _ | .callSite _ | .methodHandle _ =>
      .reference

def register? : Operand -> Option UInt16
  | .register number => some number
  | _ => none

def literal? : Operand -> Option Int64
  | .literal value => some value
  | _ => none

/-- The text of an operand that refers to a constant. -/
def reference? : Operand -> Option String
  | .string text => some text
  | .type descriptor => some descriptor
  | .field reference => some reference
  | .method reference => some reference
  | .proto reference => some reference
  | .callSite reference => some reference
  | .methodHandle reference => some reference
  | _ => none

end Operand

def registerName (number : UInt16) : String :=
  "v" ++ Text.decimal number.toNat

/-- The text of an operand.  Strings are quoted, and other references stand as
they are. -/
def Operand.render : Operand -> String
  | .register number => registerName number
  | .literal value => Text.signedHexadecimal value.toInt
  | .label name => ":" ++ name
  | .offset distance => Text.explicitlySigned distance.toInt
  | .string text => Text.quote text
  | .type descriptor => descriptor
  | .field reference => reference
  | .method reference => reference
  | .proto reference => reference
  | .callSite reference => reference
  | .methodHandle reference => reference

end DalvikFold
