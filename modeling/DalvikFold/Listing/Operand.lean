import DalvikFold.Instruction.Basic
import DalvikFold.Listing.Error
import DalvikFold.Listing.Numeral
import DalvikFold.Listing.StringLiteral

namespace DalvikFold
namespace Listing

/-!
Operands in a listing.

The first character, or else a mark inside the text, tells what an operand is.
Braces hold a list or a range of registers and contribute each of them;
everything else is one operand.
-/

/-- Whether the text is a type descriptor: a primitive type or a class, after
any number of array brackets. -/
def isTypeDescriptor (text : List Char) : Bool :=
  match text.dropWhile (fun c => c == '[') with
  | [c] => c ∈ ['V', 'Z', 'B', 'S', 'C', 'I', 'J', 'F', 'D']
  | 'L' :: name =>
      name.getLast? == some ';' && name.length ≥ 2 &&
        name.dropLast.all (fun c => c != ';' && !Text.isBlank c)
  | _ => false

/-- The text before the first arrow, and the text after it. -/
def splitArrow? : List Char -> Option (List Char × List Char)
  | '-' :: '>' :: rest => some ([], rest)
  | c :: rest => (splitArrow? rest).map (fun parts => (c :: parts.1, parts.2))
  | [] => none

/-- Whether the text names a parameter register. -/
def isParameter : List Char -> Bool
  | 'p' :: digits => !digits.isEmpty && digits.all Char.isDigit
  | _ => false

def registerRange (first last : UInt16) : List Operand :=
  (List.range' first.toNat (last.toNat + 1 - first.toNat)).map
    (fun number => .register (UInt16.ofNat number))

/-- The registers of a list, without its braces. -/
def readRegisters : List (List Char) -> Except OperandFault (List Operand)
  | [] => .ok []
  | text :: rest =>
      match (registerDigits? (Text.trim text)).bind registerNumber? with
      | some number => (readRegisters rest).map (.register number :: ·)
      | none => .error .expectedRegister

/-- The registers between braces. -/
def readGroup (text : List Char) : Except OperandFault (List Operand) :=
  if text.isEmpty then
    .ok []
  else
    match rangeDigits? text with
    | some (first, last) =>
        match registerNumber? first, registerNumber? last with
        | some first, some last =>
            if last < first then .error .emptyRange else .ok (registerRange first last)
        | _, _ => .error .registerTooLarge
    | none => readRegisters (text.splitOn ',')

/-- A reference to a member of a class: a method if it has a parameter list,
and a field otherwise. -/
def readMember (text : List Char) (parts : List Char × List Char) :
    Except OperandFault Operand :=
  if isTypeDescriptor parts.1 then
    if '(' ∈ parts.2 then
      .ok (.method (String.ofList text))
    else
      .ok (.field (String.ofList text))
  else
    .error .expectedClass

/-- A reference, or nothing that is known.  What stands there for an opcode
that calls through a call site is always the call site. -/
def readReference (opcode : Opcode) (text : List Char) : Except OperandFault Operand :=
  match text, opcode with
  | '(' :: _, _ => .ok (.proto (String.ofList text))
  | _, .invokeCustom _ => .ok (.callSite (String.ofList text))
  | _, _ =>
      if '@' ∈ text then
        .ok (.methodHandle (String.ofList text))
      else
        match splitArrow? text with
        | some parts => readMember text parts
        | none =>
            if isTypeDescriptor text then
              .ok (.type (String.ofList text))
            else
              .error .unrecognized

/-- A label, a string, a literal or a reference. -/
def readConstant (opcode : Opcode) (text : List Char) : Except OperandFault Operand :=
  match text with
  | ':' :: name => .ok (.label (String.ofList name))
  | '"' :: _ =>
      match stringLiteral? text with
      | some decoded => .ok (.string (String.ofList decoded))
      | none => .error .malformedString
  | _ =>
      match Literal.ofText? text with
      | some literal =>
          match literal.value? with
          | some value => .ok (.literal value)
          | none => .error .literalOutOfRange
      | none => readReference opcode text

/-- The operands that one segment of a line stands for. -/
def readOperand (opcode : Opcode) (text : List Char) : Except OperandFault (List Operand) :=
  match text with
  | '\x7b' :: group =>
      if group.getLast? = some '\x7d' then
        readGroup (Text.trim group.dropLast)
      else
        .error .unbalancedBraces
  | _ =>
      if isParameter text then
        .error .parameterRegister
      else
        match registerDigits? text with
        | some digits =>
            match registerNumber? digits with
            | some number => .ok [.register number]
            | none => .error .registerTooLarge
        | none => (readConstant opcode text).map (fun operand => [operand])

/-- The operands of a line; the first segment that cannot be read is the
fault. -/
def readOperands (opcode : Opcode) : List (List Char) -> Except Fault (List Operand)
  | [] => .ok []
  | text :: rest =>
      match readOperand opcode text with
      | .error fault => .error (.badOperand (String.ofList text) fault)
      | .ok operands => (readOperands opcode rest).map (operands ++ ·)

/-- The bits that the high form of a constant leaves out. -/
def highShift? : Opcode -> Option Nat
  | .constant (.narrow .high16) => some 16
  | .constant (.wide .high16) => some 48
  | _ => none

/-- The operands as they are encoded.  The high forms of constants are written
with their full value, and hold its top bits; a value whose other bits are not
zero has no encoding. -/
def encodeHigh (opcode : Opcode) (operands : List Operand) : Except Fault (List Operand) :=
  match highShift? opcode, operands with
  | some shift, first :: .literal value :: rest =>
      let field : Nat := 1 <<< shift
      if value.toInt % (field : Int) = 0 then
        .ok (first :: .literal (Int64.ofInt (value.toInt / (field : Int))) :: rest)
      else
        .error (.badOperand ("0x" ++ Text.hexadecimal value.toBitVec.toNat) .lowBitsSet)
  | _, _ => .ok operands

end Listing
end DalvikFold
