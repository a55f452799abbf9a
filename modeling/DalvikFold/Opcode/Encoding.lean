import DalvikFold.Opcode.Basic

namespace DalvikFold

/-!
The encoding of opcodes.

A family occupies consecutive values, so the value of an opcode is the first
value of its family plus the offset of its choices.  Regular opcodes are single
bytes.  Payloads are marked by sixteen-bit identifiers above every byte.
-/

/-- The offset of an operation inside a block of thirty-two: eleven operations
on ints, eleven on longs, five on floats and five on doubles. -/
def RegisterOperation.offset : RegisterOperation -> Nat
  | .int operator => operator.ctorIdx
  | .intShift operator => 8 + operator.ctorIdx
  | .long operator => 11 + operator.ctorIdx
  | .longShift operator => 19 + operator.ctorIdx
  | .float operator => 22 + operator.ctorIdx
  | .double operator => 27 + operator.ctorIdx

def Arithmetic.value : Arithmetic -> Nat
  | .registers operation form => 0x90 + 32 * form.ctorIdx + operation.offset
  | .literal16 operator => 0xd0 + operator.ctorIdx
  | .literal8 operator => 0xd8 + operator.ctorIdx
  | .shiftLiteral8 operator => 0xe0 + operator.ctorIdx

def ConstantLoad.value : ConstantLoad -> Nat
  | .narrow literal => 0x12 + literal.ctorIdx
  | .wide literal => 0x16 + literal.ctorIdx
  | .string => 0x1a
  | .stringJumbo => 0x1b
  | .classObject => 0x1c

/-- The value of a quickened access.  The small elements were added after the
invocations, with the stores in front of the loads. -/
def quickAccessValue (direction : Direction) (element : ElementKind) : Nat :=
  let offset := element.ctorIdx
  match direction with
  | .load => if offset < 3 then 0xe3 + offset else 0xef + (offset - 3)
  | .store => if offset < 3 then 0xe6 + offset else 0xeb + (offset - 3)

namespace Opcode

/-- The encoded value: the opcode byte, or the identifier of a payload. -/
def value : Opcode -> Nat
  | .nop => 0x00
  | .move kind reach => 0x01 + 3 * kind.ctorIdx + reach.ctorIdx
  | .moveResult kind => 0x0a + kind.ctorIdx
  | .moveException => 0x0d
  | .returnVoid => 0x0e
  | .returnValue kind => 0x0f + kind.ctorIdx
  | .constant load => load.value
  | .monitorEnter => 0x1d
  | .monitorExit => 0x1e
  | .checkCast => 0x1f
  | .instanceOf => 0x20
  | .arrayLength => 0x21
  | .newInstance => 0x22
  | .newArray => 0x23
  | .filledNewArray list => 0x24 + list.ctorIdx
  | .fillArrayData => 0x26
  | .throwException => 0x27
  | .goto reach => 0x28 + reach.ctorIdx
  | .packedSwitch => 0x2b
  | .sparseSwitch => 0x2c
  | .compare comparison => 0x2d + comparison.ctorIdx
  | .branch relation => 0x32 + relation.ctorIdx
  | .branchZero relation => 0x38 + relation.ctorIdx
  | .access place direction element =>
      0x44 + 14 * place.ctorIdx + 7 * direction.ctorIdx + element.ctorIdx
  | .invoke kind list => 0x6e + 6 * list.ctorIdx + kind.ctorIdx
  | .returnVoidNoBarrier => 0x73
  | .unary operation => 0x7b + operation.ctorIdx
  | .convert conversion => 0x81 + conversion.ctorIdx
  | .arithmetic operation => operation.value
  | .quickAccess direction element => quickAccessValue direction element
  | .quickInvoke list => 0xe9 + list.ctorIdx
  | .invokePolymorphic list => 0xfa + list.ctorIdx
  | .invokeCustom list => 0xfc + list.ctorIdx
  | .constMethodHandle => 0xfe
  | .constMethodType => 0xff
  | .payload block => 0x100 * (block.ctorIdx + 1)

def isPayload : Opcode -> Bool
  | .payload _ => true
  | _ => false

end Opcode

/-!
## Enumeration

Every list is in encoding order.
-/

def ValueKind.all : List ValueKind := [.single, .wide, .object]

def MoveReach.all : List MoveReach := [.near, .from16, .far]

def ConstantLoad.all : List ConstantLoad :=
  [.narrow .bits4, .narrow .bits16, .narrow .full, .narrow .high16, .wide .bits16,
    .wide .bits32, .wide .full, .wide .high16, .string, .stringJumbo, .classObject]

def JumpReach.all : List JumpReach := [.bits8, .bits16, .bits32]

def Comparison.all : List Comparison :=
  [.floatLess, .floatGreater, .doubleLess, .doubleGreater, .long]

def Relation.all : List Relation := [.eq, .ne, .lt, .ge, .gt, .le]

def Place.all : List Place := [.array, .instanceField, .staticField]

def Direction.all : List Direction := [.load, .store]

/-- The elements of one register, one pair or one reference. -/
def ElementKind.words : List ElementKind := [.single, .wide, .object]

/-- The elements smaller than a register. -/
def ElementKind.small : List ElementKind := [.boolean, .byte, .char, .short]

def ElementKind.all : List ElementKind := words ++ small

def InvokeKind.all : List InvokeKind := [.virtual, .super, .direct, .static, .interface]

def RegisterList.all : List RegisterList := [.listed, .range]

def UnaryOperation.all : List UnaryOperation :=
  [.negInt, .notInt, .negLong, .notLong, .negFloat, .negDouble]

def Conversion.all : List Conversion :=
  [.intToLong, .intToFloat, .intToDouble, .longToInt, .longToFloat, .longToDouble,
    .floatToInt, .floatToLong, .floatToDouble, .doubleToInt, .doubleToLong, .doubleToFloat,
    .intToByte, .intToChar, .intToShort]

def WholeOperator.all : List WholeOperator :=
  [.add, .sub, .mul, .div, .rem, .and, .or, .xor]

def ShiftOperator.all : List ShiftOperator := [.shl, .shr, .ushr]

def FloatOperator.all : List FloatOperator := [.add, .sub, .mul, .div, .rem]

def RegisterOperation.all : List RegisterOperation :=
  WholeOperator.all.map .int ++ ShiftOperator.all.map .intShift ++
    WholeOperator.all.map .long ++ ShiftOperator.all.map .longShift ++
    FloatOperator.all.map .float ++ FloatOperator.all.map .double

def Arithmetic.all : List Arithmetic :=
  RegisterOperation.all.map (.registers · .threeRegisters) ++
    RegisterOperation.all.map (.registers · .twoAddress) ++
    WholeOperator.all.map .literal16 ++ WholeOperator.all.map .literal8 ++
    ShiftOperator.all.map .shiftLiteral8

def Payload.all : List Payload := [.packedSwitch, .sparseSwitch, .array]

namespace Opcode

def accesses : List Opcode :=
  Place.all.flatMap (fun place =>
    Direction.all.flatMap (fun direction => ElementKind.all.map (.access place direction)))

def quickened : List Opcode :=
  ElementKind.words.map (.quickAccess .load) ++ ElementKind.words.map (.quickAccess .store) ++
    RegisterList.all.map .quickInvoke ++
    ElementKind.small.map (.quickAccess .store) ++ ElementKind.small.map (.quickAccess .load)

/-- Every opcode once, in encoding order. -/
def all : List Opcode := List.flatten [
  [.nop],
  ValueKind.all.flatMap (fun kind => MoveReach.all.map (.move kind)),
  ValueKind.all.map .moveResult,
  [.moveException, .returnVoid],
  ValueKind.all.map .returnValue,
  ConstantLoad.all.map .constant,
  [.monitorEnter, .monitorExit, .checkCast, .instanceOf, .arrayLength, .newInstance, .newArray],
  RegisterList.all.map .filledNewArray,
  [.fillArrayData, .throwException],
  JumpReach.all.map .goto,
  [.packedSwitch, .sparseSwitch],
  Comparison.all.map .compare,
  Relation.all.map .branch,
  Relation.all.map .branchZero,
  accesses,
  InvokeKind.all.map (fun kind => .invoke kind .listed),
  [.returnVoidNoBarrier],
  InvokeKind.all.map (fun kind => .invoke kind .range),
  UnaryOperation.all.map .unary,
  Conversion.all.map .convert,
  Arithmetic.all.map .arithmetic,
  quickened,
  RegisterList.all.map .invokePolymorphic,
  RegisterList.all.map .invokeCustom,
  [.constMethodHandle, .constMethodType],
  Payload.all.map .payload]

/-- The opcode with the given byte; some bytes have none. -/
def ofByte? (byte : UInt8) : Option Opcode :=
  all.find? (fun opcode => opcode.value == byte.toNat)

def ofPayloadIdent? (ident : UInt16) : Option Opcode :=
  (Payload.all.map .payload).find? (fun opcode => opcode.value == ident.toNat)

end Opcode

end DalvikFold
