import DalvikFold.Opcode.Encoding

namespace DalvikFold

/-!
The mnemonics of opcodes, as listings write them.

A mnemonic is put together like its opcode: the name of the family, then a
hyphen and a word for each choice that concerns the operation, and after a
slash what concerns the encoding alone.
-/

/-- The word for a kind of value; single registers go without one. -/
def ValueKind.suffix : ValueKind -> String
  | .single => ""
  | .wide => "-wide"
  | .object => "-object"

def MoveReach.suffix : MoveReach -> String
  | .near => ""
  | .from16 => "/from16"
  | .far => "/16"

def NarrowLiteral.suffix : NarrowLiteral -> String
  | .bits4 => "/4"
  | .bits16 => "/16"
  | .full => ""
  | .high16 => "/high16"

def WideLiteral.suffix : WideLiteral -> String
  | .bits16 => "/16"
  | .bits32 => "/32"
  | .full => ""
  | .high16 => "/high16"

def ConstantLoad.mnemonic : ConstantLoad -> String
  | .narrow literal => "const" ++ literal.suffix
  | .wide literal => "const-wide" ++ literal.suffix
  | .string => "const-string"
  | .stringJumbo => "const-string/jumbo"
  | .classObject => "const-class"

def JumpReach.suffix : JumpReach -> String
  | .bits8 => ""
  | .bits16 => "/16"
  | .bits32 => "/32"

def Comparison.mnemonic : Comparison -> String
  | .floatLess => "cmpl-float"
  | .floatGreater => "cmpg-float"
  | .doubleLess => "cmpl-double"
  | .doubleGreater => "cmpg-double"
  | .long => "cmp-long"

/-- The two letters of a relation. -/
def Relation.name : Relation -> String
  | .eq => "eq"
  | .ne => "ne"
  | .lt => "lt"
  | .ge => "ge"
  | .gt => "gt"
  | .le => "le"

/-- The first letter of an access. -/
def Place.letter : Place -> String
  | .array => "a"
  | .instanceField => "i"
  | .staticField => "s"

/-- The verb of an access. -/
def Direction.name : Direction -> String
  | .load => "get"
  | .store => "put"

/-- The word for an element; single registers go without one. -/
def ElementKind.suffix : ElementKind -> String
  | .single => ""
  | .wide => "-wide"
  | .object => "-object"
  | .boolean => "-boolean"
  | .byte => "-byte"
  | .char => "-char"
  | .short => "-short"

def InvokeKind.name : InvokeKind -> String
  | .virtual => "virtual"
  | .super => "super"
  | .direct => "direct"
  | .static => "static"
  | .interface => "interface"

def RegisterList.suffix : RegisterList -> String
  | .listed => ""
  | .range => "/range"

def UnaryOperation.mnemonic : UnaryOperation -> String
  | .negInt => "neg-int"
  | .notInt => "not-int"
  | .negLong => "neg-long"
  | .notLong => "not-long"
  | .negFloat => "neg-float"
  | .negDouble => "neg-double"

def Conversion.mnemonic : Conversion -> String
  | .intToLong => "int-to-long"
  | .intToFloat => "int-to-float"
  | .intToDouble => "int-to-double"
  | .longToInt => "long-to-int"
  | .longToFloat => "long-to-float"
  | .longToDouble => "long-to-double"
  | .floatToInt => "float-to-int"
  | .floatToLong => "float-to-long"
  | .floatToDouble => "float-to-double"
  | .doubleToInt => "double-to-int"
  | .doubleToLong => "double-to-long"
  | .doubleToFloat => "double-to-float"
  | .intToByte => "int-to-byte"
  | .intToChar => "int-to-char"
  | .intToShort => "int-to-short"

def WholeOperator.name : WholeOperator -> String
  | .add => "add"
  | .sub => "sub"
  | .mul => "mul"
  | .div => "div"
  | .rem => "rem"
  | .and => "and"
  | .or => "or"
  | .xor => "xor"

def ShiftOperator.name : ShiftOperator -> String
  | .shl => "shl"
  | .shr => "shr"
  | .ushr => "ushr"

def FloatOperator.name : FloatOperator -> String
  | .add => "add"
  | .sub => "sub"
  | .mul => "mul"
  | .div => "div"
  | .rem => "rem"

def RegisterOperation.mnemonic : RegisterOperation -> String
  | .int operator => operator.name ++ "-int"
  | .intShift operator => operator.name ++ "-int"
  | .long operator => operator.name ++ "-long"
  | .longShift operator => operator.name ++ "-long"
  | .float operator => operator.name ++ "-float"
  | .double operator => operator.name ++ "-double"

def RegisterForm.suffix : RegisterForm -> String
  | .threeRegisters => ""
  | .twoAddress => "/2addr"

/-- The mnemonic of an arithmetic opcode.  The reverse subtraction from a
sixteen-bit literal goes without its encoding part. -/
def Arithmetic.mnemonic : Arithmetic -> String
  | .registers operation form => operation.mnemonic ++ form.suffix
  | .literal16 .sub => "rsub-int"
  | .literal16 operator => operator.name ++ "-int/lit16"
  | .literal8 .sub => "rsub-int/lit8"
  | .literal8 operator => operator.name ++ "-int/lit8"
  | .shiftLiteral8 operator => operator.name ++ "-int/lit8"

def Payload.name : Payload -> String
  | .packedSwitch => "packed-switch-payload"
  | .sparseSwitch => "sparse-switch-payload"
  | .array => "array-payload"

namespace Opcode

def mnemonic : Opcode -> String
  | .nop => "nop"
  | .move kind reach => "move" ++ kind.suffix ++ reach.suffix
  | .moveResult kind => "move-result" ++ kind.suffix
  | .moveException => "move-exception"
  | .returnVoid => "return-void"
  | .returnValue kind => "return" ++ kind.suffix
  | .constant load => load.mnemonic
  | .monitorEnter => "monitor-enter"
  | .monitorExit => "monitor-exit"
  | .checkCast => "check-cast"
  | .instanceOf => "instance-of"
  | .arrayLength => "array-length"
  | .newInstance => "new-instance"
  | .newArray => "new-array"
  | .filledNewArray list => "filled-new-array" ++ list.suffix
  | .fillArrayData => "fill-array-data"
  | .throwException => "throw"
  | .goto reach => "goto" ++ reach.suffix
  | .packedSwitch => "packed-switch"
  | .sparseSwitch => "sparse-switch"
  | .compare comparison => comparison.mnemonic
  | .branch relation => "if-" ++ relation.name
  | .branchZero relation => "if-" ++ relation.name ++ "z"
  | .access place direction element => place.letter ++ direction.name ++ element.suffix
  | .invoke kind list => "invoke-" ++ kind.name ++ list.suffix
  | .returnVoidNoBarrier => "return-void-no-barrier"
  | .unary operation => operation.mnemonic
  | .convert conversion => conversion.mnemonic
  | .arithmetic operation => operation.mnemonic
  | .quickAccess direction element => "i" ++ direction.name ++ element.suffix ++ "-quick"
  | .quickInvoke list => "invoke-virtual-quick" ++ list.suffix
  | .invokePolymorphic list => "invoke-polymorphic" ++ list.suffix
  | .invokeCustom list => "invoke-custom" ++ list.suffix
  | .constMethodHandle => "const-method-handle"
  | .constMethodType => "const-method-type"
  | .payload block => block.name

def ofMnemonic? (mnemonic : String) : Option Opcode :=
  all.find? (fun opcode => opcode.mnemonic == mnemonic)

end Opcode

end DalvikFold
