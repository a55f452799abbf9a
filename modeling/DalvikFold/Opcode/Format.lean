import DalvikFold.Opcode.Mnemonic

namespace DalvikFold

/-!
Instruction formats.

A format fixes how many operands an instruction has and of which kind.  Its
name counts the sixteen-bit code units and the registers, and ends in a letter
for what else the instruction holds.  Formats with a register list, and
payloads, fix no operands.
-/

/-- The formats, by their names in the documentation of the instruction set. -/
inductive Format where
  | f10x | f12x | f11n | f11x | f10t | f20t | f22x | f21t | f21s | f21h | f21c
  | f23x | f22b | f22t | f22s | f22c | f22cs | f32x | f30t | f31t | f31i | f31c
  | f35c | f35ms | f3rc | f3rms | f45cc | f4rcc | f51l
  | payload (block : Payload)
  deriving Repr, DecidableEq

/-- The kinds of operands: a register, a signed literal, the target of a
branch, or a reference to a constant. -/
inductive OperandKind where
  | register | literal | target | reference
  deriving Repr, DecidableEq

namespace Format

/-- The operands of a format that fixes them. -/
def operandKinds? : Format -> Option (List OperandKind)
  | .f10x => some []
  | .f12x | .f22x | .f32x => some [.register, .register]
  | .f11x => some [.register]
  | .f11n | .f21s | .f21h | .f31i | .f51l => some [.register, .literal]
  | .f10t | .f20t | .f30t => some [.target]
  | .f21t | .f31t => some [.register, .target]
  | .f21c | .f31c => some [.register, .reference]
  | .f23x => some [.register, .register, .register]
  | .f22b | .f22s => some [.register, .register, .literal]
  | .f22t => some [.register, .register, .target]
  | .f22c | .f22cs => some [.register, .register, .reference]
  | .f35c | .f35ms | .f3rc | .f3rms | .f45cc | .f4rcc | .payload _ => none

/-- The width of the literal field of a format that has one. -/
def literalBits? : Format -> Option Nat
  | .f11n => some 4
  | .f22b => some 8
  | .f21s | .f21h | .f22s => some 16
  | .f31i => some 32
  | .f51l => some 64
  | _ => none

def name : Format -> String
  | .f10x => "10x"
  | .f12x => "12x"
  | .f11n => "11n"
  | .f11x => "11x"
  | .f10t => "10t"
  | .f20t => "20t"
  | .f22x => "22x"
  | .f21t => "21t"
  | .f21s => "21s"
  | .f21h => "21h"
  | .f21c => "21c"
  | .f23x => "23x"
  | .f22b => "22b"
  | .f22t => "22t"
  | .f22s => "22s"
  | .f22c => "22c"
  | .f22cs => "22cs"
  | .f32x => "32x"
  | .f30t => "30t"
  | .f31t => "31t"
  | .f31i => "31i"
  | .f31c => "31c"
  | .f35c => "35c"
  | .f35ms => "35ms"
  | .f3rc => "3rc"
  | .f3rms => "3rms"
  | .f45cc => "45cc"
  | .f4rcc => "4rcc"
  | .f51l => "51l"
  | .payload block => block.name

end Format

def MoveReach.format : MoveReach -> Format
  | .near => .f12x
  | .from16 => .f22x
  | .far => .f32x

def ConstantLoad.format : ConstantLoad -> Format
  | .narrow .bits4 => .f11n
  | .narrow .bits16 => .f21s
  | .narrow .full => .f31i
  | .narrow .high16 => .f21h
  | .wide .bits16 => .f21s
  | .wide .bits32 => .f31i
  | .wide .full => .f51l
  | .wide .high16 => .f21h
  | .string => .f21c
  | .stringJumbo => .f31c
  | .classObject => .f21c

def JumpReach.format : JumpReach -> Format
  | .bits8 => .f10t
  | .bits16 => .f20t
  | .bits32 => .f30t

def Place.format : Place -> Format
  | .array => .f23x
  | .instanceField => .f22c
  | .staticField => .f21c

def Arithmetic.format : Arithmetic -> Format
  | .registers _ .threeRegisters => .f23x
  | .registers _ .twoAddress => .f12x
  | .literal16 _ => .f22s
  | .literal8 _ => .f22b
  | .shiftLiteral8 _ => .f22b

namespace Opcode

def format : Opcode -> Format
  | .nop | .returnVoid | .returnVoidNoBarrier => .f10x
  | .move _ reach => reach.format
  | .moveResult _ | .moveException | .returnValue _ => .f11x
  | .monitorEnter | .monitorExit | .throwException => .f11x
  | .constant load => load.format
  | .checkCast | .newInstance | .constMethodHandle | .constMethodType => .f21c
  | .instanceOf | .newArray => .f22c
  | .arrayLength | .unary _ | .convert _ => .f12x
  | .filledNewArray .listed | .invoke _ .listed | .invokeCustom .listed => .f35c
  | .filledNewArray .range | .invoke _ .range | .invokeCustom .range => .f3rc
  | .fillArrayData | .packedSwitch | .sparseSwitch => .f31t
  | .goto reach => reach.format
  | .compare _ => .f23x
  | .branch _ => .f22t
  | .branchZero _ => .f21t
  | .access place _ _ => place.format
  | .arithmetic operation => operation.format
  | .quickAccess _ _ => .f22cs
  | .quickInvoke .listed => .f35ms
  | .quickInvoke .range => .f3rms
  | .invokePolymorphic .listed => .f45cc
  | .invokePolymorphic .range => .f4rcc
  | .payload block => .payload block

/-- Whether the opcode stands only in optimized method bodies. -/
def isOptimizedOnly : Opcode -> Bool
  | .quickAccess _ _ | .quickInvoke _ | .returnVoidNoBarrier => true
  | _ => false

/-- Whether the opcode stores its first register into an array or a field. -/
def isStore : Opcode -> Bool
  | .access _ .store _ | .quickAccess .store _ => true
  | _ => false

/-- Whether the opcode writes a result into its first register.  The format
mostly decides; stores only read that register, a checked cast keeps its value,
and of the opcodes with one register only the results and the caught exception
write it. -/
def writesRegister (opcode : Opcode) : Bool :=
  match opcode.format with
  | .f12x | .f22x | .f32x | .f11n | .f21s | .f21h | .f31i | .f51l | .f31c | .f22b | .f22s =>
      true
  | .f11x =>
      match opcode with
      | .moveResult _ | .moveException => true
      | _ => false
  | .f21c | .f22c | .f22cs | .f23x => !opcode.isStore && opcode != .checkCast
  | _ => false

end Opcode

end DalvikFold
