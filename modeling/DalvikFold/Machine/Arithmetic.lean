import DalvikFold.FloatingPoint.Arithmetic
import DalvikFold.Machine.RegisterFile

namespace DalvikFold

/-!
The arithmetic of the machine.

Whole numbers are words in two's complement: results are reduced to the width
of the word, quotients are truncated toward zero, and the amount of a shift
counts modulo the width.  Only a division or a remainder of whole numbers by
zero has no result.  An operation first takes the left operand as a word of its
width, then the right one, and so blames the left register if both are wrong.

The bits of a floating-point result that is not a number are left open.  What is
said about runs is said for every choice of them.
-/

namespace WholeOperator

/-- The result of an operator on two words; none if it divides by zero. -/
def apply {width : Nat} (operator : WholeOperator) (left right : BitVec width) :
    Option (BitVec width) :=
  match operator with
  | .add => some (left + right)
  | .sub => some (left - right)
  | .mul => some (left * right)
  | .div => if right = 0 then none else some (left.sdiv right)
  | .rem => if right = 0 then none else some (left.srem right)
  | .and => some (left &&& right)
  | .or => some (left ||| right)
  | .xor => some (left ^^^ right)

end WholeOperator

namespace ShiftOperator

/-- The result of shifting a word; the amount is taken modulo the width. -/
def apply {width : Nat} (operator : ShiftOperator) (word : BitVec width)
    (amount : BitVec 32) : BitVec width :=
  let distance := amount.toNat % width
  match operator with
  | .shl => word <<< distance
  | .shr => word.sshiftRight distance
  | .ushr => word >>> distance

end ShiftOperator

namespace FloatOperator

/-- The result of an operator on two words of a floating-point format, with the
word for the case that it is not a number. -/
def apply {width : Nat} (operator : FloatOperator) (format : FloatingPoint.Format width)
    (notANumber left right : BitVec width) : BitVec width :=
  match operator with
  | .add => format.add notANumber left right
  | .sub => format.sub notANumber left right
  | .mul => format.mul notANumber left right
  | .div => format.div notANumber left right
  | .rem => format.rem notANumber left right

end FloatOperator

/-- The words that operators give for results that are not numbers.  It can be
any word that is no number, and it may depend on the operator and the operands. -/
class NaNResults where
  single : FloatOperator -> BitVec 32 -> BitVec 32 ->
    { word : BitVec 32 // FloatingPoint.single.decode word = .nan }
  double : FloatOperator -> BitVec 64 -> BitVec 64 ->
    { word : BitVec 64 // FloatingPoint.double.decode word = .nan }

/-- The quiet word for every operator and all operands. -/
instance quietNaNResults : NaNResults where
  single _ _ _ := ⟨FloatingPoint.single.quietNaN, by decide⟩
  double _ _ _ := ⟨FloatingPoint.double.quietNaN, by decide⟩

/-- What an arithmetic instruction computes: an operation on its operands in
order, or the reverse subtraction of ints. -/
inductive Operation where
  | direct (operation : RegisterOperation)
  | reverseSub
  deriving Repr, DecidableEq

def RegisterOperation.type : RegisterOperation -> NumericType
  | .int _ => .int
  | .intShift _ => .int
  | .long _ => .long
  | .longShift _ => .long
  | .float _ => .float
  | .double _ => .double

def Operation.type : Operation -> NumericType
  | .direct operation => operation.type
  | .reverseSub => .int

def Arithmetic.operation : Arithmetic -> Operation
  | .registers operation _ => .direct operation
  | .literal16 .sub => .reverseSub
  | .literal16 operator => .direct (.int operator)
  | .literal8 .sub => .reverseSub
  | .literal8 operator => .direct (.int operator)
  | .shiftLiteral8 operator => .direct (.intShift operator)

namespace Value

/-- The bits of a narrow number, or the complaint that a register should hold a
number of the given type. -/
def narrowAs (expected : NumericType) (register : UInt16) (value : Value) :
    Except ExecutionError (BitVec 32) :=
  match value.narrow? with
  | some bits => .ok bits
  | none => .error (.typeMismatch register expected value.type)

/-- The bits of a wide number, or the complaint that a register should hold a
number of the given type. -/
def wideAs (expected : NumericType) (register : UInt16) (value : Value) :
    Except ExecutionError (BitVec 64) :=
  match value.wide? with
  | some bits => .ok bits
  | none => .error (.typeMismatch register expected value.type)

end Value

/-- A result that may be missing because of a division by zero. -/
def divided {Result : Type} : Option Result -> Except ExecutionError Result
  | some result => .ok result
  | none => .error .divisionByZero

namespace Operation

/-- The result of an operation on two known values.  The registers are the ones
to blame for a value of the wrong width. -/
def evaluate [NaNResults] (operation : Operation) (leftRegister rightRegister : UInt16)
    (left right : Value) : Except ExecutionError Value :=
  match operation with
  | .direct (.int operator) => do
      let x <- left.narrowAs .int leftRegister
      let y <- right.narrowAs .int rightRegister
      let result <- divided (operator.apply x y)
      return .int result
  | .direct (.intShift operator) => do
      let x <- left.narrowAs .int leftRegister
      let y <- right.narrowAs .int rightRegister
      return .int (operator.apply x y)
  | .reverseSub => do
      let x <- left.narrowAs .int leftRegister
      let y <- right.narrowAs .int rightRegister
      return .int (y - x)
  | .direct (.long operator) => do
      let x <- left.wideAs .long leftRegister
      let y <- right.wideAs .long rightRegister
      let result <- divided (operator.apply x y)
      return .long result
  | .direct (.longShift operator) => do
      let x <- left.wideAs .long leftRegister
      let y <- right.narrowAs .int rightRegister
      return .long (operator.apply x y)
  | .direct (.float operator) => do
      let x <- left.narrowAs .float leftRegister
      let y <- right.narrowAs .float rightRegister
      return .float (operator.apply FloatingPoint.single (NaNResults.single operator x y) x y)
  | .direct (.double operator) => do
      let x <- left.wideAs .double leftRegister
      let y <- right.wideAs .double rightRegister
      return .double (operator.apply FloatingPoint.double (NaNResults.double operator x y) x y)

end Operation

end DalvikFold
