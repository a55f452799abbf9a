namespace DalvikFold

/-!
The opcodes of the Dalvik instruction set.

Opcodes come in families whose members differ in one respect at a time: the
kind of value they move, the relation they test, the operator they apply, how
their operands are encoded.  An opcode is therefore a family together with its
choices, and what holds of a family is said once.

Besides the single-byte opcodes of executable files there are the quickened
opcodes, which stand only in optimized files, and the payloads, which are data
blocks inside a method body.

Each choice is declared in encoding order, so that its position among the
constructors is its offset inside the family.
-/

/-- The values that a move, a result or a return handles: one register, a
register pair, or a reference. -/
inductive ValueKind where
  | single | wide | object
  deriving Repr, DecidableEq

/-- How far the registers of a move reach: four bits each, one byte and two
bytes, or two bytes each. -/
inductive MoveReach where
  | near | from16 | far
  deriving Repr, DecidableEq

/-- The literal widths of narrow constants.  The high form holds the upper half
of the value. -/
inductive NarrowLiteral where
  | bits4 | bits16 | full | high16
  deriving Repr, DecidableEq

/-- The literal widths of wide constants.  The high form holds the top sixteen
bits of the value. -/
inductive WideLiteral where
  | bits16 | bits32 | full | high16
  deriving Repr, DecidableEq

/-- The loads of a literal, a string or a class. -/
inductive ConstantLoad where
  | narrow (literal : NarrowLiteral)
  | wide (literal : WideLiteral)
  | string
  | stringJumbo
  | classObject
  deriving Repr, DecidableEq

/-- The offset widths of an unconditional jump. -/
inductive JumpReach where
  | bits8 | bits16 | bits32
  deriving Repr, DecidableEq

/-- The three-way comparisons.  The two of a floating-point type differ in what
they answer for operands that have no order. -/
inductive Comparison where
  | floatLess | floatGreater | doubleLess | doubleGreater | long
  deriving Repr, DecidableEq

/-- The relations that a conditional branch tests. -/
inductive Relation where
  | eq | ne | lt | ge | gt | le
  deriving Repr, DecidableEq

/-- Where an accessed element lives: in an array, in an instance field, or in a
static field. -/
inductive Place where
  | array | instanceField | staticField
  deriving Repr, DecidableEq

/-- Whether an access loads into its first register or stores from it. -/
inductive Direction where
  | load | store
  deriving Repr, DecidableEq

/-- The elements that an access handles. -/
inductive ElementKind where
  | single | wide | object | boolean | byte | char | short
  deriving Repr, DecidableEq

/-- The ways to select the method that an invocation calls. -/
inductive InvokeKind where
  | virtual | super | direct | static | interface
  deriving Repr, DecidableEq

/-- How a register list is encoded: register by register, or as a range. -/
inductive RegisterList where
  | listed | range
  deriving Repr, DecidableEq

/-- The operations on one operand that keep its type. -/
inductive UnaryOperation where
  | negInt | notInt | negLong | notLong | negFloat | negDouble
  deriving Repr, DecidableEq

/-- The conversions between numeric types. -/
inductive Conversion where
  | intToLong | intToFloat | intToDouble
  | longToInt | longToFloat | longToDouble
  | floatToInt | floatToLong | floatToDouble
  | doubleToInt | doubleToLong | doubleToFloat
  | intToByte | intToChar | intToShort
  deriving Repr, DecidableEq

/-- The operators on whole numbers whose operands have one width. -/
inductive WholeOperator where
  | add | sub | mul | div | rem | and | or | xor
  deriving Repr, DecidableEq

/-- The shifts of a whole number by an int amount: to the left, to the right
with the sign, and to the right with zeros. -/
inductive ShiftOperator where
  | shl | shr | ushr
  deriving Repr, DecidableEq

/-- The operators on floating-point numbers. -/
inductive FloatOperator where
  | add | sub | mul | div | rem
  deriving Repr, DecidableEq

/-- The operations on two registers, by the type that they work on. -/
inductive RegisterOperation where
  | int (operator : WholeOperator)
  | intShift (operator : ShiftOperator)
  | long (operator : WholeOperator)
  | longShift (operator : ShiftOperator)
  | float (operator : FloatOperator)
  | double (operator : FloatOperator)
  deriving Repr, DecidableEq

/-- Whether an operation on two registers names its destination apart, or
writes over its left operand. -/
inductive RegisterForm where
  | threeRegisters | twoAddress
  deriving Repr, DecidableEq

/-- The arithmetic opcodes.  A literal stands on the right, and among the
operators with a literal the subtraction takes its operands in reverse: it
subtracts the register from the literal. -/
inductive Arithmetic where
  | registers (operation : RegisterOperation) (form : RegisterForm)
  | literal16 (operator : WholeOperator)
  | literal8 (operator : WholeOperator)
  | shiftLiteral8 (operator : ShiftOperator)
  deriving Repr, DecidableEq

/-- The data blocks inside a method body. -/
inductive Payload where
  | packedSwitch | sparseSwitch | array
  deriving Repr, DecidableEq

/-- The opcodes. -/
inductive Opcode where
  | nop
  | move (kind : ValueKind) (reach : MoveReach)
  | moveResult (kind : ValueKind)
  | moveException
  | returnVoid
  | returnValue (kind : ValueKind)
  | constant (load : ConstantLoad)
  | monitorEnter
  | monitorExit
  | checkCast
  | instanceOf
  | arrayLength
  | newInstance
  | newArray
  | filledNewArray (list : RegisterList)
  | fillArrayData
  | throwException
  | goto (reach : JumpReach)
  | packedSwitch
  | sparseSwitch
  | compare (comparison : Comparison)
  | branch (relation : Relation)
  | branchZero (relation : Relation)
  | access (place : Place) (direction : Direction) (element : ElementKind)
  | invoke (kind : InvokeKind) (list : RegisterList)
  | returnVoidNoBarrier
  | unary (operation : UnaryOperation)
  | convert (conversion : Conversion)
  | arithmetic (operation : Arithmetic)
  | quickAccess (direction : Direction) (element : ElementKind)
  | quickInvoke (list : RegisterList)
  | invokePolymorphic (list : RegisterList)
  | invokeCustom (list : RegisterList)
  | constMethodHandle
  | constMethodType
  | payload (block : Payload)
  deriving Repr, DecidableEq

end DalvikFold
