import Mathlib.Tactic.SplitIfs
import DalvikFold.Handler.Effect
import DalvikFold.Opcode.Encoding

namespace DalvikFold

/-!
# Operators by position

The arithmetic opcodes stand in blocks, so that an opcode can be decoded by its
distance from the start of its block, which is an index into a table.  A table
lists operators and knows nothing of types: an index may lie behind its end, and
an operator may have no operation on the type of the block.  Neither ever
happens for an opcode.  What is found at its position is its own operation.

Two opcodes therefore have the same operation if their positions have the same
entry, and this is how the encodings of one operation are compared.
-/

/-! ## Tables -/

/-- The operators of the tables, which are of no type. -/
inductive TableOperator where
  | whole (operator : WholeOperator)
  | shift (operator : ShiftOperator)
  | reverseSub
  deriving Repr, DecidableEq

/-- The operators of a block of one type, in encoding order.  The blocks of
floating-point numbers end early. -/
def blockOperators : List TableOperator :=
  [.whole .add, .whole .sub, .whole .mul, .whole .div, .whole .rem, .whole .and, .whole .or,
    .whole .xor, .shift .shl, .shift .shr, .shift .ushr]

/-- The operators with a literal, in encoding order.  The block of sixteen-bit
literals ends early. -/
def literalOperators : List TableOperator :=
  [.whole .add, .reverseSub, .whole .mul, .whole .div, .whole .rem, .whole .and, .whole .or,
    .whole .xor, .shift .shl, .shift .shr, .shift .ushr]

/-- The tables differ at one position only. -/
theorem literalOperators_eq_blockOperators : forall position, position < 11 -> position ≠ 1 ->
    literalOperators[position]? = blockOperators[position]? := by
  decide

/-- What is found at a position. -/
structure TableEntry where
  operator : TableOperator
  type : NumericType
  form : OperandForm
  deriving Repr, DecidableEq

/-- The entry at a distance from the start of a range of thirty-two opcodes:
eleven on ints, eleven on longs, five on floats and five on doubles. -/
def blockEntryAt? (form : OperandForm) (offset : Nat) : Option TableEntry :=
  if offset ≤ 10 then
    (blockOperators[offset]?).map (⟨·, .int, form⟩)
  else if offset ≤ 21 then
    (blockOperators[offset - 11]?).map (⟨·, .long, form⟩)
  else if offset ≤ 26 then
    (blockOperators[offset - 22]?).map (⟨·, .float, form⟩)
  else
    (blockOperators[offset - 27]?).map (⟨·, .double, form⟩)

/-- A block is the same in every layout. -/
theorem blockEntryAt?_of_form {form : OperandForm} {offset : Nat} {entry : TableEntry}
    (isEntry : blockEntryAt? form offset = some entry) (other : OperandForm) :
    entry.form = form ∧ blockEntryAt? other offset = some { entry with form := other } := by
  unfold blockEntryAt? at isEntry ⊢
  split_ifs at isEntry ⊢ <;>
    · rcases Option.map_eq_some_iff.mp isEntry with ⟨operator, isOperator, rfl⟩
      rw [isOperator]
      exact ⟨rfl, rfl⟩

/-- The entry at a distance from the start of a range of literals. -/
def literalEntryAt? (offset : Nat) : Option TableEntry :=
  (literalOperators[offset]?).map (⟨·, .int, .literal⟩)

/-- The entry for the value of an opcode; none outside the ranges of arithmetic,
and none for an index behind the end of a table. -/
def tableEntryAt? (value : Nat) : Option TableEntry :=
  if 0x90 ≤ value ∧ value ≤ 0xaf then
    blockEntryAt? .threeRegisters (value - 0x90)
  else if 0xb0 ≤ value ∧ value ≤ 0xcf then
    blockEntryAt? .twoAddress (value - 0xb0)
  else if 0xd0 ≤ value ∧ value ≤ 0xd7 then
    literalEntryAt? (value - 0xd0)
  else if 0xd8 ≤ value ∧ value ≤ 0xe2 then
    literalEntryAt? (value - 0xd8)
  else
    none

/-- An operator on floating-point numbers, if it is one. -/
def WholeOperator.floating? : WholeOperator -> Option FloatOperator
  | .add => some .add
  | .sub => some .sub
  | .mul => some .mul
  | .div => some .div
  | .rem => some .rem
  | .and | .or | .xor => none

/-- The operation of an operator on numbers of a type, if there is one.  Only
ints are subtracted in reverse, and floating-point numbers are neither shifted
nor combined by bits. -/
def TableOperator.operation? : TableOperator -> NumericType -> Option Operation
  | .whole operator, .int => some (.direct (.int operator))
  | .whole operator, .long => some (.direct (.long operator))
  | .whole operator, .float => operator.floating?.map (.direct <| .float ·)
  | .whole operator, .double => operator.floating?.map (.direct <| .double ·)
  | .shift operator, .int => some (.direct (.intShift operator))
  | .shift operator, .long => some (.direct (.longShift operator))
  | .reverseSub, .int => some .reverseSub
  | _, _ => none

/-- The operation of an entry, if there is one. -/
def TableEntry.operation? (entry : TableEntry) : Option Operation :=
  entry.operator.operation? entry.type

/-! ## Opcodes in their tables -/

namespace Arithmetic

/-- The tables have an entry for every arithmetic opcode, and the entry has the
operation and the layout of the opcode. -/
theorem exists_tableEntry (arithmetic : Arithmetic) :
    Exists fun entry => tableEntryAt? arithmetic.value = some entry ∧
      entry.operation? = some arithmetic.operation ∧ entry.form = arithmetic.form := by
  -- A value is a number only once all choices of its family are made.
  cases arithmetic with
  | registers operation form =>
      cases operation with
      | int operator | intShift operator | long operator | longShift operator
      | float operator | double operator =>
          cases operator <;> cases form <;> exact ⟨_, rfl, rfl, rfl⟩
  | literal16 operator | literal8 operator | shiftLiteral8 operator =>
      cases operator <;> exact ⟨_, rfl, rfl, rfl⟩

end Arithmetic

end DalvikFold
