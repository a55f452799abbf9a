import DalvikFold.Proofs.HandlerSteps
import DalvikFold.Proofs.OperatorTables
import DalvikFold.Proofs.PairedRuns
import DalvikFold.Proofs.Preparation

namespace DalvikFold

/-!
# How arithmetic ends

An arithmetic handler reads its operands, left before right, and an operand that
is not known makes its result unknown at once.  Two known operands are looked at
in the same order for their width, and the right one then for being a zero that
divides.  The destination comes last.

This order is written down as a table, with a condition for each error and for
each kind of result, which mentions registers and widths and none of the steps
of the handler.  The conditions exclude each other and leave nothing out, so
that a handler raises an error exactly where the table has it.  That a literal
is never of the wrong width is not in the table: it holds because of the
operations that opcodes with a literal have.
-/

/-! ## Widths and zeros -/

/-- The bits of a number of the type. -/
def NumericType.width : NumericType -> Nat
  | .int | .float => 32
  | .long | .double => 64

/-- The bits that a value has, if it is a number. -/
def Value.width? : Value -> Option Nat
  | .int _ | .float _ => some 32
  | .long _ | .double _ => some 64
  | _ => none

/-- All bits of a number are zero. -/
def Value.IsZero (value : Value) : Prop :=
  value.narrow? = some 0 ∨ value.wide? = some 0

def WholeOperator.divides : WholeOperator -> Bool
  | .div | .rem => true
  | _ => false

namespace Operation

/-- The type that the right operand is read as.  The amount of a shift is an int
even if a long is shifted. -/
def rightType : Operation -> NumericType
  | .direct (.longShift _) => .int
  | operation => operation.type

def divides : Operation -> Bool
  | .direct (.int operator) => operator.divides
  | .direct (.long operator) => operator.divides
  | _ => false

end Operation

/-! ## The table -/

/-- The value of a right operand, if its register is there. -/
def RightOperand.value? (operand : RightOperand) (registers : RegisterFile) : Option Value :=
  match operand with
  | .register number => registers.get? number
  | .literal bits => some (.int bits)

namespace BinaryEffect

/-- The values of the operands. -/
structure Operands (effect : BinaryEffect) (registers : RegisterFile) (left right : Value) :
    Prop where
  leftIs : registers.get? effect.left = some left
  rightIs : effect.right.value? registers = some right

/-- The operands are numbers of the widths that the operation needs. -/
structure Fitting (effect : BinaryEffect) (registers : RegisterFile) (left right : Value) : Prop
    extends effect.Operands registers left right where
  leftFits : left.width? = some effect.operation.type.width
  rightFits : right.width? = some effect.operation.rightType.width

/-- The types of the results. -/
inductive Yields (effect : BinaryEffect) (registers : RegisterFile) : ValueType -> Prop where
  | unknown {left right : Value} (operands : effect.Operands registers left right)
      (isUnknown : left.isKnown = false ∨ right.isKnown = false) :
      Yields effect registers .unknown
  | number {left right : Value} (fitting : effect.Fitting registers left right)
      (divisible : ¬ (effect.operation.divides = true ∧ right.IsZero)) :
      Yields effect registers (.numeric effect.operation.type)

/-- The errors. -/
inductive Fails (effect : BinaryEffect) (registers : RegisterFile) : ExecutionError -> Prop where
  | leftMissing (isMissing : registers.count ≤ effect.left.toNat) :
      Fails effect registers (.invalidRegister effect.left registers.count)
  | rightMissing {number : UInt16} (leftPresent : effect.left.toNat < registers.count)
      (isRegister : effect.right = .register number)
      (isMissing : registers.count ≤ number.toNat) :
      Fails effect registers (.invalidRegister number registers.count)
  | leftMisfits {left right : Value} (operands : effect.Operands registers left right)
      (leftKnown : left.isKnown = true) (rightKnown : right.isKnown = true)
      (misfits : left.width? ≠ some effect.operation.type.width) :
      Fails effect registers (.typeMismatch effect.left effect.operation.type left.type)
  | rightMisfits {left right : Value} {number : UInt16}
      (operands : effect.Operands registers left right) (rightKnown : right.isKnown = true)
      (leftFits : left.width? = some effect.operation.type.width)
      (isRegister : effect.right = .register number)
      (misfits : right.width? ≠ some effect.operation.rightType.width) :
      Fails effect registers (.typeMismatch number effect.operation.rightType right.type)
  | divisionByZero {left right : Value} (fitting : effect.Fitting registers left right)
      (divides : effect.operation.divides = true) (isZero : right.IsZero) :
      Fails effect registers .divisionByZero
  | destMissing {type : ValueType} (yields : effect.Yields registers type)
      (isMissing : registers.count ≤ effect.dest.toNat) :
      Fails effect registers (.invalidRegister effect.dest registers.count)

end BinaryEffect

/-! ## Operations -/

namespace Value

variable {value : Value}

theorem isKnown_of_width? {width : Nat} (isNumber : value.width? = some width) :
    value.isKnown = true := by
  cases value with
  | unknown => cases isNumber
  | _ => rfl

theorem exists_narrow? (isNarrow : value.width? = some 32) :
    Exists fun bits => value.narrow? = some bits := by
  cases value with
  | int bits | float bits => exact ⟨bits, rfl⟩
  | _ => cases isNarrow

theorem exists_wide? (isWide : value.width? = some 64) :
    Exists fun bits => value.wide? = some bits := by
  cases value with
  | long bits | double bits => exact ⟨bits, rfl⟩
  | _ => cases isWide

theorem narrowAs_of_ne (misfits : value.width? ≠ some 32) (expected : NumericType)
    (register : UInt16) :
    value.narrowAs expected register = .error (.typeMismatch register expected value.type) := by
  cases value with
  | int bits | float bits => exact (misfits rfl).elim
  | _ => rfl

theorem wideAs_of_ne (misfits : value.width? ≠ some 64) (expected : NumericType)
    (register : UInt16) :
    value.wideAs expected register = .error (.typeMismatch register expected value.type) := by
  cases value with
  | long bits | double bits => exact (misfits rfl).elim
  | _ => rfl

theorem isZero_iff_of_narrow? {bits : BitVec 32} (isNarrow : value.narrow? = some bits) :
    value.IsZero <-> bits = 0 := by
  cases value with
  | int word | float word =>
      cases isNarrow
      simp [IsZero, narrow?, wide?]
  | _ => cases isNarrow

theorem isZero_iff_of_wide? {bits : BitVec 64} (isWide : value.wide? = some bits) :
    value.IsZero <-> bits = 0 := by
  cases value with
  | long word | double word =>
      cases isWide
      simp [IsZero, narrow?, wide?]
  | _ => cases isWide

end Value

/-- Only a division by zero has no result. -/
theorem WholeOperator.apply_eq_none_iff {width : Nat} {operator : WholeOperator}
    {left right : BitVec width} :
    operator.apply left right = none <-> operator.divides = true ∧ right = 0 := by
  cases operator with
  | div | rem => simp [apply, divides]
  | _ => simp [apply, divides]

theorem divided_apply_of_zero {width : Nat} {operator : WholeOperator} {left right : BitVec width}
    (divides : operator.divides = true) (isZero : right = 0) :
    divided (operator.apply left right) = .error .divisionByZero := by
  rw [WholeOperator.apply_eq_none_iff.mpr ⟨divides, isZero⟩]
  rfl

theorem exists_divided_apply {width : Nat} {operator : WholeOperator} {left right : BitVec width}
    (divisible : ¬ (operator.divides = true ∧ right = 0)) (number : BitVec width -> Value) :
    Exists fun result => (divided (operator.apply left right)).map number = .ok result := by
  cases hasResult : operator.apply left right with
  | some word => exact ⟨number word, rfl⟩
  | none => exact (divisible (WholeOperator.apply_eq_none_iff.mp hasResult)).elim

namespace Operation

variable {operation : Operation} {left right : Value}

private theorem evaluate_of_leftMisfits [NaNResults]
    (misfits : left.width? ≠ some operation.type.width) (leftRegister rightRegister : UInt16) :
    operation.evaluate leftRegister rightRegister left right =
      .error (.typeMismatch leftRegister operation.type left.type) := by
  cases operation with
  | reverseSub =>
      rw [evaluate, Value.narrowAs_of_ne misfits]
      rfl
  | direct operation =>
      cases operation with
      | int operator | intShift operator | float operator =>
          rw [evaluate, Value.narrowAs_of_ne misfits]
          rfl
      | long operator | longShift operator | double operator =>
          rw [evaluate, Value.wideAs_of_ne misfits]
          rfl

private theorem evaluate_of_rightMisfits [NaNResults]
    (leftFits : left.width? = some operation.type.width)
    (misfits : right.width? ≠ some operation.rightType.width)
    (leftRegister rightRegister : UInt16) :
    operation.evaluate leftRegister rightRegister left right =
      .error (.typeMismatch rightRegister operation.rightType right.type) := by
  cases operation with
  | reverseSub =>
      rcases Value.exists_narrow? leftFits with ⟨x, leftBits⟩
      rw [evaluate, Value.narrowAs_of_narrow? leftBits, Value.narrowAs_of_ne misfits]
      rfl
  | direct operation =>
      cases operation with
      | int operator | intShift operator | float operator =>
          rcases Value.exists_narrow? leftFits with ⟨x, leftBits⟩
          rw [evaluate, Value.narrowAs_of_narrow? leftBits, Value.narrowAs_of_ne misfits]
          rfl
      | longShift operator =>
          rcases Value.exists_wide? leftFits with ⟨x, leftBits⟩
          rw [evaluate, Value.wideAs_of_wide? leftBits, Value.narrowAs_of_ne misfits]
          rfl
      | long operator | double operator =>
          rcases Value.exists_wide? leftFits with ⟨x, leftBits⟩
          rw [evaluate, Value.wideAs_of_wide? leftBits, Value.wideAs_of_ne misfits]
          rfl

section Fitting

variable (leftFits : left.width? = some operation.type.width)
variable (rightFits : right.width? = some operation.rightType.width)
variable (leftRegister rightRegister : UInt16)
include leftFits rightFits

private theorem evaluate_of_zero [NaNResults] (divides : operation.divides = true)
    (isZero : right.IsZero) :
    operation.evaluate leftRegister rightRegister left right = .error .divisionByZero := by
  cases operation with
  | reverseSub => cases divides
  | direct operation =>
      cases operation with
      | int operator =>
          rcases Value.exists_narrow? leftFits with ⟨x, leftBits⟩
          rcases Value.exists_narrow? rightFits with ⟨y, rightBits⟩
          have zeroBits := (Value.isZero_iff_of_narrow? rightBits).mp isZero
          rw [evaluate_int leftBits rightBits, divided_apply_of_zero divides zeroBits]
          rfl
      | long operator =>
          rcases Value.exists_wide? leftFits with ⟨x, leftBits⟩
          rcases Value.exists_wide? rightFits with ⟨y, rightBits⟩
          have zeroBits := (Value.isZero_iff_of_wide? rightBits).mp isZero
          rw [evaluate_long leftBits _ _ rightBits, divided_apply_of_zero divides zeroBits]
          rfl
      | intShift operator | longShift operator | float operator | double operator => cases divides

private theorem exists_evaluate [NaNResults]
    (divisible : ¬ (operation.divides = true ∧ right.IsZero)) :
    Exists fun result => operation.evaluate leftRegister rightRegister left right = .ok result := by
  cases operation with
  | reverseSub =>
      rcases Value.exists_narrow? leftFits with ⟨x, leftBits⟩
      rcases Value.exists_narrow? rightFits with ⟨y, rightBits⟩
      exact ⟨_, evaluate_reverseSub leftBits rightBits _ _⟩
  | direct operation =>
      cases operation with
      | int operator =>
          rcases Value.exists_narrow? leftFits with ⟨x, leftBits⟩
          rcases Value.exists_narrow? rightFits with ⟨y, rightBits⟩
          rw [Value.isZero_iff_of_narrow? rightBits] at divisible
          rw [evaluate_int leftBits rightBits]
          exact exists_divided_apply divisible .int
      | long operator =>
          rcases Value.exists_wide? leftFits with ⟨x, leftBits⟩
          rcases Value.exists_wide? rightFits with ⟨y, rightBits⟩
          rw [Value.isZero_iff_of_wide? rightBits] at divisible
          rw [evaluate_long leftBits _ _ rightBits]
          exact exists_divided_apply divisible .long
      | intShift operator =>
          rcases Value.exists_narrow? leftFits with ⟨x, leftBits⟩
          rcases Value.exists_narrow? rightFits with ⟨y, rightBits⟩
          exact ⟨_, evaluate_intShift leftBits rightBits _ _ operator⟩
      | float operator =>
          rcases Value.exists_narrow? leftFits with ⟨x, leftBits⟩
          rcases Value.exists_narrow? rightFits with ⟨y, rightBits⟩
          exact ⟨_, evaluate_float leftBits rightBits _ _ operator⟩
      | longShift operator =>
          rcases Value.exists_wide? leftFits with ⟨x, leftBits⟩
          rcases Value.exists_narrow? rightFits with ⟨y, rightBits⟩
          exact ⟨_, evaluate_longShift leftBits _ _ rightBits operator⟩
      | double operator =>
          rcases Value.exists_wide? leftFits with ⟨x, leftBits⟩
          rcases Value.exists_wide? rightFits with ⟨y, rightBits⟩
          exact ⟨_, evaluate_double leftBits _ _ rightBits operator⟩

end Fitting

end Operation

/-! ## Effects -/

namespace BinaryEffect

variable {effect : BinaryEffect} {registers : RegisterFile} {left right : Value}

private theorem read_right_of_value? {operand : RightOperand}
    (rightIs : operand.value? registers = some right) : operand.read registers = .ok right := by
  cases operand with
  | register number =>
      rw [RightOperand.value?] at rightIs
      rw [RightOperand.read, RegisterFile.read, rightIs]
  | literal bits =>
      cases rightIs
      rfl

/-- What is computed once both operands are there. -/
theorem Operands.result_eq [NaNResults] (operands : effect.Operands registers left right) :
    effect.result registers =
      if (left.isKnown && right.isKnown) = true then
        effect.operation.evaluate effect.left effect.rightRegister left right
      else
        .ok .unknown := by
  have readLeft : registers.read effect.left = .ok left := by
    rw [RegisterFile.read, operands.leftIs]
  rw [result, readLeft, read_right_of_value? operands.rightIs]
  rfl

theorem Operands.result_of_known [NaNResults] (operands : effect.Operands registers left right)
    (leftKnown : left.isKnown = true) (rightKnown : right.isKnown = true) :
    effect.result registers =
      effect.operation.evaluate effect.left effect.rightRegister left right := by
  rw [operands.result_eq, leftKnown, rightKnown]
  rfl

theorem Fitting.result_eq [NaNResults] (fitting : effect.Fitting registers left right) :
    effect.result registers =
      effect.operation.evaluate effect.left effect.rightRegister left right :=
  fitting.toOperands.result_of_known (Value.isKnown_of_width? fitting.leftFits)
    (Value.isKnown_of_width? fitting.rightFits)

private theorem rightRegister_eq {number : UInt16} (isRegister : effect.right = .register number) :
    effect.rightRegister = number := by
  rw [rightRegister, isRegister]

/-- The table is right about results. -/
theorem Yields.exists_result [NaNResults] {type : ValueType}
    (yields : effect.Yields registers type) :
    Exists fun result => effect.result registers = .ok result ∧ result.type = type := by
  cases yields with
  | unknown operands isUnknown =>
      refine ⟨.unknown, ?_, rfl⟩
      rw [operands.result_eq]
      rcases isUnknown with isUnknown | isUnknown <;> simp [isUnknown]
  | number fitting divisible =>
      rcases Operation.exists_evaluate fitting.leftFits fitting.rightFits effect.left
        effect.rightRegister divisible with ⟨result, evaluated⟩
      refine ⟨result, ?_, Operation.evaluate_type evaluated⟩
      rw [fitting.result_eq, evaluated]

/-! ### The table leaves nothing out -/

theorem exists_fails_or_operands (effect : BinaryEffect) (registers : RegisterFile) :
    (Exists fun error => effect.Fails registers error) ∨
      Exists fun left => Exists fun right => effect.Operands registers left right := by
  by_cases leftPresent : effect.left.toNat < registers.count
  · have leftIs := Array.getElem?_eq_getElem leftPresent
    cases isRight : effect.right with
    | literal bits => exact .inr ⟨_, .int bits, leftIs, by rw [isRight]; rfl⟩
    | register number =>
        by_cases rightPresent : number.toNat < registers.count
        · have rightIs := Array.getElem?_eq_getElem rightPresent
          exact .inr ⟨_, _, leftIs, by rw [isRight]; exact rightIs⟩
        · exact .inl ⟨_, .rightMissing leftPresent isRight (Nat.le_of_not_lt rightPresent)⟩
  · exact .inl ⟨_, .leftMissing (Nat.le_of_not_lt leftPresent)⟩

section Literals

variable (literalFits : forall bits, effect.right = .literal bits ->
  effect.operation.rightType.width = 32)
include literalFits

/-- A right operand of the wrong width is a register. -/
theorem Operands.exists_register (operands : effect.Operands registers left right)
    (misfits : right.width? ≠ some effect.operation.rightType.width) :
    Exists fun number => effect.right = .register number := by
  cases isRight : effect.right with
  | register number => exact ⟨number, rfl⟩
  | literal bits =>
      have rightIs := operands.rightIs
      rw [isRight] at rightIs
      cases rightIs
      rw [literalFits bits isRight] at misfits
      exact (misfits rfl).elim

private theorem Operands.exists_fails_or_fitting (operands : effect.Operands registers left right)
    (leftKnown : left.isKnown = true) (rightKnown : right.isKnown = true) :
    (Exists fun error => effect.Fails registers error) ∨ effect.Fitting registers left right := by
  by_cases leftFits : left.width? = some effect.operation.type.width
  · by_cases rightFits : right.width? = some effect.operation.rightType.width
    · exact .inr ⟨operands, leftFits, rightFits⟩
    · rcases operands.exists_register literalFits rightFits with ⟨number, isRegister⟩
      exact .inl ⟨_, .rightMisfits operands rightKnown leftFits isRegister rightFits⟩
  · exact .inl ⟨_, .leftMisfits operands leftKnown rightKnown leftFits⟩

theorem Operands.exists_fails_or_yields (operands : effect.Operands registers left right) :
    (Exists fun error => effect.Fails registers error) ∨
      Exists fun type => effect.Yields registers type := by
  cases leftKnown : left.isKnown with
  | false => exact .inr ⟨_, .unknown operands (.inl leftKnown)⟩
  | true =>
      cases rightKnown : right.isKnown with
      | false => exact .inr ⟨_, .unknown operands (.inr rightKnown)⟩
      | true =>
          rcases operands.exists_fails_or_fitting literalFits leftKnown rightKnown with
            fails | fitting
          · exact .inl fails
          · by_cases zeroDivides : effect.operation.divides = true ∧ right.IsZero
            · exact .inl ⟨_, .divisionByZero fitting zeroDivides.1 zeroDivides.2⟩
            · exact .inr ⟨_, .number fitting zeroDivides⟩

theorem exists_fails_or_yields (registers : RegisterFile) :
    (Exists fun error => effect.Fails registers error) ∨
      Exists fun type => effect.Yields registers type ∧ effect.dest.toNat < registers.count := by
  rcases exists_fails_or_operands effect registers with fails | ⟨left, right, operands⟩
  · exact .inl fails
  · rcases operands.exists_fails_or_yields literalFits with fails | ⟨type, yields⟩
    · exact .inl fails
    · by_cases destPresent : effect.dest.toNat < registers.count
      · exact .inr ⟨type, yields, destPresent⟩
      · exact .inl ⟨_, .destMissing yields (Nat.le_of_not_lt destPresent)⟩

end Literals

end BinaryEffect

/-- The literals of opcodes are ints, and the operations of those opcodes need
nothing else on their right. -/
theorem Arithmetic.rightType_of_literal {arithmetic : Arithmetic}
    (isForm : arithmetic.form = .literal) : arithmetic.operation.rightType = .int := by
  cases arithmetic with
  | registers operation form => cases form <;> cases isForm
  | literal16 operator | literal8 operator | shiftLiteral8 operator => cases operator <;> rfl

private theorem Instruction.Computes.width_of_literal {instruction : Instruction}
    {effect : BinaryEffect} (computes : instruction.Computes effect) (bits : BitVec 32)
    (isLiteral : effect.right = .literal bits) : effect.operation.rightType.width = 32 := by
  cases computes with
  | threeRegisters isForm dest left right | twoAddress isForm dest right => cases isLiteral
  | literal isForm inRange =>
      rw [Arithmetic.rightType_of_literal isForm]
      rfl

/-- The operation and the layout of an effect are those that the tables have
for the opcode. -/
theorem Instruction.Computes.exists_tableEntry {instruction : Instruction} {effect : BinaryEffect}
    (computes : instruction.Computes effect) :
    Exists fun entry => tableEntryAt? instruction.opcode.value = some entry ∧
      entry.operation? = some effect.operation ∧ entry.form = effect.form := by
  cases computes with
  | threeRegisters isForm dest left right | twoAddress isForm dest right
  | literal isForm inRange =>
      rw [← isForm]
      exact Arithmetic.exists_tableEntry _

/-! ## Handlers -/

namespace Handler

variable {handler : Handler} {effect : BinaryEffect} {registers : RegisterFile}

theorem execute_of_result_error [NaNResults] (isBinary : handler.effect = .binary effect)
    {error : ExecutionError} (failed : effect.result registers = .error error) :
    handler.execute registers = .error error := by
  rw [execute, isBinary]
  simp only [failed]
  rfl

theorem execute_of_result_ok [NaNResults] (isBinary : handler.effect = .binary effect)
    {result : Value} (hasResult : effect.result registers = .ok result) :
    handler.execute registers =
      (registers.assign effect.dest result).map (fun after => (.next, after)) := by
  rw [execute, isBinary]
  simp only [hasResult]
  change (registers.assign effect.dest result >>= fun after => .ok (Step.next, after)) = _
  cases registers.assign effect.dest result <;> rfl

/-- The table is right about errors. -/
theorem execute_of_fails [NaNResults] (isBinary : handler.effect = .binary effect)
    {error : ExecutionError}
    (fails : effect.Fails registers error) : handler.execute registers = .error error := by
  cases fails with
  | leftMissing isMissing =>
      refine execute_of_result_error isBinary ?_
      rw [BinaryEffect.result, RegisterFile.read_of_not_lt _ _ (Nat.not_lt.mpr isMissing)]
      rfl
  | rightMissing leftPresent isRegister isMissing =>
      refine execute_of_result_error isBinary ?_
      rw [BinaryEffect.result, RegisterFile.read_of_lt _ _ leftPresent, isRegister,
        RightOperand.read, RegisterFile.read_of_not_lt _ _ (Nat.not_lt.mpr isMissing)]
      rfl
  | leftMisfits operands leftKnown rightKnown misfits =>
      refine execute_of_result_error isBinary ?_
      rw [operands.result_of_known leftKnown rightKnown,
        Operation.evaluate_of_leftMisfits misfits]
  | rightMisfits operands rightKnown leftFits isRegister misfits =>
      refine execute_of_result_error isBinary ?_
      rw [operands.result_of_known (Value.isKnown_of_width? leftFits) rightKnown,
        Operation.evaluate_of_rightMisfits leftFits misfits,
        BinaryEffect.rightRegister_eq isRegister]
  | divisionByZero fitting divides isZero =>
      refine execute_of_result_error isBinary ?_
      rw [fitting.result_eq,
        Operation.evaluate_of_zero fitting.leftFits fitting.rightFits _ _ divides isZero]
  | destMissing yields isMissing =>
      rcases yields.exists_result with ⟨result, hasResult, _⟩
      rw [execute_of_result_ok isBinary hasResult, RegisterFile.assign,
        if_neg (Nat.not_lt.mpr isMissing)]
      rfl

theorem execute_of_yields [NaNResults] (isBinary : handler.effect = .binary effect)
    {type : ValueType}
    (yields : effect.Yields registers type) (destPresent : effect.dest.toNat < registers.count) :
    Exists fun result => result.type = type ∧
      handler.execute registers = .ok (.next, registers.set effect.dest result) := by
  rcases yields.exists_result with ⟨result, hasResult, isType⟩
  refine ⟨result, isType, ?_⟩
  rw [execute_of_result_ok isBinary hasResult, RegisterFile.assign, if_pos destPresent]
  rfl

/-- A handler on some registers ends as the table has it. -/
structure EndsBy [NaNResults] (handler : Handler) (effect : BinaryEffect)
    (registers : RegisterFile) : Prop where
  error_iff : forall error,
    handler.execute registers = .error error <-> effect.Fails registers error
  success : forall type, effect.Yields registers type ->
    effect.dest.toNat < registers.count -> Exists fun result => result.type = type ∧
      handler.execute registers = .ok (.next, registers.set effect.dest result)
  /-- There are no other successes. -/
  success_only : forall step after, handler.execute registers = .ok (step, after) ->
    effect.dest.toNat < registers.count ∧ step = .next ∧ Exists fun result =>
      effect.Yields registers result.type ∧ after = registers.set effect.dest result

private theorem endsBy_of_literalFits [NaNResults] (isBinary : handler.effect = .binary effect)
    (literalFits : forall bits, effect.right = .literal bits ->
      effect.operation.rightType.width = 32) : handler.EndsBy effect registers := by
  constructor
  · intro error
    refine ⟨fun failed => ?_, execute_of_fails isBinary⟩
    rcases BinaryEffect.exists_fails_or_yields literalFits registers with
      ⟨raised, fails⟩ | ⟨type, yields, destPresent⟩
    · rw [execute_of_fails isBinary fails] at failed
      cases failed
      exact fails
    · rcases execute_of_yields isBinary yields destPresent with ⟨result, _, succeeded⟩
      rw [succeeded] at failed
      cases failed
  · exact fun type yields destPresent => execute_of_yields isBinary yields destPresent
  · intro step after succeeded
    rcases BinaryEffect.exists_fails_or_yields literalFits registers with
      ⟨raised, fails⟩ | ⟨type, yields, destPresent⟩
    · rw [execute_of_fails isBinary fails] at succeeded
      cases succeeded
    · rcases execute_of_yields isBinary yields destPresent with ⟨result, isType, executed⟩
      rw [executed] at succeeded
      cases succeeded
      exact ⟨destPresent, rfl, result, isType ▸ yields, rfl⟩

/-- The handler that is built from an arithmetic instruction has the operation
that the tables have for its opcode, and it ends as the table of outcomes has
it, whatever the registers hold. -/
theorem endsBy_of_binary [NaNResults] {instruction : Instruction} {index : Nat}
    (built : Handler.binary instruction index = .ok handler) :
    Exists fun effect => handler.effect = .binary effect ∧ instruction.Computes effect ∧
      (Exists fun entry => tableEntryAt? instruction.opcode.value = some entry ∧
        entry.operation? = some effect.operation ∧ entry.form = effect.form) ∧
      forall registers, handler.EndsBy effect registers := by
  rcases Except.exists_of_map built with ⟨effect, hasEffect, isHandler⟩
  subst isHandler
  have computes := Instruction.computes_of_binaryEffect hasEffect
  exact ⟨effect, rfl, computes, computes.exists_tableEntry,
    fun registers => endsBy_of_literalFits rfl computes.width_of_literal⟩

/-- A long is shifted by an int.  A shift by a long is blamed on the register of
the amount, an unknown amount is not looked at, and a register that is not there
comes before both. -/
theorem endsBy_of_binary_longShift :
    let shift : Arithmetic := .registers (.longShift .shl) .threeRegisters
    let instruction : Instruction :=
      ⟨.arithmetic shift, [.register 0, .register 1, .register 2]⟩
    Exists fun handler => Handler.binary instruction 0 = .ok handler ∧
      handler.execute ⟨#[.unknown, .double 1, .long 1]⟩ =
        .error (.typeMismatch 2 .int (.numeric .long)) ∧
      handler.execute ⟨#[.unknown, .string "text"]⟩ = .error (.invalidRegister 2 2) ∧
      (Exists fun result => result.type = .unknown ∧
        handler.execute ⟨#[.int 7, .string "text", .unknown]⟩ =
          .ok (.next, ⟨#[result, .string "text", .unknown]⟩)) := by
  intro shift instruction
  have built : Handler.binary instruction 0 = .ok ⟨instruction, 0, .binary
      ⟨.direct (.longShift .shl), .threeRegisters, 0, 1, .register 2⟩⟩ := rfl
  rcases endsBy_of_binary built with ⟨effect, isBinary, _, _, ends⟩
  cases isBinary
  refine ⟨_, built, ?_, ?_, ?_⟩
  · have operands : BinaryEffect.Operands
        ⟨.direct (.longShift .shl), .threeRegisters, 0, 1, .register 2⟩
        ⟨#[.unknown, .double 1, .long 1]⟩ (.double 1) (.long 1) := ⟨rfl, rfl⟩
    exact ((ends _).error_iff _).mpr (.rightMisfits operands rfl rfl rfl (by decide))
  · exact ((ends _).error_iff _).mpr (.rightMissing (by decide) rfl (by decide))
  · exact (ends _).success _ (.unknown ⟨rfl, rfl⟩ (.inr rfl)) (by decide)

end Handler

end DalvikFold
