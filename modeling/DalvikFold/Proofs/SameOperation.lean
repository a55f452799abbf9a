import DalvikFold.Proofs.ArithmeticOutcomes
import DalvikFold.Proofs.StepwiseRuns
import DalvikFold.Proofs.WellFormedInstructions

namespace DalvikFold

/-!
# Encodings of one operation

An operation on registers has up to four encodings.  They differ in where the
right operand comes from, and in whether the destination is named apart from
the left operand.  With the same operands they do the same, whatever the
registers hold: they compute the same value or fail with the same error, which
blames the same register, and they leave the same registers behind.

Which opcodes encode one operation is said by their values alone, so that the
order of the operators within the ranges is part of what is proved.  Reverse
subtraction is the exception to that order.  It has no encoding without a
literal, and stands where the literal encoding of subtraction would be, as a
subtraction with its operands exchanged.
-/

/-! ## Acting alike -/

/-- Two instructions do the same to some registers.  Both have a handler,
wherever they stand, and the handlers end alike and leave the same registers. -/
def Instruction.ActAlike [NaNResults] (first second : Instruction)
    (registers : RegisterFile) : Prop :=
  forall index otherIndex, Exists fun handler => Exists fun other =>
    Handler.binary first index = .ok handler ∧ Handler.binary second otherIndex = .ok other ∧
      handler.perform.runOn registers = other.perform.runOn registers

theorem Instruction.Computes.binary_eq {instruction : Instruction} {effect : BinaryEffect}
    (computes : instruction.Computes effect) (index : Nat) :
    Handler.binary instruction index = .ok ⟨instruction, index, .binary effect⟩ := by
  rw [Handler.binary, computes.binaryEffect_eq]
  rfl

/-- An effect is what it computes, and where it puts that. -/
theorem Instruction.Computes.actAlike [NaNResults] {first second : Instruction}
    {effect other : BinaryEffect} {registers : RegisterFile} (computes : first.Computes effect)
    (computesOther : second.Computes other) (sameDest : effect.dest = other.dest)
    (sameResult : effect.result registers = other.result registers) :
    first.ActAlike second registers := by
  intro index otherIndex
  refine ⟨_, _, computes.binary_eq index, computesOther.binary_eq otherIndex, ?_⟩
  rw [Handler.runOn_perform, Handler.runOn_perform, Handler.execute, Handler.execute]
  simp only [sameDest, sameResult]

/-! ## Literals and registers that hold them -/

/-- The register of an int on the right is not looked at. -/
theorem Operation.evaluate_right_int [NaNResults] {operation : Operation}
    (isInt : operation.rightType = .int)
    (leftRegister rightRegister otherRegister : UInt16) (left : Value) (bits : BitVec 32) :
    operation.evaluate leftRegister rightRegister left (.int bits) =
      operation.evaluate leftRegister otherRegister left (.int bits) := by
  cases operation with
  | reverseSub => rfl
  | direct operation =>
      cases operation with
      | int operator | intShift operator | longShift operator => rfl
      | long operator | float operator | double operator => cases isInt

private theorem Operation.evaluate_reverseSub_eq_sub [NaNResults]
    (register otherRegister literalRegister : UInt16) (left : Value) (bits : BitVec 32) :
    evaluate .reverseSub register otherRegister left (.int bits) =
      evaluate (.direct (.int .sub)) literalRegister register (.int bits) left :=
  rfl

namespace BinaryEffect

variable {registers : RegisterFile} {holder : UInt16} {bits : BitVec 32}
variable (holds : registers.get? holder = some (.int bits))
include holds

theorem read_holder : registers.read holder = .ok (.int bits) := by
  rw [RegisterFile.read, holds]

private theorem result_literal_eq [NaNResults] {operation : Operation}
    (isInt : operation.rightType = .int) (form otherForm : OperandForm) (dest left : UInt16) :
    result ⟨operation, form, dest, left, .literal bits⟩ registers =
      result ⟨operation, otherForm, dest, left, .register holder⟩ registers := by
  simp only [result, RightOperand.read, read_holder holds, rightRegister]
  cases registers.read left with
  | error error => rfl
  | ok value =>
      change (if value.isKnown && true then operation.evaluate left left value (.int bits) else _) =
        (if value.isKnown && true then operation.evaluate left holder value (.int bits) else _)
      rw [Operation.evaluate_right_int isInt left left holder]

private theorem result_reverseSub_eq [NaNResults] (form otherForm : OperandForm)
    (dest right : UInt16) : result ⟨.reverseSub, form, dest, right, .literal bits⟩ registers =
      result ⟨.direct (.int .sub), otherForm, dest, holder, .register right⟩ registers := by
  simp only [result, RightOperand.read, read_holder holds, rightRegister]
  cases registers.read right with
  | error error => rfl
  | ok value =>
      change (if value.isKnown && true then
          Operation.evaluate .reverseSub right right value (.int bits) else _) =
        (if value.isKnown then
          Operation.evaluate (.direct (.int .sub)) holder right (.int bits) value else _)
      rw [Bool.and_true, Operation.evaluate_reverseSub_eq_sub right right holder]

end BinaryEffect

/-! ## Opcodes by value -/

/-- An opcode at a position of a range with literals of some width. -/
inductive Opcode.TakesLiteral (opcode : Opcode) : Nat -> Nat -> Prop where
  | bits16 {position : Nat} (inRange : position < 8) (isValue : opcode.value = 0xd0 + position) :
      TakesLiteral opcode 16 position
  | bits8 {position : Nat} (inRange : position < 11) (isValue : opcode.value = 0xd8 + position) :
      TakesLiteral opcode 8 position

/-- The entry of an arithmetic opcode. -/
structure Arithmetic.HasEntry (arithmetic : Arithmetic) (entry : TableEntry) : Prop where
  operation_eq : entry.operation? = some arithmetic.operation
  form_eq : arithmetic.form = entry.form

/-- Only the operator and the type of an entry matter for the operation. -/
theorem Arithmetic.HasEntry.operation_unique {first second : Arithmetic}
    {entry other : TableEntry} (hasEntry : first.HasEntry entry) (hasOther : second.HasEntry other)
    (sameOperator : entry.operator = other.operator) (sameType : entry.type = other.type) :
    first.operation = second.operation := by
  have sameOperation : entry.operation? = other.operation? := by
    rw [TableEntry.operation?, sameOperator, sameType]
    rfl
  rw [hasEntry.operation_eq, hasOther.operation_eq] at sameOperation
  exact Option.some.inj sameOperation

namespace Opcode

variable {opcode : Opcode}

theorem exists_hasEntry (isArithmetic : opcode.IsArithmetic) :
    Exists fun arithmetic => Exists fun entry => opcode = .arithmetic arithmetic ∧
      tableEntryAt? opcode.value = some entry ∧ arithmetic.HasEntry entry := by
  rcases isArithmetic.exists_operation with ⟨arithmetic, rfl⟩
  rcases arithmetic.exists_tableEntry with ⟨entry, isEntry, isOperation, isForm⟩
  exact ⟨arithmetic, entry, rfl, isEntry, isOperation, isForm.symm⟩

/-- The three-register opcodes on ints stand in the order of the operators. -/
theorem exists_of_int {position : Nat} (inRange : position < 11)
    (isValue : opcode.value = 0x90 + position) :
    Exists fun arithmetic => Exists fun operator => opcode = .arithmetic arithmetic ∧
      blockOperators[position]? = some operator ∧
      arithmetic.HasEntry ⟨operator, .int, .threeRegisters⟩ := by
  have isArithmetic : opcode.IsArithmetic := by
    unfold IsArithmetic
    omega
  rcases exists_hasEntry isArithmetic with ⟨arithmetic, entry, isOpcode, isEntry, hasEntry⟩
  have atPosition : tableEntryAt? (0x90 + position) =
      (blockOperators[position]?).map (⟨·, .int, .threeRegisters⟩) := by
    rw [tableEntryAt?, if_pos (by omega), Nat.add_sub_cancel_left, blockEntryAt?, if_pos (by omega)]
  rw [isValue, atPosition] at isEntry
  rcases Option.map_eq_some_iff.mp isEntry with ⟨operator, isOperator, rfl⟩
  exact ⟨arithmetic, operator, isOpcode, isOperator, hasEntry⟩

/-- The opcodes with a literal stand in the order of their operators. -/
theorem TakesLiteral.exists_arithmetic {bits position : Nat}
    (takes : opcode.TakesLiteral bits position) :
    Exists fun arithmetic => Exists fun operator => opcode = .arithmetic arithmetic ∧
      literalOperators[position]? = some operator ∧
      arithmetic.HasEntry ⟨operator, .int, .literal⟩ := by
  have isArithmetic : opcode.IsArithmetic := by
    unfold IsArithmetic
    cases takes <;> omega
  rcases exists_hasEntry isArithmetic with ⟨arithmetic, entry, isOpcode, isEntry, hasEntry⟩
  have atPosition : tableEntryAt? opcode.value =
      (literalOperators[position]?).map (⟨·, .int, .literal⟩) := by
    cases takes with
    | bits16 inRange isValue =>
        rw [isValue, tableEntryAt?, if_neg (by omega), if_neg (by omega), if_pos (by omega),
          Nat.add_sub_cancel_left, literalEntryAt?]
    | bits8 inRange isValue =>
        rw [isValue, tableEntryAt?, if_neg (by omega), if_neg (by omega), if_neg (by omega),
          if_pos (by omega), Nat.add_sub_cancel_left, literalEntryAt?]
  rw [atPosition] at isEntry
  rcases Option.map_eq_some_iff.mp isEntry with ⟨operator, isOperator, rfl⟩
  exact ⟨arithmetic, operator, isOpcode, isOperator, hasEntry⟩

theorem TakesLiteral.lt {bits position : Nat} (takes : opcode.TakesLiteral bits position) :
    position < 11 := by
  cases takes <;> omega

end Opcode

/-! ## Literal fields and mnemonics -/

/-- The layout of an encoding without a literal. -/
def RegisterForm.layout : RegisterForm -> OperandForm
  | .threeRegisters => .threeRegisters
  | .twoAddress => .twoAddress

namespace Arithmetic

variable {arithmetic : Arithmetic} {bits position : Nat}

/-- The literals of a range have the width that their opcodes check. -/
theorem literalWidth?_eq (isForm : arithmetic.form = .literal)
    (takes : (Opcode.arithmetic arithmetic).TakesLiteral bits position) :
    (Opcode.arithmetic arithmetic).literalWidth? = some bits := by
  cases arithmetic with
  | registers operation form => cases form <;> cases isForm
  | literal16 operator =>
      cases takes with
      | bits16 inRange isValue => rfl
      | bits8 inRange isValue =>
          have bounded : operator.ctorIdx < 8 := by cases operator <;> decide
          change 0xd0 + operator.ctorIdx = 0xd8 + position at isValue
          omega
  | literal8 operator =>
      cases takes with
      | bits16 inRange isValue =>
          change 0xd8 + operator.ctorIdx = 0xd0 + position at isValue
          omega
      | bits8 inRange isValue => rfl
  | shiftLiteral8 operator =>
      cases takes with
      | bits16 inRange isValue =>
          change 0xe0 + operator.ctorIdx = 0xd0 + position at isValue
          omega
      | bits8 inRange isValue => rfl

theorem literalError?_eq_none (isForm : arithmetic.form = .literal)
    (takes : (Opcode.arithmetic arithmetic).TakesLiteral bits position) {value : Int64}
    (fits : FitsSigned bits value) (operands : List Operand) :
    Instruction.literalError? ⟨.arithmetic arithmetic, operands⟩ value = none := by
  have isWidth : (Opcode.arithmetic arithmetic).format.literalBits? = some bits := by
    rw [← literalWidth?_eq isForm takes]
    exact arithmetic.literalBits?_format
  have inField : fitsField bits value = true := (LiteralLoad.fitsField_iff bits value).mpr fits
  simp only [Instruction.literalError?, isWidth, if_pos inField]

theorem exists_registers (form : RegisterForm) (isForm : arithmetic.form = form.layout) :
    Exists fun operation => arithmetic = .registers operation form := by
  cases arithmetic with
  | registers operation other =>
      cases form <;> cases other <;> first | exact ⟨operation, rfl⟩ | cases isForm
  | _ => cases form <;> cases isForm

/-- A mnemonic names the operation, and after it the width of the literal. -/
theorem mnemonic_eq {other : Arithmetic} (isForm : arithmetic.form = .literal)
    (isWidth : (Opcode.arithmetic arithmetic).literalWidth? = some bits)
    (otherForm : other.form = .threeRegisters)
    (sameOperation : arithmetic.operation = other.operation) :
    arithmetic.mnemonic = other.mnemonic ++ "/lit" ++ Text.decimal bits := by
  rcases exists_registers .threeRegisters otherForm with ⟨operation, rfl⟩
  cases arithmetic with
  | registers operation form => cases form <;> cases isForm
  | literal16 operator | literal8 operator | shiftLiteral8 operator =>
      cases isWidth
      cases operator <;> cases sameOperation <;> decide

private theorem mnemonic_of_reverseSub
    (isWidth : (Opcode.arithmetic arithmetic).literalWidth? = some bits)
    (isReverseSub : arithmetic.operation = .reverseSub) :
    arithmetic.mnemonic = if bits = 8 then "rsub-int/lit8" else "rsub-int" := by
  cases arithmetic with
  | registers operation form | shiftLiteral8 operation => cases isReverseSub
  | literal16 operator | literal8 operator =>
      cases isWidth
      cases operator <;> cases isReverseSub
      rfl

private theorem mnemonic_of_sub (isForm : arithmetic.form = .threeRegisters)
    (isSub : arithmetic.operation = .direct (.int .sub)) : arithmetic.mnemonic = "sub-int" := by
  rcases exists_registers .threeRegisters isForm with ⟨operation, rfl⟩
  cases isSub
  rfl

end Arithmetic

/-! ## Pairs of opcodes -/

namespace Opcode

/-- Thirty-two values apart, the layout changes and nothing else. -/
theorem exists_registerForms {three two : Opcode} (least : 0x90 ≤ three.value)
    (greatest : three.value ≤ 0xaf) (isValue : two.value = three.value + 0x20) :
    Exists fun operation => three = .arithmetic (.registers operation .threeRegisters) ∧
      two = .arithmetic (.registers operation .twoAddress) := by
  have isArithmetic : three.IsArithmetic ∧ two.IsArithmetic := by
    unfold IsArithmetic
    omega
  rcases exists_hasEntry isArithmetic.1 with ⟨first, entry, isFirst, isEntry, hasEntry⟩
  rcases exists_hasEntry isArithmetic.2 with ⟨second, other, isSecond, isOther, hasOther⟩
  rw [tableEntryAt?, if_pos ⟨least, greatest⟩] at isEntry
  rcases blockEntryAt?_of_form isEntry .twoAddress with ⟨isForm, atOffset⟩
  have sameOffset : two.value - 0xb0 = three.value - 0x90 := by omega
  rw [tableEntryAt?, if_neg (by omega), if_pos (by omega), sameOffset, atOffset] at isOther
  cases isOther
  rcases first.exists_registers .threeRegisters (hasEntry.form_eq.trans isForm) with
    ⟨operation, rfl⟩
  rcases second.exists_registers .twoAddress hasOther.form_eq with ⟨otherOperation, rfl⟩
  have sameOperation := hasEntry.operation_unique hasOther rfl rfl
  cases sameOperation
  exact ⟨operation, isFirst, isSecond⟩

/-- Apart from the reverse subtraction, a literal opcode has the operation of
the opcode on ints at the same position. -/
theorem TakesLiteral.exists_int {withLiteral three : Opcode} {bits position : Nat}
    (takes : withLiteral.TakesLiteral bits position) (isDirect : position ≠ 1)
    (isValue : three.value = 0x90 + position) :
    Exists fun literal => Exists fun arithmetic => withLiteral = .arithmetic literal ∧
      three = .arithmetic arithmetic ∧ literal.form = .literal ∧
      arithmetic.form = .threeRegisters ∧ literal.operation = arithmetic.operation := by
  rcases takes.exists_arithmetic with ⟨literal, operator, isLiteral, atPosition, hasEntry⟩
  rcases exists_of_int takes.lt isValue with ⟨arithmetic, other, isInt, atOther, hasOther⟩
  rw [literalOperators_eq_blockOperators position takes.lt isDirect, atOther] at atPosition
  cases atPosition
  exact ⟨literal, arithmetic, isLiteral, isInt, hasEntry.form_eq, hasOther.form_eq,
    hasEntry.operation_unique hasOther rfl rfl⟩

theorem TakesLiteral.exists_reverseSub {withLiteral three : Opcode} {bits : Nat}
    (takes : withLiteral.TakesLiteral bits 1) (isValue : three.value = 0x91) :
    Exists fun literal => Exists fun arithmetic => withLiteral = .arithmetic literal ∧
      three = .arithmetic arithmetic ∧ literal.form = .literal ∧
      arithmetic.form = .threeRegisters ∧ literal.operation = .reverseSub ∧
      arithmetic.operation = .direct (.int .sub) := by
  rcases takes.exists_arithmetic with ⟨literal, operator, isLiteral, atPosition, hasEntry⟩
  rcases exists_of_int takes.lt isValue with ⟨arithmetic, other, isInt, atOther, hasOther⟩
  cases atPosition
  cases atOther
  exact ⟨literal, arithmetic, isLiteral, isInt, hasEntry.form_eq, hasOther.form_eq,
    (Option.some.inj hasEntry.operation_eq).symm, (Option.some.inj hasOther.operation_eq).symm⟩

/-- The two ranges of literals have the same operations. -/
theorem TakesLiteral.exists_widths {first second : Opcode} {bits otherBits position : Nat}
    (takes : first.TakesLiteral bits position)
    (takesOther : second.TakesLiteral otherBits position) :
    Exists fun literal => Exists fun other => first = .arithmetic literal ∧
      second = .arithmetic other ∧ literal.form = .literal ∧ other.form = .literal ∧
      literal.operation = other.operation := by
  rcases takes.exists_arithmetic with ⟨literal, operator, isFirst, atPosition, hasEntry⟩
  rcases takesOther.exists_arithmetic with ⟨other, otherOperator, isSecond, atOther, hasOther⟩
  rw [atPosition] at atOther
  cases atOther
  exact ⟨literal, other, isFirst, isSecond, hasEntry.form_eq, hasOther.form_eq,
    hasEntry.operation_unique hasOther rfl rfl⟩

end Opcode

/-! ## The encodings agree -/

namespace Instruction

/-- The word of a literal. -/
theorem setWidth_toBitVec (value : Int64) :
    value.toBitVec.setWidth 32 = BitVec.ofInt 32 value.toInt := by
  rw [← LiteralLoad.setWidth_ofInt, Int64.toInt, BitVec.ofInt_toInt]

section Literals

variable {withLiteral three : Opcode} {bits position : Nat} {value : Int64}
variable {dest register holder : UInt16} {registers : RegisterFile}
variable (fits : FitsSigned bits value)
variable (holds : registers.get? holder = some (.int (BitVec.ofInt 32 value.toInt)))
include fits holds

private theorem actAlike_literal [NaNResults] (takes : withLiteral.TakesLiteral bits position)
    (isDirect : position ≠ 1) (isValue : three.value = 0x90 + position) :
    ActAlike ⟨withLiteral, [.register dest, .register register, .literal value]⟩
      ⟨three, [.register dest, .register register, .register holder]⟩ registers := by
  rcases takes.exists_int isDirect isValue with
    ⟨literal, arithmetic, rfl, rfl, isLiteral, isForm, sameOperation⟩
  have inRange := Arithmetic.literalError?_eq_none isLiteral takes fits
    [.register dest, .register register, .literal value]
  have isInt := Arithmetic.rightType_of_literal isLiteral
  rw [← setWidth_toBitVec] at holds
  refine (Computes.literal isLiteral inRange).actAlike
    (.threeRegisters isForm dest register holder) rfl ?_
  rw [BinaryEffect.result_literal_eq holds isInt .literal .threeRegisters, sameOperation]

private theorem actAlike_reverseSub [NaNResults] (takes : withLiteral.TakesLiteral bits 1)
    (isValue : three.value = 0x91) :
    ActAlike ⟨withLiteral, [.register dest, .register register, .literal value]⟩
      ⟨three, [.register dest, .register holder, .register register]⟩ registers := by
  rcases takes.exists_reverseSub isValue with
    ⟨literal, arithmetic, rfl, rfl, isLiteral, isForm, isReverseSub, isSub⟩
  have inRange := Arithmetic.literalError?_eq_none isLiteral takes fits
    [.register dest, .register register, .literal value]
  rw [← setWidth_toBitVec] at holds
  refine (Computes.literal isLiteral inRange).actAlike
    (.threeRegisters isForm dest holder register) rfl ?_
  rw [isReverseSub, isSub]
  exact BinaryEffect.result_reverseSub_eq holds .literal .threeRegisters dest register

end Literals

/-- The encodings of an operation do the same with the same operands.  A literal
is the same operand as a register that holds it as an int. -/
theorem encodings_actAlike [NaNResults] :
    (forall three two : Opcode, 0x90 ≤ three.value -> three.value ≤ 0xaf ->
      two.value = three.value + 0x20 ->
        two.mnemonic = three.mnemonic ++ "/2addr" ∧
        forall (dest right : UInt16) (registers : RegisterFile),
          ActAlike ⟨two, [.register dest, .register right]⟩
            ⟨three, [.register dest, .register dest, .register right]⟩ registers) ∧
    (forall (withLiteral three : Opcode) (bits position : Nat),
      withLiteral.TakesLiteral bits position -> position ≠ 1 -> three.value = 0x90 + position ->
        withLiteral.mnemonic = three.mnemonic ++ "/lit" ++ Text.decimal bits ∧
        forall (dest left holder : UInt16) (value : Int64) (registers : RegisterFile),
          FitsSigned bits value ->
          registers.get? holder = some (.int (BitVec.ofInt 32 value.toInt)) ->
            ActAlike ⟨withLiteral, [.register dest, .register left, .literal value]⟩
              ⟨three, [.register dest, .register left, .register holder]⟩ registers) ∧
    (forall (withLiteral three : Opcode) (bits : Nat),
      withLiteral.TakesLiteral bits 1 -> three.value = 0x91 ->
        withLiteral.mnemonic = (if bits = 8 then "rsub-int/lit8" else "rsub-int") ∧
        three.mnemonic = "sub-int" ∧
        forall (dest right holder : UInt16) (value : Int64) (registers : RegisterFile),
          FitsSigned bits value ->
          registers.get? holder = some (.int (BitVec.ofInt 32 value.toInt)) ->
            ActAlike ⟨withLiteral, [.register dest, .register right, .literal value]⟩
              ⟨three, [.register dest, .register holder, .register right]⟩ registers) ∧
    (forall (wide narrow : Opcode) (position : Nat),
      wide.TakesLiteral 16 position -> narrow.TakesLiteral 8 position ->
        forall (dest left : UInt16) (value : Int64) (registers : RegisterFile),
          FitsSigned 16 value -> FitsSigned 8 value ->
            ActAlike ⟨wide, [.register dest, .register left, .literal value]⟩
              ⟨narrow, [.register dest, .register left, .literal value]⟩ registers) := by
  refine ⟨?_, ?_, ?_, ?_⟩
  · intro three two least greatest isValue
    rcases Opcode.exists_registerForms least greatest isValue with ⟨operation, rfl, rfl⟩
    refine ⟨?_, fun dest right registers => ?_⟩
    · change operation.mnemonic ++ "/2addr" = operation.mnemonic ++ "" ++ "/2addr"
      rw [String.append_empty]
    · exact (Computes.twoAddress rfl dest right).actAlike
        (.threeRegisters rfl dest dest right) rfl rfl
  · intro withLiteral three bits position takes isDirect isValue
    refine ⟨?_, fun dest left holder value registers fits holds =>
      actAlike_literal fits holds takes isDirect isValue⟩
    rcases takes.exists_int isDirect isValue with
      ⟨literal, arithmetic, rfl, rfl, isLiteral, isForm, sameOperation⟩
    exact Arithmetic.mnemonic_eq isLiteral (Arithmetic.literalWidth?_eq isLiteral takes) isForm
      sameOperation
  · intro withLiteral three bits takes isValue
    rcases takes.exists_reverseSub isValue with
      ⟨literal, arithmetic, rfl, rfl, isLiteral, isForm, isReverseSub, isSub⟩
    have isWidth := Arithmetic.literalWidth?_eq isLiteral takes
    exact ⟨Arithmetic.mnemonic_of_reverseSub isWidth isReverseSub,
      Arithmetic.mnemonic_of_sub isForm isSub, fun dest right holder value registers fits holds =>
        actAlike_reverseSub fits holds takes isValue⟩
  · intro wide narrow position takes takesOther dest left value registers fits fitsOther
    rcases takes.exists_widths takesOther with
      ⟨literal, other, rfl, rfl, isLiteral, isOther, sameOperation⟩
    have inRange := Arithmetic.literalError?_eq_none isLiteral takes fits
      [.register dest, .register left, .literal value]
    have inOther := Arithmetic.literalError?_eq_none isOther takesOther fitsOther
      [.register dest, .register left, .literal value]
    refine (Computes.literal isLiteral inRange).actAlike (.literal isOther inOther) rfl ?_
    rw [sameOperation]

/-- A division by the literal zero, a reverse subtraction whose destination is
the register that holds the literal, and a shift of a register that is not
there. -/
theorem encodings_actAlike_zeroAndText :
    let registers : RegisterFile := ⟨#[.string "text", .float 5, .int 0]⟩
    let onRegisters : RegisterOperation -> Opcode :=
      fun operation => .arithmetic (.registers operation .threeRegisters)
    ActAlike ⟨.arithmetic (.literal8 .div), [.register 0, .register 1, .literal 0]⟩
        ⟨onRegisters (.int .div), [.register 0, .register 1, .register 2]⟩ registers ∧
      ActAlike ⟨.arithmetic (.literal16 .sub), [.register 2, .register 0, .literal 0]⟩
        ⟨onRegisters (.int .sub), [.register 2, .register 2, .register 0]⟩ registers ∧
      ActAlike
        ⟨.arithmetic (.registers (.longShift .shl) .twoAddress), [.register 3, .register 1]⟩
        ⟨onRegisters (.longShift .shl), [.register 3, .register 3, .register 1]⟩ registers ∧
      ActAlike ⟨.arithmetic (.literal16 .rem), [.register 0, .register 1, .literal (-128)]⟩
        ⟨.arithmetic (.literal8 .rem), [.register 0, .register 1, .literal (-128)]⟩ registers := by
  intro registers onRegisters
  refine ⟨?_, ?_, ?_, ?_⟩
  · have takes : (Opcode.arithmetic (.literal8 .div)).TakesLiteral 8 3 := .bits8 (by decide) rfl
    exact (encodings_actAlike.2.1 _ (onRegisters (.int .div)) 8 3 takes (by decide) rfl).2 0 1 2 0
      registers (by decide) rfl
  · have takes : (Opcode.arithmetic (.literal16 .sub)).TakesLiteral 16 1 := .bits16 (by decide) rfl
    exact (encodings_actAlike.2.2.1 _ (onRegisters (.int .sub)) 16 takes rfl).2.2 2 0 2 0
      registers (by decide) rfl
  · exact (encodings_actAlike.1 (onRegisters (.longShift .shl))
      (.arithmetic (.registers (.longShift .shl) .twoAddress)) (by decide) (by decide) rfl).2 3 1
      registers
  · exact encodings_actAlike.2.2.2 (.arithmetic (.literal16 .rem)) (.arithmetic (.literal8 .rem)) 4
      (.bits16 (by decide) rfl) (.bits8 (by decide) rfl) 0 1 (-128) registers (by decide)
      (by decide)

end Instruction

end DalvikFold
