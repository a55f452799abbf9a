import DalvikFold.Method.Run
import DalvikFold.Proofs.Computations

namespace DalvikFold

/-!
# What one handler does

A handler that succeeds has made at most one assignment, to a register that its
effect or its instruction names, and the case tells which value it assigned.
Facts about runs are proved from these cases, and so they need not look into
the handlers again.
-/

/-- An assignment that succeeds is to a register of the file. -/
theorem RegisterFile.assign_eq_ok {registers after : RegisterFile} {register : UInt16}
    {value : Value} (assigned : registers.assign register value = .ok after) :
    register.toNat < registers.count ∧ after = registers.set register value := by
  unfold assign at assigned
  by_cases present : register.toNat < registers.count
  · rw [if_pos present] at assigned
    exact ⟨present, (Except.ok.inj assigned).symm⟩
  · rw [if_neg present] at assigned
    cases assigned

/-- An assignment that succeeds is seen at its own position and at no other. -/
theorem RegisterFile.values_of_assign {registers after : RegisterFile} {register : UInt16}
    {value : Value} (assigned : registers.assign register value = .ok after) (position : Nat) :
    after.values[position]? =
      if register.toNat = position then some value else registers.values[position]? := by
  rcases assign_eq_ok assigned with ⟨present, isSet⟩
  subst isSet
  rw [set, Array.getElem?_setIfInBounds]
  by_cases same : register.toNat = position
  · subst same
    have inBounds : register.toNat < registers.values.size := present
    rw [if_pos rfl, if_pos rfl, if_pos inBounds]
  · rw [if_neg same, if_neg same]

/-- The ways in which a handler succeeds. -/
inductive Handler.Succeeds [NaNResults] (handler : Handler) (registers : RegisterFile) :
    Step -> RegisterFile -> Prop where
  /-- The result of an arithmetic effect is assigned. -/
  | binary {effect : BinaryEffect} {result : Value} {after : RegisterFile}
      (isBinary : handler.effect = .binary effect)
      (hasResult : effect.result registers = .ok result)
      (assigned : registers.assign effect.dest result = .ok after) :
      Succeeds handler registers .next after
  /-- A constant is assigned. -/
  | load {effect : LoadEffect} {after : RegisterFile} (isLoad : handler.effect = .load effect)
      (assigned : registers.assign effect.dest effect.constant.value = .ok after) :
      Succeeds handler registers .next after
  /-- The destination of an instruction without effect is forgotten. -/
  | forget {dest : UInt16} {after : RegisterFile} (isFallback : handler.effect = .fallback)
      (isDestination : handler.instruction.destination? = some dest)
      (assigned : registers.assign dest .unknown = .ok after) :
      Succeeds handler registers .unsupported after
  /-- An instruction without effect has no destination. -/
  | skip (isFallback : handler.effect = .fallback)
      (noDestination : handler.instruction.destination? = none) :
      Succeeds handler registers .unsupported registers

/-- Every success of a handler is one of these. -/
theorem Handler.succeeds_of_execute [NaNResults] {handler : Handler}
    {registers after : RegisterFile}
    {step : Step} (executed : handler.execute registers = .ok (step, after)) :
    handler.Succeeds registers step after := by
  unfold execute at executed
  cases isEffect : handler.effect with
  | binary effect =>
      rw [isEffect] at executed
      rcases Except.exists_of_bind executed with ⟨result, hasResult, assignment⟩
      rcases Except.exists_of_bind assignment with ⟨file, assigned, returned⟩
      cases returned
      exact .binary isEffect hasResult assigned
  | load effect =>
      rw [isEffect] at executed
      rcases Except.exists_of_bind executed with ⟨file, assigned, returned⟩
      cases returned
      exact .load isEffect assigned
  | fallback =>
      rw [isEffect] at executed
      cases isDestination : handler.instruction.destination? with
      | some dest =>
          rw [isDestination] at executed
          rcases Except.exists_of_bind executed with ⟨file, assigned, returned⟩
          cases returned
          exact .forget isEffect isDestination assigned
      | none =>
          rw [isDestination] at executed
          cases executed
          exact .skip isEffect isDestination

/-! ## Operations on words -/

namespace Value

theorem narrowAs_of_narrow? {value : Value} {bits : BitVec 32}
    (isNarrow : value.narrow? = some bits) (expected : NumericType) (register : UInt16) :
    value.narrowAs expected register = .ok bits := by
  rw [narrowAs, isNarrow]

theorem wideAs_of_wide? {value : Value} {bits : BitVec 64} (isWide : value.wide? = some bits)
    (expected : NumericType) (register : UInt16) : value.wideAs expected register = .ok bits := by
  rw [wideAs, isWide]

end Value

namespace Operation

section Narrow

variable {left right : Value} {x y : BitVec 32}
variable (leftBits : left.narrow? = some x) (rightBits : right.narrow? = some y)
variable (leftRegister rightRegister : UInt16)
include leftBits rightBits

theorem evaluate_int [NaNResults] (operator : WholeOperator) :
    evaluate (.direct (.int operator)) leftRegister rightRegister left right =
      (divided (operator.apply x y)).map .int := by
  rw [evaluate, Value.narrowAs_of_narrow? leftBits, Value.narrowAs_of_narrow? rightBits]
  change (divided (operator.apply x y) >>= fun result => .ok (Value.int result)) = _
  cases operator.apply x y <;> rfl

theorem evaluate_intShift [NaNResults] (operator : ShiftOperator) :
    evaluate (.direct (.intShift operator)) leftRegister rightRegister left right =
      .ok (.int (operator.apply x y)) := by
  rw [evaluate, Value.narrowAs_of_narrow? leftBits, Value.narrowAs_of_narrow? rightBits]
  rfl

theorem evaluate_reverseSub [NaNResults] :
    evaluate .reverseSub leftRegister rightRegister left right = .ok (.int (y - x)) := by
  rw [evaluate, Value.narrowAs_of_narrow? leftBits, Value.narrowAs_of_narrow? rightBits]
  rfl

theorem evaluate_float [NaNResults] (operator : FloatOperator) :
    evaluate (.direct (.float operator)) leftRegister rightRegister left right =
      .ok (.float (operator.apply FloatingPoint.single (NaNResults.single operator x y) x y)) := by
  rw [evaluate, Value.narrowAs_of_narrow? leftBits, Value.narrowAs_of_narrow? rightBits]
  rfl

end Narrow

section Wide

variable {left right : Value} {x y : BitVec 64}
variable (leftBits : left.wide? = some x)
variable (leftRegister rightRegister : UInt16)
include leftBits

theorem evaluate_longShift [NaNResults] {amount : BitVec 32}
    (rightBits : right.narrow? = some amount) (operator : ShiftOperator) :
    evaluate (.direct (.longShift operator)) leftRegister rightRegister left right =
      .ok (.long (operator.apply x amount)) := by
  rw [evaluate, Value.wideAs_of_wide? leftBits, Value.narrowAs_of_narrow? rightBits]
  rfl

theorem evaluate_long [NaNResults] (rightBits : right.wide? = some y) (operator : WholeOperator) :
    evaluate (.direct (.long operator)) leftRegister rightRegister left right =
      (divided (operator.apply x y)).map .long := by
  rw [evaluate, Value.wideAs_of_wide? leftBits, Value.wideAs_of_wide? rightBits]
  change (divided (operator.apply x y) >>= fun result => .ok (Value.long result)) = _
  cases operator.apply x y <;> rfl

theorem evaluate_double [NaNResults] (rightBits : right.wide? = some y) (operator : FloatOperator) :
    evaluate (.direct (.double operator)) leftRegister rightRegister left right =
      .ok (.double (operator.apply FloatingPoint.double (NaNResults.double operator x y) x y)) := by
  rw [evaluate, Value.wideAs_of_wide? leftBits, Value.wideAs_of_wide? rightBits]
  rfl

end Wide

end Operation

/-! ## Results of operations -/

theorem Value.isKnown_of_type {value : Value} {type : NumericType}
    (numeric : value.type = .numeric type) : value.isKnown = true := by
  cases value with
  | unknown => cases numeric
  | _ => rfl

/-- A result has the type that its operation works on. -/
theorem Operation.evaluate_type [NaNResults] {operation : Operation}
    {leftRegister rightRegister : UInt16} {left right result : Value}
    (evaluated : operation.evaluate leftRegister rightRegister left right = .ok result) :
    result.type = .numeric operation.type := by
  cases operation with
  | reverseSub =>
      rcases Except.exists_of_bind evaluated with ⟨x, _, afterLeft⟩
      rcases Except.exists_of_bind afterLeft with ⟨y, _, returned⟩
      cases returned
      rfl
  | direct operation =>
      cases operation with
      | int operator | long operator =>
          rcases Except.exists_of_bind evaluated with ⟨x, _, afterLeft⟩
          rcases Except.exists_of_bind afterLeft with ⟨y, _, afterRight⟩
          rcases Except.exists_of_bind afterRight with ⟨word, _, returned⟩
          cases returned
          rfl
      | intShift operator | longShift operator | float operator | double operator =>
          rcases Except.exists_of_bind evaluated with ⟨x, _, afterLeft⟩
          rcases Except.exists_of_bind afterLeft with ⟨y, _, returned⟩
          cases returned
          rfl

/-- An arithmetic effect has a known result if and only if both operands are
known. -/
theorem BinaryEffect.isKnown_of_result [NaNResults] {effect : BinaryEffect}
    {registers : RegisterFile} {result : Value} (hasResult : effect.result registers = .ok result) :
    Exists fun left => Exists fun right =>
      registers.read effect.left = .ok left ∧ effect.right.read registers = .ok right ∧
        result.isKnown = (left.isKnown && right.isKnown) := by
  rcases Except.exists_of_bind hasResult with ⟨left, readLeft, afterLeft⟩
  rcases Except.exists_of_bind afterLeft with ⟨right, readRight, computed⟩
  refine ⟨left, right, readLeft, readRight, ?_⟩
  cases known : left.isKnown && right.isKnown with
  | true =>
      rw [if_pos known] at computed
      exact Value.isKnown_of_type (Operation.evaluate_type computed)
  | false =>
      rw [known] at computed
      cases computed
      rfl

end DalvikFold
