import DalvikFold.Proofs.Footprints

namespace DalvikFold

/-!
# Runs touch declared destinations only

Every handler stores its value in the destination of its instruction, if it
stores one at all, and so the instructions alone tell which registers a run can
change.  This holds of a run that fails as well as of one that succeeds: it has
changed what the handlers wrote that it completed, and the one that failed has
written nothing.
-/

namespace Instruction

/-- The instruction puts a result into the register with this number: its opcode
writes its first operand, and that operand is the register. -/
structure Writes (instruction : Instruction) (number : Nat) : Prop where
  writesRegister : instruction.opcode.writesRegister = true
  isFirst : Exists fun register =>
    instruction.operand? 0 = some (.register register) ∧ register.toNat = number

private theorem writes_of_destination? {instruction : Instruction} {register : UInt16}
    (isDestination : instruction.destination? = some register) :
    instruction.Writes register.toNat := by
  unfold destination? at isDestination
  by_cases writesRegister : instruction.opcode.writesRegister = true
  · rw [if_pos writesRegister] at isDestination
    rcases Option.bind_eq_some_iff.mp isDestination with ⟨operand, isOperand, isRegister⟩
    cases operand with
    | register number =>
        cases isRegister
        exact ⟨writesRegister, register, isOperand, rfl⟩
    | _ => cases isRegister
  · rw [if_neg writesRegister] at isDestination
    cases isDestination

end Instruction

/-! ## Runs -/

/-- The number of handlers that a run completes, whether it succeeds in the end
or not. -/
def completedCount [NaNResults] : List Dispatch -> RegisterFile -> Nat
  | [], _ => 0
  | .notWired _ _ :: _, _ => 0
  | .handled handler :: rest, registers =>
      match handler.execute registers with
      | .error _ => 0
      | .ok (_, after) => completedCount rest after + 1

private theorem completedCount_of_error [NaNResults] {handler : Handler} {registers : RegisterFile}
    {error : ExecutionError} (fails : handler.execute registers = .error error)
    (rest : List Dispatch) : completedCount (.handled handler :: rest) registers = 0 := by
  rw [completedCount, fails]

theorem completedCount_of_ok [NaNResults] {handler : Handler} {registers after : RegisterFile}
    {step : Step}
    (succeeds : handler.execute registers = .ok (step, after)) (rest : List Dispatch) :
    completedCount (.handled handler :: rest) registers = completedCount rest after + 1 := by
  rw [completedCount, succeeds]

/-- A run completes as many handlers as it reports, and one that fails does so
at the handler behind the completed ones. -/
theorem completedCount_eq [NaNResults] (dispatches : List Dispatch) (registers : RegisterFile) :
    (forall summary, (runDispatches dispatches registers).result = .ok summary ->
      completedCount dispatches registers = summary.executed) ∧
    (forall error, (runDispatches dispatches registers).result = .error error ->
      Exists fun handler =>
        dispatches[completedCount dispatches registers]? = some (.handled handler) ∧
          handler.execute (runDispatches dispatches registers).registers = .error error) := by
  fun_induction runDispatches dispatches registers with
  | case1 registers | case2 opcode index rest registers =>
      constructor
      · intro summary succeeds
        cases succeeds
        rfl
      · intro error fails
        cases fails
  | case3 handler rest registers failure executed =>
      rw [completedCount_of_error executed]
      constructor
      · intro summary succeeds
        cases succeeds
      · intro error fails
        cases fails
        exact ⟨handler, rfl, executed⟩
  | case4 handler rest registers step after executed outcome inductionHypothesis =>
      rw [completedCount_of_ok executed]
      constructor
      · intro summary succeeds
        rcases Except.exists_of_map succeeds with ⟨later, restSucceeds, isSummary⟩
        rw [inductionHypothesis.1 later restSucceeds, ← isSummary]
        rfl
      · intro error fails
        exact inductionHypothesis.2 error (Except.eq_error_of_map fails)

/-- A run changes a register only if an instruction that it completed puts its
result there.  The induction is on the preparation, which has the instruction
of each handler. -/
theorem Prepared.values_of_run [NaNResults] {settings : Settings} {start : Nat}
    {instructions : List Instruction}
    {dispatches : List Dispatch} (prepared : Prepared settings start instructions dispatches)
    {registers : RegisterFile} {number : Nat}
    (untouched : forall instruction,
      instruction ∈ instructions.take (completedCount dispatches registers) ->
        ¬ instruction.Writes number) :
    (runDispatches dispatches registers).registers.values[number]? =
      registers.values[number]? := by
  induction prepared generalizing registers with
  | nil start => rfl
  | @cons start instruction dispatch instructions dispatches dispatched rest inductionHypothesis =>
      cases dispatch with
      | notWired opcode index => rfl
      | handled handler =>
          cases executed : handler.execute registers with
          | error error => rw [runDispatches_of_error executed]
          | ok reached =>
              rw [completedCount_of_ok executed, List.take_succ_cons] at untouched
              have isTarget := (Instruction.dispatches_of_ofInstruction dispatched).target?_eq
              have different : forall register, handler.target? = some register ->
                  register.toNat ≠ number := by
                intro register isRegister sameNumber
                rw [isTarget] at isRegister
                have writes := Instruction.writes_of_destination? isRegister
                exact untouched instruction List.mem_cons_self (sameNumber ▸ writes)
              have restUntouched := inductionHypothesis fun other isLater =>
                untouched other (List.mem_cons_of_mem _ isLater)
              rw [runDispatches_of_ok executed]
              exact restUntouched.trans (Handler.values_of_execute executed different)

theorem runDispatches_count [NaNResults] (dispatches : List Dispatch) (registers : RegisterFile) :
    (runDispatches dispatches registers).registers.count = registers.count := by
  fun_induction runDispatches dispatches registers with
  | case1 | case2 | case3 => rfl
  | case4 handler rest registers step after executed outcome inductionHypothesis =>
      exact inductionHypothesis.trans (Handler.count_of_execute executed)

/-! ## Instructions without a result -/

/-- The opcodes that act on memory, on locks, on other methods or on the flow of
control, and have no result of their own. -/
inductive Opcode.HasNoResult : Opcode -> Prop where
  | store (place : Place) (element : ElementKind) : HasNoResult (.access place .store element)
  | quickStore (element : ElementKind) : HasNoResult (.quickAccess .store element)
  | checkCast : HasNoResult .checkCast
  | returnVoid : HasNoResult .returnVoid
  | returnVoidNoBarrier : HasNoResult .returnVoidNoBarrier
  | returnValue (kind : ValueKind) : HasNoResult (.returnValue kind)
  | throwException : HasNoResult .throwException
  | invoke (kind : InvokeKind) (list : RegisterList) : HasNoResult (.invoke kind list)
  | quickInvoke (list : RegisterList) : HasNoResult (.quickInvoke list)
  | invokePolymorphic (list : RegisterList) : HasNoResult (.invokePolymorphic list)
  | invokeCustom (list : RegisterList) : HasNoResult (.invokeCustom list)
  | monitorEnter : HasNoResult .monitorEnter
  | monitorExit : HasNoResult .monitorExit
  | packedSwitch : HasNoResult .packedSwitch
  | sparseSwitch : HasNoResult .sparseSwitch
  | goto (reach : JumpReach) : HasNoResult (.goto reach)

namespace Opcode.HasNoResult

variable {opcode : Opcode}

private theorem writesRegister_eq
    (hasNoResult : opcode.HasNoResult) : opcode.writesRegister = false := by
  cases hasNoResult with
  | store place element => cases place <;> rfl
  | invoke kind list | quickInvoke list | invokePolymorphic list | invokeCustom list =>
      cases list <;> rfl
  | goto reach => cases reach <;> rfl
  | _ => rfl

theorem categoryUnder_eq (hasNoResult : opcode.HasNoResult) (settings : Settings) :
    opcode.categoryUnder settings = .unimplemented := by
  have notConstant : opcode.constantLoad? = none := by cases hasNoResult <;> rfl
  have isCategory : opcode.category = .unimplemented := by cases hasNoResult <;> rfl
  rw [categoryUnder, notConstant, Option.isSome_none, Bool.and_false, isCategory]
  rfl

/-- An instruction of such an opcode has a handler that does nothing, whatever
its operands are. -/
theorem execute_eq [NaNResults] {instruction : Instruction}
    (hasNoResult : instruction.opcode.HasNoResult) (settings : Settings) (index : Nat) :
    Dispatch.ofInstruction settings instruction index =
        .ok (.handled (Handler.fallback instruction index)) ∧
      forall registers,
        (Handler.fallback instruction index).execute registers = .ok (.unsupported, registers) := by
  constructor
  · rw [Dispatch.ofInstruction, hasNoResult.categoryUnder_eq settings]
  · intro registers
    have noDestination : instruction.destination? = none := by
      rw [Instruction.destination?, hasNoResult.writesRegister_eq]
      rfl
    simp only [Handler.execute, Handler.fallback, noDestination]

end Opcode.HasNoResult

/-- A run touches declared destinations only.  It keeps the number of registers,
and a register that has another value at the end is the first operand of an
instruction that was completed and whose opcode writes its first operand.  This
holds of a run that fails as well as of one that succeeds, and instructions
without a result are completed without any change. -/
theorem MethodBody.run_frame [NaNResults] (body : MethodBody) (settings : Settings)
    {method : PreparedMethod} (prepared : body.prepare settings = .ok method) :
    (forall registers,
      (method.run registers).registers.count = registers.count ∧
      (forall number,
        (method.run registers).registers.values[number]? = registers.values[number]? ∨
        Exists fun position => Exists fun instruction =>
          position < completedCount method.dispatches registers ∧
            body.instructions[position]? = some instruction ∧ instruction.Writes number) ∧
      (forall summary, (method.run registers).result = .ok summary ->
        completedCount method.dispatches registers = summary.executed) ∧
      (forall error, (method.run registers).result = .error error ->
        Exists fun handler =>
          method.dispatches[completedCount method.dispatches registers]? =
              some (.handled handler) ∧
            handler.execute (method.run registers).registers = .error error)) ∧
    (forall instruction index, instruction.opcode.HasNoResult ->
      Exists fun handler =>
        Dispatch.ofInstruction settings instruction index = .ok (.handled handler) ∧
          forall registers, handler.execute registers = .ok (.unsupported, registers)) := by
  constructor
  · intro registers
    have completed := completedCount_eq method.dispatches registers
    refine ⟨runDispatches_count method.dispatches registers, ?_, completed.1, completed.2⟩
    intro number
    by_cases written : Exists fun position => Exists fun instruction =>
        position < completedCount method.dispatches registers ∧
          body.instructions[position]? = some instruction ∧ instruction.Writes number
    · exact .inr written
    · refine .inl ((prepared_of_prepare prepared).values_of_run ?_)
      intro instruction isCompleted writes
      rcases List.mem_iff_getElem?.mp isCompleted with ⟨position, atPosition⟩
      rw [List.getElem?_take] at atPosition
      by_cases inFront : position < completedCount method.dispatches registers
      · rw [if_pos inFront] at atPosition
        exact written ⟨position, instruction, inFront, atPosition, writes⟩
      · rw [if_neg inFront] at atPosition
        cases atPosition
  · intro instruction index hasNoResult
    exact ⟨_, hasNoResult.execute_eq settings index⟩

/-- A zero is loaded, a register is doubled in place and stored into a field,
and the doubled value is divided by the zero.  The last load is not reached. -/
def doubleStoreDivide : MethodBody where
  descriptor := "LFoo;->bar()V"
  instructions := [
    ⟨.constant (.narrow .bits4), [.register 0, .literal 0]⟩,
    ⟨.arithmetic (.registers (.int .add) .twoAddress), [.register 1, .register 1]⟩,
    ⟨.access .instanceField .store .single, [.register 1, .register 2, .field "LFoo;->x:I"]⟩,
    ⟨.arithmetic (.registers (.int .div) .threeRegisters), [.register 2, .register 1, .register 0]⟩,
    ⟨.constant (.narrow .bits4), [.register 3, .literal 1]⟩]

/-- The handlers of these instructions if constants are folded. -/
def doubleStoreDividePrepared : PreparedMethod where
  descriptor := "LFoo;->bar()V"
  dispatches := [
    .handled ⟨⟨.constant (.narrow .bits4), [.register 0, .literal 0]⟩, 0, .load ⟨0, .int 0⟩⟩,
    .handled ⟨⟨.arithmetic (.registers (.int .add) .twoAddress), [.register 1, .register 1]⟩, 1,
      .binary ⟨.direct (.int .add), .twoAddress, 1, 1, .register 1⟩⟩,
    .handled ⟨⟨.access .instanceField .store .single,
      [.register 1, .register 2, .field "LFoo;->x:I"]⟩, 2, .fallback⟩,
    .handled ⟨⟨.arithmetic (.registers (.int .div) .threeRegisters),
      [.register 2, .register 1, .register 0]⟩, 3,
      .binary ⟨.direct (.int .div), .threeRegisters, 2, 1, .register 0⟩⟩,
    .handled ⟨⟨.constant (.narrow .bits4), [.register 3, .literal 1]⟩, 4, .load ⟨3, .int 1⟩⟩]

theorem run_frame_doubleStoreDivide :
    let method := doubleStoreDividePrepared
    let registers : RegisterFile := ⟨#[.unknown, .int 5, .string "a", .long 7]⟩
    let final : RegisterFile := ⟨#[.int 0, .int 10, .string "a", .long 7]⟩
    doubleStoreDivide.prepare { foldConstants := true } = .ok method ∧
      (method.run registers).result = .error .divisionByZero ∧
      completedCount method.dispatches registers = 3 ∧
      (method.run registers).registers = final ∧
      (final.values[2]? = registers.values[2]? ∨
        Exists fun position => Exists fun instruction =>
          position < 3 ∧ doubleStoreDivide.instructions[position]? = some instruction ∧
            instruction.Writes 2) ∧
      (Exists fun handler => method.dispatches[3]? = some (.handled handler) ∧
        handler.execute final = .error .divisionByZero) ∧
      Exists fun handler =>
        Dispatch.ofInstruction { foldConstants := true } ⟨.access .staticField .store .wide, []⟩ 7 =
            .ok (.handled handler) ∧
          forall registers, handler.execute registers = .ok (.unsupported, registers) := by
  intro method registers final
  have prepared : doubleStoreDivide.prepare { foldConstants := true } = .ok method := rfl
  have frame := doubleStoreDivide.run_frame { foldConstants := true } prepared
  have framed := frame.1 registers
  exact ⟨prepared, rfl, rfl, rfl, framed.2.1 2, framed.2.2.2 .divisionByZero rfl,
    frame.2 ⟨.access .staticField .store .wide, []⟩ 7 (.store _ _)⟩

end DalvikFold
