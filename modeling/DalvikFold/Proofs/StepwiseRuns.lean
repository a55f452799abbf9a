import DalvikFold.Proofs.HandlerSteps
import DalvikFold.Proofs.Preparation

namespace DalvikFold

/-!
# Runs, step by step

A handler is defined as a function from registers to registers, which has
nothing to say about the registers when it fails.  A machine has no such choice:
it changes its registers as it goes, and what it has changed before a failure
stays changed.  The first part describes handlers on such a machine and shows
that they do what the functions say.  A handler that fails there has changed
nothing, because it writes one register and does so last.

The second part describes a run by the steps that the machine takes.  A run
that succeeds has taken the steps of all the handlers in front of the first
instruction without one, and it counts them.  A run that fails has taken the
steps in front of the failing handler and no other.
-/

/-! ## Handlers on a machine -/

/-- A computation that changes registers in place.  A failure keeps the changes
that were made before it. -/
abbrev InPlace (Result : Type) : Type :=
  ExceptT ExecutionError (StateM RegisterFile) Result

namespace InPlace

/-- How a computation ends, and the registers that it leaves. -/
def runOn {Result : Type} (computation : InPlace Result) (registers : RegisterFile) :
    Except ExecutionError Result × RegisterFile :=
  StateT.run (ExceptT.run computation) registers

def read (register : UInt16) : InPlace Value := do
  let registers <- get
  liftExcept (registers.read register)

def assign (register : UInt16) (value : Value) : InPlace Unit := do
  let registers <- get
  let after <- liftExcept (registers.assign register value)
  set after

end InPlace

/-- Look up a right operand. -/
def RightOperand.readInPlace : RightOperand -> InPlace Value
  | .register number => InPlace.read number
  | .literal bits => return .int bits

/-- Look up both operands and combine them. -/
def BinaryEffect.resultInPlace [NaNResults] (effect : BinaryEffect) : InPlace Value := do
  let left <- InPlace.read effect.left
  let right <- effect.right.readInPlace
  if left.isKnown && right.isKnown then
    liftExcept (effect.operation.evaluate effect.left effect.rightRegister left right)
  else
    return .unknown

/-- What a handler does to the registers of a machine. -/
def Handler.perform [NaNResults] (handler : Handler) : InPlace Step :=
  match handler.effect with
  | .binary effect => do
      let result <- effect.resultInPlace
      InPlace.assign effect.dest result
      return .next
  | .load effect => do
      InPlace.assign effect.dest effect.constant.value
      return .next
  | .fallback =>
      match handler.instruction.destination? with
      | some dest => do
          InPlace.assign dest .unknown
          return .unsupported
      | none => return .unsupported

namespace InPlace

variable {First Second : Type}

theorem runOn_bind (first : InPlace First) (next : First -> InPlace Second)
    (registers : RegisterFile) :
    (first >>= next).runOn registers =
      match first.runOn registers with
      | (.ok value, after) => (next value).runOn after
      | (.error error, after) => (.error error, after) := by
  change (ExceptT.bindCont next (first.runOn registers).1).run (first.runOn registers).2 = _
  rcases first.runOn registers with ⟨result, after⟩
  cases result <;> rfl

theorem runOn_liftExcept (computation : Except ExecutionError First) (registers : RegisterFile) :
    (liftExcept computation : InPlace First).runOn registers = (computation, registers) := by
  cases computation <;> rfl

theorem runOn_read (register : UInt16) (registers : RegisterFile) :
    (read register).runOn registers = (registers.read register, registers) :=
  runOn_liftExcept (registers.read register) registers

end InPlace

theorem RightOperand.runOn_readInPlace (operand : RightOperand) (registers : RegisterFile) :
    operand.readInPlace.runOn registers = (operand.read registers, registers) := by
  cases operand with
  | register number => exact InPlace.runOn_read number registers
  | literal bits => rfl

/-- The result is found without a write. -/
theorem BinaryEffect.runOn_resultInPlace [NaNResults] (effect : BinaryEffect)
    (registers : RegisterFile) :
    effect.resultInPlace.runOn registers = (effect.result registers, registers) := by
  unfold resultInPlace result
  rw [InPlace.runOn_bind, InPlace.runOn_read]
  cases registers.read effect.left with
  | error error => rfl
  | ok left =>
      change (effect.right.readInPlace >>= _).runOn registers = _
      rw [InPlace.runOn_bind, effect.right.runOn_readInPlace]
      cases effect.right.read registers with
      | error error => rfl
      | ok right =>
          change InPlace.runOn (if left.isKnown && right.isKnown then _ else _) registers =
            (if left.isKnown && right.isKnown then _ else _, registers)
          split
          · exact InPlace.runOn_liftExcept _ registers
          · rfl

/-- The end of a computation that changes registers only if it succeeds. -/
def RegisterFile.commit {Result : Type} (registers : RegisterFile) :
    Except ExecutionError (Result × RegisterFile) -> Except ExecutionError Result × RegisterFile
  | .ok (result, after) => (.ok result, after)
  | .error error => (.error error, registers)

namespace RegisterFile

variable {Result : Type} {outcome : Except ExecutionError (Result × RegisterFile)}
variable {registers after : RegisterFile}

theorem commit_eq_ok_iff {result : Result} :
    registers.commit outcome = (.ok result, after) <-> outcome = .ok (result, after) := by
  constructor
  · intro committed
    cases outcome with
    | error error => cases committed
    | ok reached =>
        cases committed
        rfl
  · intro succeeds
    rw [succeeds]
    rfl

theorem commit_eq_error_iff {error : ExecutionError} :
    registers.commit outcome = (.error error, after) <->
      outcome = .error error ∧ after = registers := by
  constructor
  · intro committed
    cases outcome with
    | error error =>
        cases committed
        exact ⟨rfl, rfl⟩
    | ok reached => cases committed
  · intro fails
    rw [fails.1, fails.2]
    rfl

end RegisterFile

/-- A step that ends with an assignment either makes it or changes nothing. -/
theorem InPlace.runOn_assign_step (register : UInt16) (value : Value) (step : Step)
    (registers : RegisterFile) :
    (do InPlace.assign register value; return step : InPlace Step).runOn registers =
      registers.commit (do
        let after <- registers.assign register value
        return (step, after)) := by
  have assigned : (InPlace.assign register value).runOn registers =
      registers.commit ((registers.assign register value).map (fun after => ((), after))) := by
    change InPlace.runOn (liftExcept (registers.assign register value) >>= _) registers = _
    rw [InPlace.runOn_bind, InPlace.runOn_liftExcept]
    cases registers.assign register value <;> rfl
  rw [InPlace.runOn_bind, assigned]
  cases registers.assign register value <;> rfl

/-- On a machine a handler does what its function says, and changes nothing if
it fails. -/
theorem Handler.runOn_perform [NaNResults] (handler : Handler) (registers : RegisterFile) :
    handler.perform.runOn registers = registers.commit (handler.execute registers) := by
  unfold perform execute
  cases handler.effect with
  | binary effect =>
      change (effect.resultInPlace >>= _).runOn registers = _
      rw [InPlace.runOn_bind, effect.runOn_resultInPlace]
      cases hasResult : effect.result registers with
      | error error => simp only [hasResult]; rfl
      | ok result =>
          simp only [hasResult]
          exact InPlace.runOn_assign_step effect.dest result .next registers
  | load effect =>
      exact InPlace.runOn_assign_step effect.dest effect.constant.value .next registers
  | fallback =>
      cases isDestination : handler.instruction.destination? with
      | some dest =>
          exact InPlace.runOn_assign_step dest .unknown .unsupported registers
      | none => rfl

private theorem Handler.runOn_perform_of_error [NaNResults] {handler : Handler}
    {registers : RegisterFile}
    {error : ExecutionError} (fails : handler.execute registers = .error error) :
    handler.perform.runOn registers = (.error error, registers) := by
  rw [runOn_perform, RegisterFile.commit_eq_error_iff]
  exact ⟨fails, rfl⟩

theorem Handler.runOn_perform_of_ok [NaNResults] {handler : Handler}
    {registers after : RegisterFile}
    {step : Step} (succeeds : handler.execute registers = .ok (step, after)) :
    handler.perform.runOn registers = (.ok step, after) := by
  rw [runOn_perform, RegisterFile.commit_eq_ok_iff]
  exact succeeds

/-! ## Runs -/

/-- The steps of dispatched instructions, one after the other.  There is none
for an instruction without a handler. -/
inductive Stepwise [NaNResults] : List Dispatch -> RegisterFile -> RegisterFile -> Prop where
  | nil (registers : RegisterFile) : Stepwise [] registers registers
  | cons {handler : Handler} {step : Step} {rest : List Dispatch}
      {before between after : RegisterFile}
      (performed : handler.perform.runOn before = (.ok step, between))
      (others : Stepwise rest between after) :
      Stepwise (.handled handler :: rest) before after

/-- A handler asks not to be counted as an effect if and only if it falls back. -/
theorem Handler.step_eq [NaNResults] {handler : Handler} {registers after : RegisterFile}
    {step : Step} (executed : handler.execute registers = .ok (step, after)) :
    step = if (Dispatch.handled handler).isFallback then .unsupported else .next := by
  change step = if handler.effect == .fallback then .unsupported else .next
  cases handler.succeeds_of_execute executed with
  | binary isBinary hasResult assigned => rw [isBinary]; rfl
  | load isLoad assigned => rw [isLoad]; rfl
  | forget isFallback isDestination assigned => rw [isFallback]; rfl
  | skip isFallback noDestination => rw [isFallback]; rfl

/-- A run that succeeds ends in front of the first instruction without a
handler.  The induction is on the preparation, because the run reports the
position that was stored there. -/
theorem Prepared.run_completed [NaNResults] {settings : Settings} {start : Nat}
    {instructions : List Instruction} {dispatches : List Dispatch}
    (prepared : Prepared settings start instructions dispatches) {registers : RegisterFile}
    {summary : RunSummary} (succeeds : (runDispatches dispatches registers).result = .ok summary) :
    summary.executed = dispatches.findIdx Dispatch.isNotWired ∧
      summary.stoppedAt =
        (if dispatches.any Dispatch.isNotWired then some (start + summary.executed) else none) ∧
      summary.unsupported = (dispatches.take summary.executed).countP Dispatch.isFallback ∧
      Stepwise (dispatches.take summary.executed) registers
        (runDispatches dispatches registers).registers := by
  induction prepared generalizing registers summary with
  | nil start =>
      cases succeeds
      exact ⟨rfl, rfl, rfl, .nil registers⟩
  | @cons start instruction dispatch instructions dispatches dispatched rest inductionHypothesis =>
      cases dispatch with
      | notWired opcode index =>
          have isStart : index = start :=
            (Instruction.dispatches_of_ofInstruction dispatched).index_eq
          cases succeeds
          subst isStart
          exact ⟨rfl, rfl, rfl, .nil registers⟩
      | handled handler =>
          cases executed : handler.execute registers with
          | error error =>
              rw [runDispatches_of_error executed] at succeeds
              cases succeeds
          | ok reached =>
              rw [runDispatches_of_ok executed] at succeeds ⊢
              rcases Except.exists_of_map succeeds with ⟨later, restSucceeds, isSummary⟩
              rcases inductionHypothesis restSucceeds with
                ⟨sameLength, samePlace, sameCount, steps⟩
              subst isSummary
              refine ⟨?_, ?_, ?_, ?_⟩
              · rw [List.findIdx_cons]
                exact congrArg (· + 1) sameLength
              · rw [List.any_cons]
                change later.stoppedAt = if _ then some (start + (later.executed + 1)) else none
                rw [samePlace, Nat.add_assoc, Nat.add_comm 1]
                rfl
              · change later.unsupported + _ =
                  ((Dispatch.handled handler :: dispatches).take (later.executed + 1)).countP _
                rw [List.take_succ_cons, List.countP_cons, sameCount, Handler.step_eq executed]
                cases (Dispatch.handled handler).isFallback <;> rfl
              · exact .cons (Handler.runOn_perform_of_ok executed) steps

/-- A run that fails has ended at a handler that fails, in front of all
instructions without a handler. -/
theorem runDispatches_failed [NaNResults] (dispatches : List Dispatch) {registers : RegisterFile}
    {error : ExecutionError} (fails : (runDispatches dispatches registers).result = .error error) :
    Exists fun position => Exists fun handler =>
      position < dispatches.findIdx Dispatch.isNotWired ∧
        dispatches[position]? = some (.handled handler) ∧
        Stepwise (dispatches.take position) registers
          (runDispatches dispatches registers).registers ∧
        handler.perform.runOn (runDispatches dispatches registers).registers =
          (.error error, (runDispatches dispatches registers).registers) := by
  induction dispatches generalizing registers with
  | nil => cases fails
  | cons dispatch rest inductionHypothesis =>
      cases dispatch with
      | notWired opcode index => cases fails
      | handled handler =>
          cases executed : handler.execute registers with
          | error failure =>
              rw [runDispatches_of_error executed] at fails ⊢
              cases fails
              refine ⟨0, handler, ?_, rfl, .nil registers, Handler.runOn_perform_of_error executed⟩
              rw [List.findIdx_cons]
              exact Nat.succ_pos _
          | ok reached =>
              rw [runDispatches_of_ok executed] at fails ⊢
              rcases inductionHypothesis (Except.eq_error_of_map fails) with
                ⟨position, failing, inFront, isHandler, steps, performed⟩
              refine ⟨position + 1, failing, ?_, isHandler,
                .cons (Handler.runOn_perform_of_ok executed) steps, performed⟩
              rw [List.findIdx_cons]
              exact Nat.succ_lt_succ inFront

/-- On a machine a handler does what its function says or fails without a
change.  The run of a prepared method that succeeds has taken the steps in front
of the first instruction without a handler, and reports their number, the number
of fallbacks among them, and the position of that instruction.  A run that fails
has taken the steps in front of a handler that fails, and only those. -/
theorem PreparedMethod.run_stepwise [NaNResults] :
    (forall (handler : Handler) (registers : RegisterFile),
      (forall step after, handler.perform.runOn registers = (.ok step, after) <->
        handler.execute registers = .ok (step, after)) ∧
      (forall error after, handler.perform.runOn registers = (.error error, after) <->
        handler.execute registers = .error error ∧ after = registers)) ∧
    (forall (body : MethodBody) (settings : Settings) (method : PreparedMethod),
      body.prepare settings = .ok method -> forall registers : RegisterFile,
        (forall summary, (method.run registers).result = .ok summary ->
          summary.executed = method.dispatches.findIdx Dispatch.isNotWired ∧
          summary.stoppedAt =
            (if method.dispatches.any Dispatch.isNotWired then some summary.executed else none) ∧
          summary.unsupported =
            (method.dispatches.take summary.executed).countP Dispatch.isFallback ∧
          Stepwise (method.dispatches.take summary.executed) registers
            (method.run registers).registers) ∧
        (forall error, (method.run registers).result = .error error ->
          Exists fun position => Exists fun handler =>
            position < method.dispatches.findIdx Dispatch.isNotWired ∧
            method.dispatches[position]? = some (.handled handler) ∧
            Stepwise (method.dispatches.take position) registers
              (method.run registers).registers ∧
            handler.perform.runOn (method.run registers).registers =
              (.error error, (method.run registers).registers))) := by
  constructor
  · intro handler registers
    rw [handler.runOn_perform]
    constructor
    · intro step after
      exact RegisterFile.commit_eq_ok_iff
    · intro error after
      exact RegisterFile.commit_eq_error_iff
  · intro body settings method prepared registers
    constructor
    · intro summary succeeds
      have completed := (MethodBody.prepared_of_prepare prepared).run_completed succeeds
      rw [Nat.zero_add] at completed
      exact completed
    · intro error fails
      exact runDispatches_failed method.dispatches fails

/-- A zero is loaded, a register is copied, and the copied register is divided
by the zero.  Nothing behind the branch is reached. -/
def divideByLoaded : MethodBody where
  descriptor := "LFoo;->bar()V"
  instructions := [
    ⟨.constant (.narrow .bits4), [.register 0, .literal 0]⟩,
    ⟨.move .single .near, [.register 1, .register 2]⟩,
    ⟨.arithmetic (.registers (.int .div) .threeRegisters), [.register 3, .register 2, .register 0]⟩,
    ⟨.branchZero .eq, [.register 3, .label "end"]⟩,
    ⟨.constant (.narrow .bits4), [.register 3, .literal 1]⟩]

/-- The handlers of these instructions if constants are folded. -/
def divideByLoadedPrepared : PreparedMethod where
  descriptor := "LFoo;->bar()V"
  dispatches := [
    .handled ⟨⟨.constant (.narrow .bits4), [.register 0, .literal 0]⟩, 0, .load ⟨0, .int 0⟩⟩,
    .handled ⟨⟨.move .single .near, [.register 1, .register 2]⟩, 1, .fallback⟩,
    .handled ⟨⟨.arithmetic (.registers (.int .div) .threeRegisters),
      [.register 3, .register 2, .register 0]⟩, 2,
      .binary ⟨.direct (.int .div), .threeRegisters, 3, 2, .register 0⟩⟩,
    .notWired (.branchZero .eq) 3,
    .handled ⟨⟨.constant (.narrow .bits4), [.register 3, .literal 1]⟩, 4, .load ⟨3, .int 1⟩⟩]

theorem run_stepwise_divideByLoaded :
    let method := divideByLoadedPrepared
    let informed : RegisterFile := ⟨#[.unknown, .int 7, .int 5, .unknown]⟩
    divideByLoaded.prepare { foldConstants := true } = .ok method ∧
      (method.run (.fresh 4)).result = .ok ⟨3, 1, some 3⟩ ∧
      Stepwise (method.dispatches.take 3) (.fresh 4) (method.run (.fresh 4)).registers ∧
      (method.run informed).result = .error .divisionByZero ∧
      (method.run informed).registers = ⟨#[.int 0, .unknown, .int 5, .unknown]⟩ ∧
      Exists fun position => Exists fun handler =>
        position < 3 ∧ method.dispatches[position]? = some (.handled handler) ∧
        Stepwise (method.dispatches.take position) informed (method.run informed).registers ∧
        handler.perform.runOn (method.run informed).registers =
          (.error .divisionByZero, (method.run informed).registers) := by
  intro method informed
  have prepared : divideByLoaded.prepare { foldConstants := true } = .ok method := rfl
  have stepwise := PreparedMethod.run_stepwise.2 _ _ method prepared
  have completed := (stepwise (.fresh 4)).1 ⟨3, 1, some 3⟩ rfl
  have failed := (stepwise informed).2 .divisionByZero rfl
  exact ⟨prepared, rfl, completed.2.2.2, rfl, rfl, failed⟩

end DalvikFold
