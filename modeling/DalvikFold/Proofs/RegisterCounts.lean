import DalvikFold.Proofs.HandlerSteps
import DalvikFold.Proofs.PairedRuns
import DalvikFold.Proofs.Preparation

namespace DalvikFold

/-!
# The registers of a body are enough

The size of a register file is computed from the operands of a body, before
anything is known about what its instructions do with them.  It is nevertheless
large enough for every handler: whatever register a handler looks up or
overwrites is an operand of its instruction, and no handler changes the size of
the file.  A run can then fail only because of what the registers hold.
-/

/-- The errors that are about the values of operands, and not about registers
that are missing. -/
inductive ExecutionError.IsAboutValues : ExecutionError -> Prop where
  | typeMismatch (register : UInt16) (expected : NumericType) (got : ValueType) :
      IsAboutValues (.typeMismatch register expected got)
  | divisionByZero : IsAboutValues .divisionByZero

/-- If the computation fails, then with such an error. -/
def FailsOnly {Failure Result : Type} (errors : Failure -> Prop)
    (computation : Except Failure Result) : Prop :=
  forall error, computation = .error error -> errors error

section FailsOnly

variable {Failure First Second : Type} {errors : Failure -> Prop}

theorem failsOnly_ok (value : First) : FailsOnly errors (.ok value) := by
  intro error fails
  cases fails

theorem FailsOnly.bind {first : Except Failure First} (failsOnly : FailsOnly errors first)
    {next : First -> Except Failure Second} (others : forall value, FailsOnly errors (next value)) :
    FailsOnly errors (first >>= next) := by
  cases first with
  | error error => exact fun other fails => Except.error.inj fails ▸ failsOnly error rfl
  | ok value => exact others value

end FailsOnly

/-! ## Operations fail because of values -/

namespace Value

theorem narrowAs_failsOnly (expected : NumericType) (register : UInt16) (value : Value) :
    FailsOnly ExecutionError.IsAboutValues (value.narrowAs expected register) := by
  unfold narrowAs
  cases value.narrow? with
  | some bits => exact failsOnly_ok bits
  | none => exact fun error fails => Except.error.inj fails ▸ .typeMismatch register expected _

theorem wideAs_failsOnly (expected : NumericType) (register : UInt16) (value : Value) :
    FailsOnly ExecutionError.IsAboutValues (value.wideAs expected register) := by
  unfold wideAs
  cases value.wide? with
  | some bits => exact failsOnly_ok bits
  | none => exact fun error fails => Except.error.inj fails ▸ .typeMismatch register expected _

end Value

theorem divided_failsOnly {Result : Type} (result : Option Result) :
    FailsOnly ExecutionError.IsAboutValues (divided result) := by
  cases result with
  | some result => exact failsOnly_ok result
  | none => exact fun error fails => Except.error.inj fails ▸ .divisionByZero

theorem Operation.evaluate_failsOnly [NaNResults] (operation : Operation)
    (leftRegister rightRegister : UInt16) (left right : Value) :
    FailsOnly ExecutionError.IsAboutValues
      (operation.evaluate leftRegister rightRegister left right) := by
  cases operation with
  | reverseSub =>
      refine (left.narrowAs_failsOnly .int leftRegister).bind fun x => ?_
      exact (right.narrowAs_failsOnly .int rightRegister).bind fun y => failsOnly_ok _
  | direct operation =>
      cases operation with
      | int operator =>
          refine (left.narrowAs_failsOnly .int leftRegister).bind fun x => ?_
          refine (right.narrowAs_failsOnly .int rightRegister).bind fun y => ?_
          exact (divided_failsOnly _).bind fun word => failsOnly_ok _
      | long operator =>
          refine (left.wideAs_failsOnly .long leftRegister).bind fun x => ?_
          refine (right.wideAs_failsOnly .long rightRegister).bind fun y => ?_
          exact (divided_failsOnly _).bind fun word => failsOnly_ok _
      | intShift operator =>
          refine (left.narrowAs_failsOnly .int leftRegister).bind fun x => ?_
          exact (right.narrowAs_failsOnly .int rightRegister).bind fun y => failsOnly_ok _
      | longShift operator =>
          refine (left.wideAs_failsOnly .long leftRegister).bind fun x => ?_
          exact (right.narrowAs_failsOnly .int rightRegister).bind fun y => failsOnly_ok _
      | float operator =>
          refine (left.narrowAs_failsOnly .float leftRegister).bind fun x => ?_
          exact (right.narrowAs_failsOnly .float rightRegister).bind fun y => failsOnly_ok _
      | double operator =>
          refine (left.wideAs_failsOnly .double leftRegister).bind fun x => ?_
          exact (right.wideAs_failsOnly .double rightRegister).bind fun y => failsOnly_ok _

/-! ## Handlers need no register but their own -/

/-- The register that a right operand names, if it names one. -/
def RightOperand.registers : RightOperand -> List UInt16
  | .register number => [number]
  | .literal _ => []

/-- The registers that a handler looks up or overwrites. -/
def Handler.registers (handler : Handler) : List UInt16 :=
  match handler.effect with
  | .binary effect => effect.dest :: effect.left :: effect.right.registers
  | .load effect => [effect.dest]
  | .fallback => handler.instruction.destination?.toList

def RegisterFile.HasAll (registers : RegisterFile) (numbers : List UInt16) : Prop :=
  forall number, number ∈ numbers -> number.toNat < registers.count

theorem RegisterFile.read_failsOnly (registers : RegisterFile) {register : UInt16}
    (present : register.toNat < registers.count) :
    FailsOnly ExecutionError.IsAboutValues (registers.read register) := by
  rw [registers.read_of_lt register present]
  exact failsOnly_ok _

theorem RegisterFile.assign_failsOnly (registers : RegisterFile) {register : UInt16}
    (present : register.toNat < registers.count) (value : Value) :
    FailsOnly ExecutionError.IsAboutValues (registers.assign register value) := by
  rw [assign, if_pos present]
  exact failsOnly_ok _

theorem RightOperand.read_failsOnly (operand : RightOperand) {registers : RegisterFile}
    (present : registers.HasAll operand.registers) :
    FailsOnly ExecutionError.IsAboutValues (operand.read registers) := by
  cases operand with
  | register number => exact registers.read_failsOnly (present number List.mem_cons_self)
  | literal bits => exact failsOnly_ok _

theorem BinaryEffect.result_failsOnly [NaNResults] (effect : BinaryEffect)
    {registers : RegisterFile} (leftPresent : effect.left.toNat < registers.count)
    (rightPresent : registers.HasAll effect.right.registers) :
    FailsOnly ExecutionError.IsAboutValues (effect.result registers) := by
  unfold result
  refine (registers.read_failsOnly leftPresent).bind fun left => ?_
  refine (effect.right.read_failsOnly rightPresent).bind fun right => ?_
  split
  · exact effect.operation.evaluate_failsOnly _ _ left right
  · exact failsOnly_ok _

theorem Handler.execute_failsOnly [NaNResults] (handler : Handler) {registers : RegisterFile}
    (present : registers.HasAll handler.registers) :
    FailsOnly ExecutionError.IsAboutValues (handler.execute registers) := by
  unfold execute
  rw [RegisterFile.HasAll, Handler.registers] at present
  cases isEffect : handler.effect with
  | binary effect =>
      rw [isEffect] at present
      have destPresent := present effect.dest List.mem_cons_self
      have leftPresent := present effect.left (List.mem_cons_of_mem _ List.mem_cons_self)
      have rightPresent : registers.HasAll effect.right.registers := by
        intro number member
        exact present number (List.mem_cons_of_mem _ (List.mem_cons_of_mem _ member))
      refine (effect.result_failsOnly leftPresent rightPresent).bind fun result => ?_
      exact (registers.assign_failsOnly destPresent result).bind fun after => failsOnly_ok _
  | load effect =>
      rw [isEffect] at present
      have destPresent := present effect.dest List.mem_cons_self
      exact (registers.assign_failsOnly destPresent _).bind fun after => failsOnly_ok _
  | fallback =>
      rw [isEffect] at present
      cases isDestination : handler.instruction.destination? with
      | some dest =>
          rw [isDestination] at present
          have destPresent := present dest List.mem_cons_self
          exact (registers.assign_failsOnly destPresent .unknown).bind fun after => failsOnly_ok _
      | none => exact failsOnly_ok _

theorem RegisterFile.count_of_assign {registers after : RegisterFile} {register : UInt16}
    {value : Value} (assigned : registers.assign register value = .ok after) :
    after.count = registers.count := by
  rw [(assign_eq_ok assigned).2, count_set]

theorem Handler.count_of_execute [NaNResults] {handler : Handler} {registers after : RegisterFile}
    {step : Step} (executed : handler.execute registers = .ok (step, after)) :
    after.count = registers.count := by
  cases handler.succeeds_of_execute executed with
  | binary isBinary hasResult assigned => exact RegisterFile.count_of_assign assigned
  | load isLoad assigned => exact RegisterFile.count_of_assign assigned
  | forget isFallback isDestination assigned => exact RegisterFile.count_of_assign assigned
  | skip isFallback noDestination => rfl

theorem runDispatches_failsOnly [NaNResults] (dispatches : List Dispatch) {registers : RegisterFile}
    (present : forall handler, .handled handler ∈ dispatches ->
      registers.HasAll handler.registers) :
    FailsOnly ExecutionError.IsAboutValues (runDispatches dispatches registers).result := by
  induction dispatches generalizing registers with
  | nil => exact failsOnly_ok _
  | cons dispatch rest inductionHypothesis =>
      cases dispatch with
      | notWired opcode index => exact failsOnly_ok _
      | handled handler =>
          cases executed : handler.execute registers with
          | error error =>
              rw [runDispatches_of_error executed]
              have isAboutValues :=
                handler.execute_failsOnly (present handler List.mem_cons_self) error executed
              exact fun other fails => Except.error.inj fails ▸ isAboutValues
          | ok reached =>
              have stillPresent : forall handler, .handled handler ∈ rest ->
                  reached.2.HasAll handler.registers := by
                intro other member
                unfold RegisterFile.HasAll
                rw [Handler.count_of_execute executed]
                exact present other (List.mem_cons_of_mem _ member)
              rw [runDispatches_of_ok executed]
              exact (inductionHypothesis stillPresent).bind fun summary => failsOnly_ok _

/-! ## Handlers name operands of their instructions -/

namespace Instruction

def registers (instruction : Instruction) : List UInt16 :=
  instruction.operands.filterMap Operand.register?

private theorem mem_registers_of_register? {instruction : Instruction} {position : Nat}
    {number : UInt16}
    (named : instruction.register? position = some number) : number ∈ instruction.registers := by
  rcases Option.bind_eq_some_iff.mp named with ⟨operand, atPosition, isRegister⟩
  exact List.mem_filterMap.mpr ⟨operand, List.mem_of_getElem? atPosition, isRegister⟩

theorem mem_registers_of_destination? {instruction : Instruction} {dest : UInt16}
    (isDestination : instruction.destination? = some dest) : dest ∈ instruction.registers := by
  unfold destination? at isDestination
  split at isDestination
  · exact mem_registers_of_register? isDestination
  · cases isDestination

private theorem subset_of_binaryEffect {instruction : Instruction} {index : Nat}
    {effect : BinaryEffect} (built : instruction.binaryEffect index = .ok effect) :
    effect.dest :: effect.left :: effect.right.registers ⊆ instruction.registers := by
  cases computes_of_binaryEffect built <;>
    simp [registers, Operand.register?, RightOperand.registers]

/-- Whatever register the handler of an instruction looks up or overwrites, the
instruction names it. -/
theorem Dispatches.registers_subset {settings : Settings} {instruction : Instruction}
    {index : Nat} {handler : Handler}
    (dispatches : instruction.Dispatches settings index (.handled handler)) :
    handler.registers ⊆ instruction.registers := by
  cases dispatches with
  | binary isCategory built => exact subset_of_binaryEffect built
  | load isCategory built =>
      intro number member
      rw [List.mem_singleton.mp member]
      exact mem_registers_of_destination? (destination?_of_loadEffect built)
  | fallback isCategory =>
      intro number member
      exact mem_registers_of_destination? (Option.mem_toList.mp member)

end Instruction

/-! ## The computed size -/

theorem foldl_max_le_iff {Item : Type} (size : Item -> Nat) (items : List Item)
    (first bound : Nat) :
    items.foldl (fun count item => max count (size item)) first ≤ bound <->
      first ≤ bound ∧ forall item, item ∈ items -> size item ≤ bound := by
  induction items generalizing first with
  | nil => simp
  | cons item rest inductionHypothesis =>
      rw [List.foldl_cons, inductionHypothesis, Nat.max_le, List.forall_mem_cons, and_assoc]

namespace MethodBody

/-- The computed size is the least one that has room for all operands. -/
theorem registerCount_le_iff (body : MethodBody) (bound : Nat) :
    body.registerCount ≤ bound <->
      forall instruction, instruction ∈ body.instructions ->
        forall number, number ∈ instruction.registers -> number.toNat < bound := by
  unfold registerCount
  rw [foldl_max_le_iff]
  constructor
  · rintro ⟨_, fits⟩ instruction isMember number named
    rcases List.mem_filterMap.mp named with ⟨operand, isOperand, isRegister⟩
    exact fits number (List.mem_filterMap.mpr
      ⟨operand, List.mem_flatMap.mpr ⟨instruction, isMember, isOperand⟩, isRegister⟩)
  · intro fits
    refine ⟨Nat.zero_le bound, ?_⟩
    intro number isNumber
    rcases List.mem_filterMap.mp isNumber with ⟨operand, isMember, isRegister⟩
    rcases List.mem_flatMap.mp isMember with ⟨instruction, inBody, isOperand⟩
    exact fits instruction inBody number (List.mem_filterMap.mpr ⟨operand, isOperand, isRegister⟩)

private theorem registerCount_le (body : MethodBody) : body.registerCount ≤ 65536 := by
  rw [registerCount_le_iff]
  intro instruction isMember number named
  exact number.toNat_lt

/-- A run on a file with at least as many registers as were computed fails only
because of what they hold. -/
theorem run_failsOnly [NaNResults] {body : MethodBody} {settings : Settings}
    {method : PreparedMethod}
    (prepared : body.prepare settings = .ok method) {registers : RegisterFile}
    (enough : body.registerCount ≤ registers.count) :
    FailsOnly ExecutionError.IsAboutValues (method.run registers).result := by
  apply runDispatches_failsOnly
  intro handler isMember number isRegister
  rcases (prepared_of_prepare prepared).exists_of_mem isMember with
    ⟨instruction, index, inBody, dispatches⟩
  have named : number ∈ instruction.registers := dispatches.registers_subset isRegister
  exact (body.registerCount_le_iff registers.count).mp enough instruction inBody number named

/-- A register file of the computed size is enough for every run of the body,
and the settings allow it unless they set a limit below the number of registers
that operands can name. -/
theorem run_allocated [NaNResults] (body : MethodBody) :
    (forall (settings limits : Settings) (method : PreparedMethod) (registers : RegisterFile)
      (error : ExecutionError), body.prepare settings = .ok method ->
      limits.allocate body.registerCount = .ok registers ->
      (method.run registers).result = .error error ->
        (Exists fun register => Exists fun expected => Exists fun got =>
          error = .typeMismatch register expected got) ∨ error = .divisionByZero) ∧
    (forall settings : Settings, 65536 ≤ settings.maxRegisters ->
      settings.allocate body.registerCount = .ok (.fresh body.registerCount)) ∧
    ({ } : Settings).maxRegisters = 65536 := by
  refine ⟨?_, ?_, rfl⟩
  · intro settings limits method registers error prepared allocated fails
    have enough : body.registerCount ≤ registers.count := by
      unfold Settings.allocate at allocated
      split at allocated
      · cases allocated
      · cases allocated
        exact Nat.le_of_eq (RegisterFile.count_fresh _).symm
    cases run_failsOnly prepared enough error fails with
    | typeMismatch register expected got => exact .inl ⟨register, expected, got, rfl⟩
    | divisionByZero => exact .inr rfl
  · intro settings allowed
    have inLimit : ¬ settings.maxRegisters < body.registerCount :=
      Nat.not_lt_of_le (Nat.le_trans body.registerCount_le allowed)
    rw [Settings.allocate, if_neg inLimit]

end MethodBody

/-- A zero is loaded and divided by itself, into the register with the highest
number of the body. -/
def divideZero : MethodBody where
  descriptor := "LFoo;->bar()V"
  instructions := [
    ⟨.constant (.narrow .bits4), [.register 0, .literal 0]⟩,
    ⟨.arithmetic (.registers (.int .div) .threeRegisters), [.register 2, .register 0, .register 0]⟩]

/-- The handlers of these instructions if constants are folded. -/
def divideZeroPrepared : PreparedMethod where
  descriptor := "LFoo;->bar()V"
  dispatches := [
    .handled ⟨⟨.constant (.narrow .bits4), [.register 0, .literal 0]⟩, 0, .load ⟨0, .int 0⟩⟩,
    .handled ⟨⟨.arithmetic (.registers (.int .div) .threeRegisters),
      [.register 2, .register 0, .register 0]⟩, 1,
      .binary ⟨.direct (.int .div), .threeRegisters, 2, 0, .register 0⟩⟩]

/-- A copy into the register with the highest number of all. -/
def copyToLast : MethodBody where
  descriptor := "LFoo;->bar()V"
  instructions := [⟨.move .single .far, [.register 65535, .register 0]⟩]

theorem run_allocated_divideZero :
    let settings : Settings := { foldConstants := true }
    let limits : Settings := { maxRegisters := 3 }
    divideZero.prepare settings = .ok divideZeroPrepared ∧
      limits.allocate divideZero.registerCount = .ok (.fresh 3) ∧
      (divideZeroPrepared.run (.fresh 3)).result = .error .divisionByZero ∧
      ((Exists fun register => Exists fun expected => Exists fun got =>
        ExecutionError.divisionByZero = .typeMismatch register expected got) ∨
          ExecutionError.divisionByZero = .divisionByZero) ∧
      copyToLast.registerCount = 65536 ∧ 65536 ≤ settings.maxRegisters ∧
      settings.allocate copyToLast.registerCount = .ok (.fresh copyToLast.registerCount) := by
  intro settings limits
  have prepared : divideZero.prepare settings = .ok divideZeroPrepared := rfl
  have allocated : limits.allocate divideZero.registerCount = .ok (.fresh 3) := rfl
  have fails : (divideZeroPrepared.run (.fresh 3)).result = .error .divisionByZero := rfl
  have isAboutValues := divideZero.run_allocated.1 settings limits _ _ _ prepared allocated fails
  have allowed : 65536 ≤ settings.maxRegisters := Nat.le_refl _
  exact ⟨prepared, allocated, fails, isAboutValues, rfl, allowed,
    copyToLast.run_allocated.2.1 settings allowed⟩

end DalvikFold
