import Mathlib.Data.Finset.Dedup
import Mathlib.Data.Finset.Option
import DalvikFold.Proofs.RegisterCounts

namespace DalvikFold

/-!
# What handlers read and write

A handler looks up some registers, finds one value, and stores it in one
register or nowhere.  Its *footprint* consists of the registers on both sides.
Execution is taken apart along these lines: the value depends on the registers
that are read and on nothing else, storing it fails only if its register is
missing, and a register that is not written keeps its value.

Where the value goes is taken from the operands that an effect was built from,
whereas an instruction that falls back has its destination computed from its
opcode.  Both come to the same register.
-/

/-! ## Footprints -/

namespace Handler

/-- The register that a handler overwrites, if it overwrites one. -/
def target? (handler : Handler) : Option UInt16 :=
  match handler.effect with
  | .binary effect => some effect.dest
  | .load effect => some effect.dest
  | .fallback => handler.instruction.destination?

/-- The registers that a handler overwrites. -/
def writeSet (handler : Handler) : Finset UInt16 :=
  handler.target?.toFinset

/-- The registers that a handler looks up: the operands of arithmetic. -/
def readSet (handler : Handler) : Finset UInt16 :=
  match handler.effect with
  | .binary effect => insert effect.left effect.right.registers.toFinset
  | .load _ => ∅
  | .fallback => ∅

/-- The value that a handler stores. -/
def value [NaNResults] (handler : Handler)
    (registers : RegisterFile) : Except ExecutionError Value :=
  match handler.effect with
  | .binary effect => effect.result registers
  | .load effect => .ok effect.constant.value
  | .fallback => .ok .unknown

/-- What a handler that succeeds says about itself. -/
def step (handler : Handler) : Step :=
  match handler.effect with
  | .binary _ => .next
  | .load _ => .next
  | .fallback => .unsupported

theorem mem_writeSet {handler : Handler} {register : UInt16} :
    register ∈ handler.writeSet <-> handler.target? = some register := by
  rw [writeSet, Option.mem_toFinset, Option.mem_def]

end Handler

namespace RegisterFile

/-- The file with a value in one register, or as it was if none is given. -/
def put (registers : RegisterFile) (target : Option UInt16) (value : Value) : RegisterFile :=
  match target with
  | some register => registers.set register value
  | none => registers

@[simp]
theorem count_put (registers : RegisterFile) (target : Option UInt16) (value : Value) :
    (registers.put target value).count = registers.count := by
  cases target with
  | some register => exact registers.count_set register value
  | none => rfl

private theorem values_set_of_ne (registers : RegisterFile) {register : UInt16} {position : Nat}
    (different : register.toNat ≠ position) (value : Value) :
    (registers.set register value).values[position]? = registers.values[position]? := by
  rw [set, Array.getElem?_setIfInBounds_ne different]

/-- A register that is not written keeps its value. -/
theorem values_put_of_ne (registers : RegisterFile) {target : Option UInt16} {position : Nat}
    (different : forall register, target = some register -> register.toNat ≠ position)
    (value : Value) :
    (registers.put target value).values[position]? = registers.values[position]? := by
  cases target with
  | some register => exact registers.values_set_of_ne (different register rfl) value
  | none => rfl

/-- Another register than the one that is written reads as before. -/
theorem read_put_of_ne (registers : RegisterFile) {target : Option UInt16} {register : UInt16}
    (different : target ≠ some register) (value : Value) :
    (registers.put target value).read register = registers.read register := by
  have sameValue : (registers.put target value).get? register = registers.get? register := by
    refine registers.values_put_of_ne (fun other isTarget samePosition => ?_) value
    exact different (isTarget.trans (congrArg some (UInt16.toNat_inj.mp samePosition)))
  rw [read, read, sameValue, count_put]

/-- Two writes to different registers can be exchanged. -/
theorem put_comm (registers : RegisterFile) {first second : Option UInt16}
    (different : forall register, first = some register -> second ≠ some register)
    (value other : Value) :
    (registers.put first value).put second other =
      (registers.put second other).put first value := by
  cases first with
  | none => rfl
  | some register =>
      cases second with
      | none => rfl
      | some otherRegister =>
          have differentPosition : register.toNat ≠ otherRegister.toNat := fun same =>
            different register rfl (congrArg some (UInt16.toNat_inj.mp same).symm)
          exact congrArg RegisterFile.mk (Array.setIfInBounds_comm _ _ differentPosition)

/-- The file with a value stored in one register, if the file has it. -/
def store (registers : RegisterFile) (target : Option UInt16) (value : Value) :
    Except ExecutionError RegisterFile :=
  match target with
  | some register => registers.assign register value
  | none => .ok registers

/-- Only a register that is missing keeps a value from being stored. -/
theorem store_eq_ok_iff {registers after : RegisterFile} {target : Option UInt16} {value : Value} :
    registers.store target value = .ok after <->
      (forall register, target = some register -> register.toNat < registers.count) ∧
        after = registers.put target value := by
  cases target with
  | none =>
      constructor
      · intro stored
        cases stored
        exact ⟨fun register isTarget => (nomatch isTarget), rfl⟩
      · rintro ⟨_, rfl⟩
        rfl
  | some register =>
      constructor
      · intro stored
        rcases assign_eq_ok stored with ⟨present, isSet⟩
        exact ⟨fun other isTarget => Option.some.inj isTarget ▸ present, isSet⟩
      · rintro ⟨present, rfl⟩
        exact if_pos (present register rfl)

end RegisterFile

/-! ## One handler -/

namespace Handler

variable {handler : Handler} {registers after other : RegisterFile} {step : Step}

/-- A handler finds its value first and stores it last. -/
theorem execute_eq [NaNResults] (handler : Handler) (registers : RegisterFile) :
    handler.execute registers = (do
      let value <- handler.value registers
      let after <- registers.store handler.target? value
      return (handler.step, after)) := by
  unfold execute value target? step
  cases handler.effect with
  | binary effect => rfl
  | load effect => rfl
  | fallback => cases handler.instruction.destination? <;> rfl

/-- A handler succeeds if it has a value and the file a place for it. -/
theorem execute_eq_ok_iff [NaNResults] :
    handler.execute registers = .ok (step, after) <->
      step = handler.step ∧
        (forall register, handler.target? = some register -> register.toNat < registers.count) ∧
        Exists fun value =>
          handler.value registers = .ok value ∧ after = registers.put handler.target? value := by
  rw [execute_eq]
  constructor
  · intro executed
    rcases Except.exists_of_bind executed with ⟨value, hasValue, stores⟩
    rcases Except.exists_of_bind stores with ⟨file, stored, returned⟩
    cases returned
    rcases RegisterFile.store_eq_ok_iff.mp stored with ⟨present, isPut⟩
    exact ⟨rfl, present, value, hasValue, isPut⟩
  · rintro ⟨rfl, present, value, hasValue, rfl⟩
    have stored : registers.store handler.target? value =
        .ok (registers.put handler.target? value) :=
      RegisterFile.store_eq_ok_iff.mpr ⟨present, rfl⟩
    rw [hasValue]
    change (registers.store handler.target? value >>= _) = _
    rw [stored]
    rfl

/-- The value of a handler depends on the registers that it reads and on no
other. -/
theorem value_congr [NaNResults] (agree : forall register, register ∈ handler.readSet ->
      registers.read register = other.read register) :
    handler.value registers = handler.value other := by
  unfold readSet at agree
  unfold value
  cases isEffect : handler.effect with
  | load effect => rfl
  | fallback => rfl
  | binary effect =>
      simp only [isEffect] at agree ⊢
      have sameLeft := agree effect.left (Finset.mem_insert_self _ _)
      have sameRight : effect.right.read registers = effect.right.read other := by
        cases isRight : effect.right with
        | literal bits => rfl
        | register number =>
            rw [isRight] at agree
            exact agree number (Finset.mem_insert_of_mem (List.mem_toFinset.mpr
              List.mem_cons_self))
      rw [BinaryEffect.result, BinaryEffect.result, sameLeft, sameRight]

/-- A handler that succeeds keeps the value of every register that it does not
write. -/
theorem values_of_execute [NaNResults] (executed : handler.execute registers = .ok (step, after))
    {position : Nat}
    (different : forall register, handler.target? = some register -> register.toNat ≠ position) :
    after.values[position]? = registers.values[position]? := by
  rcases execute_eq_ok_iff.mp executed with ⟨_, _, value, _, isPut⟩
  rw [isPut]
  exact registers.values_put_of_ne different value

end Handler

/-! ## Targets are destinations -/

theorem Opcode.writesRegister_arithmetic (operation : Arithmetic) :
    (Opcode.arithmetic operation).writesRegister = true := by
  cases operation with
  | registers operation form => cases form <;> rfl
  | _ => rfl

namespace Instruction

/-- An arithmetic effect overwrites the register in which its opcode puts a
result. -/
theorem destination?_of_binaryEffect {instruction : Instruction} {index : Nat}
    {effect : BinaryEffect} (built : instruction.binaryEffect index = .ok effect) :
    instruction.destination? = some effect.dest := by
  cases computes_of_binaryEffect built <;>
    rw [destination?, if_pos (Opcode.writesRegister_arithmetic _)] <;> rfl

/-- The handler of an instruction overwrites the destination of the instruction,
whichever of its effects it has. -/
theorem Dispatches.target?_eq {settings : Settings} {instruction : Instruction} {index : Nat}
    {handler : Handler} (dispatches : instruction.Dispatches settings index (.handled handler)) :
    handler.target? = instruction.destination? := by
  cases dispatches with
  | binary isCategory built => exact (destination?_of_binaryEffect built).symm
  | load isCategory built => exact (destination?_of_loadEffect built).symm
  | fallback isCategory => rfl

end Instruction

end DalvikFold
