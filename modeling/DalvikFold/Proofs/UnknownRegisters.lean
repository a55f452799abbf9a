import DalvikFold.Proofs.Footprints

namespace DalvikFold

/-!
# Runs that know nothing

Without folding no instruction brings a value into a run.  A run that begins
with unknown registers therefore computes with unknown operands throughout, and
neither the type of an operand nor a divisor, be it a literal zero, is ever
looked at.  What remains is that every register is there, and the computed size
of the register file takes care of it.

The invariant is that the registers are those of a fresh file.  Constant loads
alone could break it, and they have handlers only if the settings fold
constants.
-/

/-! ## Fresh register files -/

namespace RegisterFile

theorem read_fresh {count : Nat} {register : UInt16} (present : register.toNat < count) :
    (fresh count).read register = .ok .unknown := by
  have inFile : register.toNat < (fresh count).count := by rwa [count_fresh]
  rw [read_of_lt _ _ inFile]
  exact congrArg Except.ok (Array.getElem_replicate inFile)

/-- Forgetting a register of a fresh file changes nothing. -/
theorem put_fresh (count : Nat) (target : Option UInt16) :
    (fresh count).put target .unknown = fresh count := by
  cases target with
  | none => rfl
  | some register => exact congrArg RegisterFile.mk Array.setIfInBounds_replicate_self

end RegisterFile

/-! ## One handler -/

/-- The handler loads a constant. -/
inductive Handler.IsLoad (handler : Handler) : Prop where
  | intro {effect : LoadEffect} (isLoad : handler.effect = .load effect)

private theorem RightOperand.exists_read_fresh (operand : RightOperand) {count : Nat}
    (present : (RegisterFile.fresh count).HasAll operand.registers) :
    Exists fun value => operand.read (.fresh count) = .ok value := by
  cases operand with
  | literal bits => exact ⟨_, rfl⟩
  | register number =>
      have inFile := present number List.mem_cons_self
      rw [RegisterFile.count_fresh] at inFile
      exact ⟨.unknown, RegisterFile.read_fresh inFile⟩

/-- Arithmetic on a fresh file has an unknown left operand, and so its result is
unknown as well. -/
theorem BinaryEffect.result_fresh [NaNResults] (effect : BinaryEffect) {count : Nat}
    (leftPresent : effect.left.toNat < count)
    (rightPresent : (RegisterFile.fresh count).HasAll effect.right.registers) :
    effect.result (.fresh count) = .ok .unknown := by
  rcases effect.right.exists_read_fresh rightPresent with ⟨right, readRight⟩
  unfold result
  rw [RegisterFile.read_fresh leftPresent]
  change (effect.right.read (.fresh count) >>= _) = _
  rw [readRight]
  rfl

namespace Handler

variable {handler : Handler} {count : Nat}

private theorem mem_registers_of_target? {register : UInt16}
    (isTarget : handler.target? = some register) : register ∈ handler.registers := by
  unfold target? at isTarget
  unfold registers
  cases isEffect : handler.effect with
  | binary effect | load effect =>
      rw [isEffect] at isTarget
      cases isTarget
      exact List.mem_cons_self
  | fallback =>
      rw [isEffect] at isTarget
      exact Option.mem_toList.mpr isTarget

theorem value_fresh [NaNResults] (notLoad : ¬ handler.IsLoad)
    (present : (RegisterFile.fresh count).HasAll handler.registers) :
    handler.value (.fresh count) = .ok .unknown := by
  unfold registers at present
  unfold value
  cases isEffect : handler.effect with
  | load effect => exact absurd (.intro isEffect) notLoad
  | fallback => rfl
  | binary effect =>
      simp only [isEffect] at present ⊢
      have leftPresent : effect.left.toNat < count := by
        rw [← RegisterFile.count_fresh count]
        exact present effect.left (List.mem_cons_of_mem _ List.mem_cons_self)
      refine effect.result_fresh leftPresent fun number isRight => ?_
      exact present number (List.mem_cons_of_mem _ (List.mem_cons_of_mem _ isRight))

/-- A handler that loads no constant keeps a fresh file as it is. -/
theorem execute_fresh [NaNResults] (notLoad : ¬ handler.IsLoad)
    (present : (RegisterFile.fresh count).HasAll handler.registers) :
    handler.execute (.fresh count) = .ok (handler.step, .fresh count) := by
  refine execute_eq_ok_iff.mpr ⟨rfl, ?_, .unknown, value_fresh notLoad present, ?_⟩
  · intro register isTarget
    exact present register (mem_registers_of_target? isTarget)
  · exact (RegisterFile.put_fresh count handler.target?).symm

end Handler

/-! ## Whole runs -/

/-- Without folding no instruction is dispatched to a load. -/
theorem Instruction.Dispatches.not_isLoad {settings : Settings} {instruction : Instruction}
    {index : Nat} {handler : Handler} (plain : settings.foldConstants = false)
    (dispatches : instruction.Dispatches settings index (.handled handler)) :
    ¬ handler.IsLoad := by
  rintro ⟨isLoad⟩
  cases dispatches with
  | binary | fallback => cases isLoad
  | load isCategory built =>
      -- Only settings that fold put an opcode into the category of constants.
      rw [Opcode.categoryUnder, plain, Bool.false_and] at isCategory
      change instruction.opcode.category = .constant at isCategory
      cases isOpcode : instruction.opcode <;> rw [isOpcode] at isCategory <;> cases isCategory

/-- Handlers that load no constant run through on a fresh file that has their
registers, and keep it as it is. -/
theorem runDispatches_fresh [NaNResults] (dispatches : List Dispatch) {count : Nat}
    (notLoad : forall handler, .handled handler ∈ dispatches -> ¬ handler.IsLoad)
    (present : forall handler, .handled handler ∈ dispatches ->
      (RegisterFile.fresh count).HasAll handler.registers) :
    Exists fun summary =>
      runDispatches dispatches (.fresh count) = ⟨.ok summary, .fresh count⟩ := by
  induction dispatches with
  | nil => exact ⟨_, rfl⟩
  | cons dispatch rest inductionHypothesis =>
      cases dispatch with
      | notWired opcode index => exact ⟨_, rfl⟩
      | handled handler =>
          have executed := Handler.execute_fresh (notLoad handler List.mem_cons_self)
            (present handler List.mem_cons_self)
          rcases inductionHypothesis
              (fun other isLater => notLoad other (List.mem_cons_of_mem _ isLater))
              (fun other isLater => present other (List.mem_cons_of_mem _ isLater)) with
            ⟨later, restRun⟩
          rw [runDispatches_of_ok executed, restRun]
          exact ⟨later.after handler.step, rfl⟩

/-- A body that was prepared without folding runs through on every fresh file of
at least the computed size, and no register is known at the end. -/
theorem MethodBody.run_fresh [NaNResults] (body : MethodBody) {settings : Settings}
    (plain : settings.foldConstants = false) {method : PreparedMethod}
    (prepared : body.prepare settings = .ok method) {count : Nat}
    (enough : body.registerCount ≤ count) :
    (Exists fun summary => (method.run (.fresh count)).result = .ok summary) ∧
      (method.run (.fresh count)).registers = .fresh count := by
  have dispatched := prepared_of_prepare prepared
  have runs : Exists fun summary =>
      runDispatches method.dispatches (.fresh count) = ⟨.ok summary, .fresh count⟩ := by
    apply runDispatches_fresh
    · intro handler isMember
      rcases dispatched.exists_of_mem isMember with ⟨instruction, index, _, dispatches⟩
      exact dispatches.not_isLoad plain
    · intro handler isMember number isRegister
      rcases dispatched.exists_of_mem isMember with ⟨instruction, index, inBody, dispatches⟩
      rw [RegisterFile.count_fresh]
      exact (body.registerCount_le_iff count).mp enough instruction inBody number
        (dispatches.registers_subset isRegister)
  rcases runs with ⟨summary, isRun⟩
  rw [PreparedMethod.run, isRun]
  exact ⟨⟨summary, rfl⟩, rfl⟩

/-- A string is loaded, a register is divided by a literal zero and by the
string, and a wide shift follows. -/
def divideByZeroAndString : MethodBody where
  descriptor := "LFoo;->bar()V"
  instructions := [
    ⟨.constant .string, [.register 0, .string "a"]⟩,
    ⟨.arithmetic (.literal8 .div), [.register 1, .register 2, .literal 0]⟩,
    ⟨.arithmetic (.registers (.int .div) .twoAddress), [.register 1, .register 0]⟩,
    ⟨.arithmetic (.registers (.longShift .shl) .twoAddress), [.register 0, .register 1]⟩]

/-- The handlers of these instructions if constants are not folded. -/
def divideByZeroAndStringPrepared : PreparedMethod where
  descriptor := "LFoo;->bar()V"
  dispatches := [
    .handled ⟨⟨.constant .string, [.register 0, .string "a"]⟩, 0, .fallback⟩,
    .handled ⟨⟨.arithmetic (.literal8 .div), [.register 1, .register 2, .literal 0]⟩, 1,
      .binary ⟨.direct (.int .div), .literal, 1, 2, .literal 0⟩⟩,
    .handled ⟨⟨.arithmetic (.registers (.int .div) .twoAddress), [.register 1, .register 0]⟩, 2,
      .binary ⟨.direct (.int .div), .twoAddress, 1, 1, .register 0⟩⟩,
    .handled ⟨⟨.arithmetic (.registers (.longShift .shl) .twoAddress), [.register 0, .register 1]⟩,
      3, .binary ⟨.direct (.longShift .shl), .twoAddress, 0, 0, .register 1⟩⟩]

theorem run_fresh_divideByZeroAndString :
    let settings : Settings := { foldConstants := false }
    let method := divideByZeroAndStringPrepared
    settings.foldConstants = false ∧
      divideByZeroAndString.prepare settings = .ok method ∧
      divideByZeroAndString.registerCount = 3 ∧
      (Exists fun summary => (method.run (.fresh 3)).result = .ok summary) ∧
      (method.run (.fresh 3)).registers = .fresh 3 := by
  intro settings method
  have prepared : divideByZeroAndString.prepare settings = .ok method := rfl
  have enough : divideByZeroAndString.registerCount ≤ 3 := Nat.le_refl 3
  exact ⟨rfl, prepared, rfl, divideByZeroAndString.run_fresh rfl prepared enough⟩

end DalvikFold
