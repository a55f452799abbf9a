import DalvikFold.Proofs.PairedRuns

namespace DalvikFold

/-!
# Folding is sound

A run on registers of which some are unknown stands for many runs of the real
machine.  There every register holds a value, and an instruction that falls
back here has its result there.  An *answered* run models one of them: the
handlers act as they always do, except that a handler that falls back stores an
arbitrary value in the register in which the instruction set puts the result.

A register file is *below* another one if it agrees with it on every register
that is known there.  The main theorem says that a run stays above each of its
answered runs: whatever is known at the end has that value in all of them, and
a failure cannot be escaped by knowing more.  The answers need not fit the
instruction in any way, and nothing is assumed of the method.

Which opcodes have a result is listed family by family, as the instruction set
has it.  That the handlers forget a register for exactly these opcodes is
proved, and it is where a missing opcode would show.
-/

/-! ## What the instruction set calls a result -/

/-- Whether the instruction set has the opcode put a result into its first
register. -/
def Opcode.producesResult : Opcode -> Bool
  | .move _ _ | .moveResult _ | .moveException => true
  | .constant _ | .constMethodHandle | .constMethodType => true
  | .instanceOf | .arrayLength | .newInstance | .newArray => true
  | .compare _ => true
  | .access _ .load _ | .quickAccess .load _ => true
  | .unary _ | .convert _ => true
  | .arithmetic _ => true
  | _ => false

/-- The register in which the instruction set puts the result of an
instruction, if the opcode has one and the first operand is a register. -/
def Instruction.resultRegister? (instruction : Instruction) : Option UInt16 :=
  if instruction.opcode.producesResult then instruction.register? 0 else none

private theorem Place.format_cases (place : Place) :
    place.format = .f23x ∨ place.format = .f22c ∨ place.format = .f21c := by
  cases place with
  | array => exact .inl rfl
  | instanceField => exact .inr (.inl rfl)
  | staticField => exact .inr (.inr rfl)

/-- Formats and the list of stores single out the same opcodes as the
instruction set. -/
theorem Opcode.producesResult_eq_writesRegister (opcode : Opcode) :
    opcode.producesResult = opcode.writesRegister := by
  cases opcode with
  | move kind reach => cases reach <;> rfl
  | constant load =>
      cases load with
      | narrow literal => cases literal <;> rfl
      | wide literal => cases literal <;> rfl
      | string => rfl
      | stringJumbo => rfl
      | classObject => rfl
  | filledNewArray list => cases list <;> rfl
  | goto reach => cases reach <;> rfl
  | access place direction element =>
      cases direction <;> rcases place.format_cases with isFormat | isFormat | isFormat <;>
        simp only [producesResult, writesRegister, format, isFormat, isStore] <;> rfl
  | invoke kind list => cases list <;> rfl
  | arithmetic operation =>
      cases operation with
      | registers operation form => cases form <;> rfl
      | literal16 operator => rfl
      | literal8 operator => rfl
      | shiftLiteral8 operator => rfl
  | quickAccess direction element => cases direction <;> rfl
  | quickInvoke list => cases list <;> rfl
  | invokePolymorphic list => cases list <;> rfl
  | invokeCustom list => cases list <;> rfl
  | _ => rfl

theorem Instruction.resultRegister?_eq_destination? (instruction : Instruction) :
    instruction.resultRegister? = instruction.destination? := by
  rw [resultRegister?, destination?, Opcode.producesResult_eq_writesRegister]

/-! ## Answered runs -/

/-- The answers of the real machine: the value that the instruction at a
position of the method has as its result, in view of the registers there. -/
abbrev Oracle : Type :=
  Nat -> RegisterFile -> Value

/-- What a handler makes of the registers if an instruction that falls back has
the given answer as its result. -/
def Handler.executeAnswered [NaNResults] (answer : Value) (handler : Handler)
    (registers : RegisterFile) : Except ExecutionError (Step × RegisterFile) :=
  match handler.effect, handler.instruction.resultRegister? with
  | .fallback, some dest => do
      let registers <- registers.assign dest answer
      return (.unsupported, registers)
  | _, _ => handler.execute registers

/-- The answered run of dispatched instructions that start at a position. -/
def runAnswered [NaNResults] (oracle : Oracle) : Nat -> List Dispatch -> RegisterFile -> RunOutcome
  | _, [], registers => ⟨.ok { }, registers⟩
  | _, .notWired _ index :: _, registers => ⟨.ok { stoppedAt := some index }, registers⟩
  | position, .handled handler :: rest, registers =>
      match handler.executeAnswered (oracle position registers) registers with
      | .error error => ⟨.error error, registers⟩
      | .ok (step, registers) =>
          let outcome := runAnswered oracle (position + 1) rest registers
          ⟨outcome.result.map (fun summary => summary.after step), outcome.registers⟩

namespace PreparedMethod

/-- The answered run of a prepared method. -/
def runAnswered [NaNResults] (method : PreparedMethod) (oracle : Oracle)
    (registers : RegisterFile) : RunOutcome :=
  DalvikFold.runAnswered oracle 0 method.dispatches registers

/-- The method cut off after some of its instructions. -/
def upTo (method : PreparedMethod) (count : Nat) : PreparedMethod :=
  { method with dispatches := method.dispatches.take count }

end PreparedMethod

/-! ## Knowing less -/

/-- The value agrees with what is known of it. -/
def Value.Below (value bound : Value) : Prop :=
  bound = .unknown ∨ bound = value

/-- Every register that is known in the bound has the same value here. -/
def RegisterFile.Below (registers bound : RegisterFile) : Prop :=
  Related Value.Below registers bound

theorem Value.below_unknown (value : Value) : value.Below .unknown :=
  .inl rfl

theorem Value.below_refl (value : Value) : value.Below value :=
  .inr rfl

/-- A known bound leaves no choice. -/
theorem Value.Below.eq_of_isKnown {value bound : Value} (below : value.Below bound)
    (known : bound.isKnown = true) : value = bound := by
  rcases below with unknown | same
  · subst unknown
    cases known
  · exact same.symm

/-- Nothing is known in a fresh register file. -/
theorem RegisterFile.below_fresh (registers : RegisterFile) :
    registers.Below (fresh registers.count) where
  count_eq := (count_fresh _).symm
  values := by
    intro position value other _ atFresh
    simp only [fresh, Array.getElem?_replicate] at atFresh
    split at atFresh
    · cases atFresh
      exact value.below_unknown
    · cases atFresh

/-! ## One handler -/

theorem RightOperand.read_covered (operand : RightOperand) {informed folded : RegisterFile}
    (below : informed.Below folded) :
    Covered Value.Below (operand.read informed) (operand.read folded) := by
  cases operand with
  | register number => exact (below.read number).covered
  | literal bits => exact .ok (Value.below_refl _)

/-- Operands that are known are the same in both register files, and the result
of operands that are not all known is above every value. -/
theorem BinaryEffect.result_covered [NaNResults] (effect : BinaryEffect)
    {informed folded : RegisterFile} (below : informed.Below folded) :
    Covered Value.Below (effect.result informed) (effect.result folded) := by
  unfold result
  refine (below.read effect.left).covered.bind fun left leftBound leftBelow => ?_
  refine (effect.right.read_covered below).bind fun right rightBound rightBelow => ?_
  cases known : leftBound.isKnown && rightBound.isKnown with
  | true =>
      rw [Bool.and_eq_true] at known
      have sameLeft : left = leftBound := leftBelow.eq_of_isKnown known.1
      have sameRight : right = rightBound := rightBelow.eq_of_isKnown known.2
      subst sameLeft sameRight
      rw [known.1, known.2]
      exact Covered.refl Value.below_refl _
  | false =>
      simp only [Bool.false_eq_true, if_false]
      exact Covered.of_ok Value.below_unknown _

/-- With fewer registers known, a handler succeeds wherever it did, and what it
leaves stays above. -/
theorem Handler.executeAnswered_covered [NaNResults] (handler : Handler) (answer : Value)
    {informed folded : RegisterFile} (below : informed.Below folded) :
    Covered (RegisterFile.SameStep Value.Below)
      (handler.executeAnswered answer informed) (handler.execute folded) := by
  unfold executeAnswered execute
  rw [handler.instruction.resultRegister?_eq_destination?]
  cases handler.effect with
  | binary effect =>
      refine (effect.result_covered below).bind fun value bound valueBelow => ?_
      exact (below.assign_step effect.dest valueBelow .next).covered
  | load effect => exact (below.assign_step effect.dest (Value.below_refl _) .next).covered
  | fallback =>
      cases handler.instruction.destination? with
      | some dest => exact (below.assign_step dest answer.below_unknown .unsupported).covered
      | none => exact .ok ⟨rfl, below⟩

/-! ## Whole runs -/

/-- The simulation, by induction on the instructions: both runs stop at the
same instruction, and each handler keeps the one register file below the
other. -/
theorem runAnswered_covered [NaNResults] (oracle : Oracle) (dispatches : List Dispatch)
    (position : Nat)
    {informed folded : RegisterFile} (below : informed.Below folded) {summary : RunSummary}
    (succeeds : (runAnswered oracle position dispatches informed).result = .ok summary) :
    (runDispatches dispatches folded).result = .ok summary ∧
      (runAnswered oracle position dispatches informed).registers.Below
        (runDispatches dispatches folded).registers := by
  induction dispatches generalizing position informed folded summary with
  | nil => exact ⟨succeeds, below⟩
  | cons dispatch rest inductionHypothesis =>
      cases dispatch with
      | notWired opcode index => exact ⟨succeeds, below⟩
      | handled handler =>
          rw [runAnswered] at succeeds ⊢
          cases executed : handler.executeAnswered (oracle position informed) informed with
          | error error =>
              rw [executed] at succeeds
              cases succeeds
          | ok reached =>
              rcases (handler.executeAnswered_covered _ below).exists_ok executed with
                ⟨other, executedFolded, sameStep, belowAfter⟩
              rw [executed] at succeeds
              rcases Except.exists_of_map succeeds with ⟨later, restSucceeds, isSummary⟩
              have simulated := inductionHypothesis (position + 1) belowAfter restSucceeds
              rw [runDispatches_of_ok executedFolded, simulated.1, ← sameStep, ← isSummary]
              exact ⟨rfl, simulated.2⟩

theorem Handler.executeAnswered_unknown [NaNResults] (handler : Handler)
    (registers : RegisterFile) :
    handler.executeAnswered .unknown registers = handler.execute registers := by
  unfold executeAnswered
  rw [handler.instruction.resultRegister?_eq_destination?]
  cases isEffect : handler.effect with
  | binary effect | load effect => rfl
  | fallback =>
      cases isDestination : handler.instruction.destination? with
      | none => rfl
      | some dest => simp only [execute, isEffect, isDestination]

/-- Without answers, an answered run is the run itself. -/
theorem runAnswered_unknown [NaNResults] (dispatches : List Dispatch) (position : Nat)
    (registers : RegisterFile) :
    runAnswered (fun _ _ => .unknown) position dispatches registers =
      runDispatches dispatches registers := by
  induction dispatches generalizing position registers with
  | nil => rfl
  | cons dispatch rest inductionHypothesis =>
      cases dispatch with
      | notWired opcode index => rfl
      | handled handler =>
          rw [runAnswered, handler.executeAnswered_unknown]
          cases executed : handler.execute registers with
          | error error => exact (runDispatches_of_error executed rest).symm
          | ok reached =>
              rw [runDispatches_of_ok executed]
              simp only [inductionHypothesis]

/-- A run on less informed registers is sound for every answered run on more
informed ones: where the answered run succeeds, so does the run, with the same
summary, and every register that is known at its end has the value that it has
in the answered run.  Where the run fails within some number of instructions,
the answered run has failed within as many.  The run itself is the one among the
answered runs that has no answers. -/
theorem PreparedMethod.run_sound [NaNResults] (method : PreparedMethod) (oracle : Oracle)
    {informed folded : RegisterFile} (below : informed.Below folded) :
    (forall summary, (method.runAnswered oracle informed).result = .ok summary ->
      (method.run folded).result = .ok summary ∧
        (method.runAnswered oracle informed).registers.Below (method.run folded).registers) ∧
    (forall count error, ((method.upTo count).run folded).result = .error error ->
      Exists fun earlier => ((method.upTo count).runAnswered oracle informed).result =
        .error earlier) ∧
    (forall registers, method.runAnswered (fun _ _ => .unknown) registers =
      method.run registers) := by
  refine ⟨?_, ?_, runAnswered_unknown method.dispatches 0⟩
  · intro summary succeeds
    exact runAnswered_covered oracle method.dispatches 0 below succeeds
  · intro count error fails
    cases answered : ((method.upTo count).runAnswered oracle informed).result with
    | error earlier => exact ⟨earlier, rfl⟩
    | ok summary =>
        have succeeds := (runAnswered_covered oracle _ 0 below answered).1
        rw [run, succeeds] at fails
        cases fails

/-- A register is copied, a zero is loaded over the original, and the zero is
divided by itself. -/
def copyThenDivide : PreparedMethod where
  descriptor := "LFoo;->bar()V"
  dispatches := [
    .handled ⟨⟨.move .single .near, [.register 0, .register 1]⟩, 0, .fallback⟩,
    .handled ⟨⟨.constant (.narrow .bits4), [.register 1, .literal 0]⟩, 1, .load ⟨1, .int 0⟩⟩,
    .handled ⟨⟨.arithmetic (.registers (.int .div) .threeRegisters),
      [.register 2, .register 1, .register 1]⟩, 2,
      .binary ⟨.direct (.int .div), .threeRegisters, 2, 1, .register 1⟩⟩]

/-- The answer of a copy of the second register. -/
def copiedAnswer : Oracle :=
  fun _ registers => (registers.get? 1).getD .unknown

theorem run_sound_copyThenDivide :
    let informed : RegisterFile := ⟨#[.string "a", .int 7, .long 5]⟩
    informed.Below (.fresh 3) ∧
      ((copyThenDivide.upTo 2).run (.fresh 3)).result = .ok ⟨2, 1, none⟩ ∧
      ((copyThenDivide.upTo 2).runAnswered copiedAnswer informed).registers.Below
        ((copyThenDivide.upTo 2).run (.fresh 3)).registers ∧
      Exists fun earlier =>
        ((copyThenDivide.upTo 3).runAnswered copiedAnswer informed).result = .error earlier := by
  intro informed
  have below : informed.Below (.fresh 3) := informed.below_fresh
  have first := ((copyThenDivide.upTo 2).run_sound copiedAnswer below).1 ⟨2, 1, none⟩ rfl
  have whole := (copyThenDivide.run_sound copiedAnswer below).2.1 3 .divisionByZero rfl
  exact ⟨below, first.1, first.2, whole⟩

end DalvikFold
