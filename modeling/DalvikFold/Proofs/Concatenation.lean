import DalvikFold.Method.Run
import DalvikFold.Proofs.Computations

namespace DalvikFold

/-!
# Methods in two parts

A method can be cut at any point.  Its parts are prepared on their own, and the
method is what they make together once the positions in the second part are
counted from the beginning of the first.  The run of the method is a run of the
first part, and if that comes to the end of its part, a run of the second one on
the registers that the first one has left.

Positions matter to nothing but the reports about them.  This is the first fact
below, for every stage from the dispatch of one instruction to a run; cutting is
then an induction on the first part.
-/

/-! ## Positions further on -/

/-- The handler of the same instruction, further on in a method. -/
def Handler.shift (offset : Nat) (handler : Handler) : Handler :=
  { handler with index := handler.index + offset }

def Dispatch.shift (offset : Nat) : Dispatch -> Dispatch
  | .handled handler => .handled (handler.shift offset)
  | .notWired opcode index => .notWired opcode (index + offset)

def ConstructionError.shift (offset : Nat) : ConstructionError -> ConstructionError
  | .operandShape opcode index => .operandShape opcode (index + offset)
  | error => error

def Diagnostic.shift (offset : Nat) (diagnostic : Diagnostic) : Diagnostic :=
  { diagnostic with index := diagnostic.index + offset }

def PreparationError.shift (offset : Nat) : PreparationError -> PreparationError
  | .construction method index source =>
      .construction method (index + offset) (source.shift offset)
  | .aborted method diagnostic => .aborted method (diagnostic.shift offset)

def RunSummary.shift (offset : Nat) (summary : RunSummary) : RunSummary :=
  { summary with stoppedAt := summary.stoppedAt.map (· + offset) }

section Shift

variable {settings : Settings} (offset : Nat)

/-- A complaint about a literal names no position. -/
theorem Instruction.shift_literalError? {instruction : Instruction} {value : Int64}
    {error : ConstructionError} (exceeds : instruction.literalError? value = some error) :
    error.shift offset = error := by
  unfold literalError? at exceeds
  split at exceeds
  · split at exceeds <;> cases exceeds
    rfl
  · cases exceeds

private theorem Instruction.binaryEffect_shift (instruction : Instruction) (index : Nat) :
    instruction.binaryEffect (index + offset) =
      (instruction.binaryEffect index).mapError (ConstructionError.shift offset) := by
  unfold binaryEffect
  split
  · rfl
  · split
    case h_1 | h_2 | h_4 => rfl
    case h_3 dest left value isForm areOperands =>
      cases exceeds : instruction.literalError? value with
      | none => rfl
      | some error => exact congrArg Except.error (shift_literalError? offset exceeds).symm

private theorem Instruction.loadEffect_shift (instruction : Instruction) (index : Nat) :
    instruction.loadEffect (index + offset) =
      (instruction.loadEffect index).mapError (ConstructionError.shift offset) := by
  unfold loadEffect
  split
  · rfl
  · split
    case h_1 dest operand areOperands =>
      split
      · rfl
      · cases complaint : operand.literal?.bind instruction.literalError? with
        | none => rfl
        | some error =>
            rcases Option.bind_eq_some_iff.mp complaint with ⟨value, _, exceeds⟩
            exact congrArg Except.error (shift_literalError? offset exceeds).symm
    case h_2 => rfl

theorem Dispatch.ofInstruction_shift (instruction : Instruction) (index : Nat) :
    ofInstruction settings instruction (index + offset) =
      ((ofInstruction settings instruction index).map (shift offset)).mapError
        (ConstructionError.shift offset) := by
  unfold ofInstruction Handler.binary Handler.load
  cases instruction.opcode.categoryUnder settings with
  | binaryArithmetic =>
      simp only [instruction.binaryEffect_shift]
      cases instruction.binaryEffect index <;> rfl
  | constant =>
      simp only [instruction.loadEffect_shift]
      cases instruction.loadEffect index <;> rfl
  | unimplemented | conditionalBranch => rfl

private theorem Dispatch.diagnostic?_shift (dispatch : Dispatch) :
    (dispatch.shift offset).diagnostic? = dispatch.diagnostic?.map (Diagnostic.shift offset) := by
  cases dispatch with
  | notWired opcode index => rfl
  | handled handler =>
      rcases handler with ⟨instruction, index, effect⟩
      cases effect <;> rfl

private theorem Settings.intolerable?_shift (dispatch : Dispatch) :
    settings.intolerable? (dispatch.shift offset) =
      (settings.intolerable? dispatch).map (Diagnostic.shift offset) := by
  rw [intolerable?, intolerable?, dispatch.diagnostic?_shift, Option.filter_map]
  rfl

theorem prepareFrom_shift (method : String) (start : Nat) (instructions : List Instruction) :
    prepareFrom settings method (start + offset) instructions =
      ((prepareFrom settings method start instructions).map (List.map (Dispatch.shift offset))
        ).mapError (PreparationError.shift offset) := by
  induction instructions generalizing start with
  | nil => rfl
  | cons instruction rest inductionHypothesis =>
      rw [prepareFrom, prepareFrom, Nat.add_right_comm, inductionHypothesis]
      cases dispatched : Dispatch.ofInstruction settings instruction start with
      | error source =>
          have furtherOn : Dispatch.ofInstruction settings instruction (start + offset) =
              .error (source.shift offset) := by
            rw [Dispatch.ofInstruction_shift, dispatched]
            rfl
          rw [furtherOn]
          rfl
      | ok dispatch =>
          have furtherOn : Dispatch.ofInstruction settings instruction (start + offset) =
              .ok (dispatch.shift offset) := by
            rw [Dispatch.ofInstruction_shift, dispatched]
            rfl
          simp only [furtherOn, Settings.intolerable?_shift]
          cases settings.intolerable? dispatch with
          | some diagnostic => rfl
          | none => cases prepareFrom settings method (start + 1) rest <;> rfl

theorem runDispatches_shift [NaNResults] (dispatches : List Dispatch) (registers : RegisterFile) :
    runDispatches (dispatches.map (Dispatch.shift offset)) registers =
      ⟨(runDispatches dispatches registers).result.map (RunSummary.shift offset),
        (runDispatches dispatches registers).registers⟩ := by
  induction dispatches generalizing registers with
  | nil => rfl
  | cons dispatch rest inductionHypothesis =>
      cases dispatch with
      | notWired opcode index => rfl
      | handled handler =>
          have sameEffect : (handler.shift offset).execute registers =
              handler.execute registers := rfl
          -- The run is the same step by step; only where it stops is reported
          -- differently.
          rw [List.map_cons, Dispatch.shift]
          cases executed : handler.execute registers with
          | error error =>
              rw [runDispatches_of_error executed,
                runDispatches_of_error (sameEffect.trans executed)]
              rfl
          | ok reached =>
              rw [runDispatches_of_ok executed, runDispatches_of_ok (sameEffect.trans executed),
                inductionHypothesis]
              cases (runDispatches rest reached.2).result <;> rfl

end Shift

/-! ## One part after the other -/

/-- The summary of two runs, one after the other. -/
def RunSummary.followedBy (first second : RunSummary) : RunSummary where
  executed := first.executed + second.executed
  unsupported := first.unsupported + second.unsupported
  stoppedAt := second.stoppedAt

/-- The outcome of two runs, one after the other.  The second one starts if the
first one came to its end. -/
def RunOutcome.andThen (outcome : RunOutcome) (next : RegisterFile -> RunOutcome) : RunOutcome :=
  match outcome.result with
  | .error _ => outcome
  | .ok summary =>
      match summary.stoppedAt with
      | some _ => outcome
      | none =>
          ⟨(next outcome.registers).result.map summary.followedBy,
            (next outcome.registers).registers⟩

private theorem RunSummary.followedBy_after (first second : RunSummary) (step : Step) :
    (first.after step).followedBy second = (first.followedBy second).after step := by
  simp only [followedBy, after, Nat.add_right_comm]

/-- A handler in front of a run is one in front of the two runs that it ends
with. -/
theorem RunOutcome.andThen_after (outcome : RunOutcome) (next : RegisterFile -> RunOutcome)
    (step : Step) :
    (RunOutcome.mk (outcome.result.map (fun summary => summary.after step))
        outcome.registers).andThen next =
      ⟨(outcome.andThen next).result.map (fun summary => summary.after step),
        (outcome.andThen next).registers⟩ := by
  rcases outcome with ⟨result, registers⟩
  cases result with
  | error error => rfl
  | ok summary =>
      rcases summary with ⟨executed, unsupported, stoppedAt⟩
      cases stoppedAt with
      | some position => rfl
      | none =>
          change RunOutcome.mk ((next registers).result.map _) _ =
            RunOutcome.mk (((next registers).result.map _).map _) _
          cases (next registers).result with
          | error error => rfl
          | ok later =>
              simp only [Except.map, RunSummary.followedBy_after]
              rfl

theorem runDispatches_append [NaNResults] (first second : List Dispatch)
    (registers : RegisterFile) : runDispatches (first ++ second) registers =
      (runDispatches first registers).andThen (runDispatches second) := by
  induction first generalizing registers with
  | nil =>
      rw [List.nil_append, runDispatches, RunOutcome.andThen]
      cases runDispatches second registers with
      | mk result registers =>
          cases result with
          | error error => rfl
          | ok later => simp only [Except.map, RunSummary.followedBy, Nat.zero_add]
  | cons dispatch rest inductionHypothesis =>
      rw [List.cons_append]
      cases dispatch with
      | notWired opcode index => rfl
      | handled handler =>
          cases executed : handler.execute registers with
          | error error =>
              rw [runDispatches_of_error executed, runDispatches_of_error executed]
              rfl
          | ok reached =>
              rw [runDispatches_of_ok executed, runDispatches_of_ok executed,
                inductionHypothesis, RunOutcome.andThen_after]

theorem prepareFrom_append (settings : Settings) (method : String) (start : Nat)
    (first second : List Instruction) :
    prepareFrom settings method start (first ++ second) = do
      let front <- prepareFrom settings method start first
      let back <- prepareFrom settings method (start + first.length) second
      return front ++ back := by
  induction first generalizing start with
  | nil =>
      change prepareFrom settings method start second =
        prepareFrom settings method start second >>= fun back => .ok ([] ++ back)
      cases prepareFrom settings method start second <;> rfl
  | cons instruction rest inductionHypothesis =>
      -- The second part starts at the same position, counted from here or from
      -- the next instruction.
      rw [List.cons_append, prepareFrom, prepareFrom, inductionHypothesis, List.length_cons,
        Nat.add_comm rest.length, Nat.add_assoc]
      cases Dispatch.ofInstruction settings instruction start with
      | error source => rfl
      | ok dispatch =>
          simp only
          cases settings.intolerable? dispatch with
          | some diagnostic => rfl
          | none =>
              simp only
              cases prepareFrom settings method (start + 1) rest with
              | error error => rfl
              | ok front =>
                  cases prepareFrom settings method (start + (1 + rest.length)) second <;> rfl

/-- A method is prepared by preparing its parts.  The error, if there is one, is
that of the first part, or else that of the second one at its position in the
method. -/
theorem MethodBody.prepare_append (descriptor : String) (first second : List Instruction)
    (settings : Settings) :
    (MethodBody.mk descriptor (first ++ second)).prepare settings = do
      let front <- (MethodBody.mk descriptor first).prepare settings
      let back <- ((MethodBody.mk descriptor second).prepare settings).mapError
        (PreparationError.shift first.length)
      return ⟨descriptor,
        front.dispatches ++ back.dispatches.map (Dispatch.shift first.length)⟩ := by
  unfold prepare
  rw [prepareFrom_append, prepareFrom_shift]
  cases prepareFrom settings descriptor 0 first with
  | error error => rfl
  | ok front => cases prepareFrom settings descriptor 0 second <;> rfl

theorem MethodBody.prepare_append_eq_ok_iff {descriptor : String}
    {first second : List Instruction} {settings : Settings} {whole : PreparedMethod} :
    (MethodBody.mk descriptor (first ++ second)).prepare settings = .ok whole <->
      Exists fun front => Exists fun back =>
        (MethodBody.mk descriptor first).prepare settings = .ok front ∧
        (MethodBody.mk descriptor second).prepare settings = .ok back ∧
        whole = ⟨descriptor,
          front.dispatches ++ back.dispatches.map (Dispatch.shift first.length)⟩ := by
  rw [prepare_append]
  constructor
  · intro prepared
    rcases Except.exists_of_bind prepared with ⟨front, frontPrepared, afterFront⟩
    rcases Except.exists_of_bind afterFront with ⟨back, backPrepared, returned⟩
    cases isBack : (MethodBody.mk descriptor second).prepare settings with
    | error error =>
        rw [isBack] at backPrepared
        cases backPrepared
    | ok other =>
        rw [isBack] at backPrepared
        cases backPrepared
        exact ⟨front, back, frontPrepared, rfl, (Except.ok.inj returned).symm⟩
  · rintro ⟨front, back, frontPrepared, backPrepared, isWhole⟩
    rw [frontPrepared, backPrepared, isWhole]
    rfl

/-- Preparation and runs are compositional.  A method can be prepared if and
only if both of its parts can, and its dispatches are those of the first part
and behind them those of the second one, at their positions in the method.  The
run of the first part is all there is if it fails or stops at an instruction
without a handler.  Otherwise the second part runs on the registers that the
first one has left, and the method reports what both have done. -/
theorem MethodBody.run_append [NaNResults] (descriptor : String) (first second : List Instruction)
    (settings : Settings) :
    (forall whole, (MethodBody.mk descriptor (first ++ second)).prepare settings = .ok whole <->
      Exists fun front => Exists fun back =>
        (MethodBody.mk descriptor first).prepare settings = .ok front ∧
        (MethodBody.mk descriptor second).prepare settings = .ok back ∧
        whole = ⟨descriptor,
          front.dispatches ++ back.dispatches.map (Dispatch.shift first.length)⟩) ∧
    (forall front back whole,
      (MethodBody.mk descriptor first).prepare settings = .ok front ->
      (MethodBody.mk descriptor second).prepare settings = .ok back ->
      (MethodBody.mk descriptor (first ++ second)).prepare settings = .ok whole ->
      forall registers : RegisterFile,
        (forall error, (front.run registers).result = .error error ->
          whole.run registers = front.run registers) ∧
        (forall summary position, (front.run registers).result = .ok summary ->
          summary.stoppedAt = some position -> whole.run registers = front.run registers) ∧
        (forall summary, (front.run registers).result = .ok summary ->
          summary.stoppedAt = none ->
          whole.run registers =
            ⟨(back.run (front.run registers).registers).result.map (fun later =>
                ⟨summary.executed + later.executed, summary.unsupported + later.unsupported,
                  later.stoppedAt.map (· + first.length)⟩),
              (back.run (front.run registers).registers).registers⟩)) := by
  refine ⟨fun whole => prepare_append_eq_ok_iff, ?_⟩
  intro front back whole frontPrepared backPrepared wholePrepared registers
  have isWhole : whole = ⟨descriptor,
      front.dispatches ++ back.dispatches.map (Dispatch.shift first.length)⟩ := by
    rw [prepare_append, frontPrepared, backPrepared] at wholePrepared
    exact (Except.ok.inj wholePrepared).symm
  have composed : whole.run registers = (front.run registers).andThen
      (runDispatches (back.dispatches.map (Dispatch.shift first.length))) := by
    rw [isWhole]
    exact runDispatches_append _ _ registers
  rw [composed]
  refine ⟨?_, ?_, ?_⟩
  · intro error fails
    rw [RunOutcome.andThen, fails]
  · intro summary position succeeds stops
    simp only [RunOutcome.andThen, succeeds, stops]
  · intro summary succeeds ends
    simp only [RunOutcome.andThen, succeeds, ends, runDispatches_shift]
    change RunOutcome.mk (((back.run _).result.map _).map _) _ = _
    cases (back.run (front.run registers).registers).result <;> rfl

/-- A constant is loaded, and another register copied. -/
def loadMove : List Instruction := [
  ⟨.constant (.narrow .bits4), [.register 0, .literal 7]⟩,
  ⟨.move .single .near, [.register 1, .register 2]⟩]

/-- A division by the copied register, and a branch. -/
def divideBranch : List Instruction := [
  ⟨.arithmetic (.registers (.int .div) .threeRegisters),
    [.register 1, .register 0, .register 2]⟩,
  ⟨.branchZero .eq, [.register 1, .label "end"]⟩]

/-- The handlers of these instructions from a position on, with folding. -/
def loadMoveDispatches (start : Nat) : List Dispatch := [
  .handled ⟨⟨.constant (.narrow .bits4), [.register 0, .literal 7]⟩, start, .load ⟨0, .int 7⟩⟩,
  .handled ⟨⟨.move .single .near, [.register 1, .register 2]⟩, start + 1, .fallback⟩]

def divideBranchDispatches (start : Nat) : List Dispatch := [
  .handled ⟨⟨.arithmetic (.registers (.int .div) .threeRegisters),
    [.register 1, .register 0, .register 2]⟩, start,
    .binary ⟨.direct (.int .div), .threeRegisters, 1, 0, .register 2⟩⟩,
  .notWired (.branchZero .eq) (start + 1)]

theorem run_append_loadMove_divideBranch :
    let folding : Settings := { foldConstants := true }
    let loading : PreparedMethod := ⟨"a()V", loadMoveDispatches 0⟩
    let dividing : PreparedMethod := ⟨"a()V", divideBranchDispatches 0⟩
    let loadingFirst : PreparedMethod :=
      ⟨"a()V", loadMoveDispatches 0 ++ divideBranchDispatches 2⟩
    let dividingFirst : PreparedMethod :=
      ⟨"a()V", divideBranchDispatches 0 ++ loadMoveDispatches 2⟩
    let byTwo : RegisterFile := ⟨#[.int 5, .unknown, .int 2]⟩
    let byZero : RegisterFile := ⟨#[.int 5, .unknown, .int 0]⟩
    (MethodBody.mk "a()V" loadMove).prepare folding = .ok loading ∧
      (MethodBody.mk "a()V" divideBranch).prepare folding = .ok dividing ∧
      (MethodBody.mk "a()V" (loadMove ++ divideBranch)).prepare folding = .ok loadingFirst ∧
      (MethodBody.mk "a()V" (divideBranch ++ loadMove)).prepare folding = .ok dividingFirst ∧
      (loading.run byTwo).result = .ok ⟨2, 1, none⟩ ∧
      loadingFirst.run byTwo = ⟨.ok ⟨3, 1, some 3⟩, ⟨#[.int 7, .int 3, .int 2]⟩⟩ ∧
      (dividing.run byTwo).result = .ok ⟨1, 0, some 1⟩ ∧
      dividingFirst.run byTwo = dividing.run byTwo ∧
      (dividing.run byZero).result = .error .divisionByZero ∧
      dividingFirst.run byZero = dividing.run byZero := by
  intro folding loading dividing loadingFirst dividingFirst byTwo byZero
  have loadPrepared : (MethodBody.mk "a()V" loadMove).prepare folding = .ok loading := rfl
  have dividePrepared : (MethodBody.mk "a()V" divideBranch).prepare folding = .ok dividing := rfl
  have loadComposed := MethodBody.run_append "a()V" loadMove divideBranch folding
  have divideComposed := MethodBody.run_append "a()V" divideBranch loadMove folding
  have loadFirst := (loadComposed.1 loadingFirst).mpr
    ⟨loading, dividing, loadPrepared, dividePrepared, rfl⟩
  have divideFirst := (divideComposed.1 dividingFirst).mpr
    ⟨dividing, loading, dividePrepared, loadPrepared, rfl⟩
  have loadRuns := loadComposed.2 _ _ _ loadPrepared dividePrepared loadFirst byTwo
  have divideRuns := divideComposed.2 _ _ _ dividePrepared loadPrepared divideFirst
  exact ⟨loadPrepared, dividePrepared, loadFirst, divideFirst, rfl,
    loadRuns.2.2 ⟨2, 1, none⟩ rfl rfl, rfl, (divideRuns byTwo).2.1 ⟨1, 0, some 1⟩ 1 rfl rfl, rfl,
    (divideRuns byZero).1 .divisionByZero rfl⟩

end DalvikFold
