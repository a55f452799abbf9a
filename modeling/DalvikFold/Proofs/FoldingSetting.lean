import DalvikFold.Proofs.FoldingSoundness
import DalvikFold.Proofs.Preparation

namespace DalvikFold

/-!
# With and without folding

The settings decide whether constant loads have their effect or fall back.  One
body can therefore be prepared in two ways, and the two methods differ in the
handlers of constant loads alone.

Run side by side, the methods keep to the same instructions.  Where the one
loads a constant, the other forgets the same register, and from there on knows
less.  Knowing less it still succeeds wherever the first one does, and whatever
it knows at the end the first one knows as well.
-/

def Instruction.loadsConstant (instruction : Instruction) : Bool :=
  instruction.opcode.constantLoad?.isSome

def Settings.withFolding (settings : Settings) (folds : Bool) : Settings :=
  { settings with foldConstants := folds }

/-! ## The two dispatches of an instruction -/

/-- The dispatches that an instruction has with folding and without it. -/
inductive Instruction.DispatchPair (instruction : Instruction) : Dispatch -> Dispatch -> Prop where
  /-- Folding makes no difference. -/
  | same (isOther : instruction.loadsConstant = false) (dispatch : Dispatch) :
      DispatchPair instruction dispatch dispatch
  /-- A constant is loaded, or the same register forgotten. -/
  | constant (isConstant : instruction.loadsConstant = true) {effect : LoadEffect} {index : Nat}
      (isDestination : instruction.destination? = some effect.dest) :
      DispatchPair instruction (.handled ⟨instruction, index, .load effect⟩)
        (.handled (Handler.fallback instruction index))

namespace Instruction

variable {settings : Settings} {instruction : Instruction} {index : Nat}

/-- Folding decides about constant loads only. -/
theorem ofInstruction_withFolding (isOther : instruction.loadsConstant = false) (folds : Bool) :
    Dispatch.ofInstruction (settings.withFolding folds) instruction index =
      Dispatch.ofInstruction settings instruction index := by
  have notConstant : instruction.opcode.constantLoad?.isSome = false := isOther
  unfold Dispatch.ofInstruction
  simp only [Opcode.categoryUnder, notConstant, Bool.and_false, Bool.false_eq_true, if_false]

private theorem category_of_loadsConstant (isConstant : instruction.loadsConstant = true) :
    instruction.opcode.category = .unimplemented := by
  unfold loadsConstant at isConstant
  cases isOpcode : instruction.opcode with
  | constant load => rfl
  | _ =>
      rw [isOpcode] at isConstant
      cases isConstant

theorem dispatchPair_of_ofInstruction {folded plain : Dispatch}
    (dispatchedFolded :
      Dispatch.ofInstruction (settings.withFolding true) instruction index = .ok folded)
    (dispatchedPlain :
      Dispatch.ofInstruction (settings.withFolding false) instruction index = .ok plain) :
    instruction.DispatchPair folded plain := by
  cases isConstant : instruction.loadsConstant with
  | false =>
      rw [ofInstruction_withFolding isConstant] at dispatchedFolded dispatchedPlain
      rw [dispatchedFolded] at dispatchedPlain
      cases dispatchedPlain
      exact .same isConstant folded
  | true =>
      have categoryFolded :
          instruction.opcode.categoryUnder (settings.withFolding true) = .constant :=
        if_pos isConstant
      have categoryPlain :
          instruction.opcode.categoryUnder (settings.withFolding false) = .unimplemented :=
        category_of_loadsConstant isConstant
      cases dispatches_of_ofInstruction dispatchedFolded with
      | load isCategory built =>
          unfold Dispatch.ofInstruction at dispatchedPlain
          rw [categoryPlain] at dispatchedPlain
          cases dispatchedPlain
          exact .constant isConstant (destination?_of_loadEffect built)
      | binary isCategory built =>
          rw [categoryFolded] at isCategory
          cases isCategory
      | fallback isCategory =>
          rw [categoryFolded] at isCategory
          cases isCategory
      | notWired isCategory =>
          rw [categoryFolded] at isCategory
          cases isCategory

end Instruction

/-! ## Side by side -/

/-- How much a step adds to the count of fallbacks. -/
def Step.fallbacks (step : Step) : Nat :=
  if step = .unsupported then 1 else 0

/-- The summary with more of the handlers counted as fallbacks. -/
def RunSummary.moreFallbacks (summary : RunSummary) (count : Nat) : RunSummary :=
  { summary with unsupported := summary.unsupported + count }

private theorem RunSummary.after_moreFallbacks (summary : RunSummary) (count : Nat)
    {first second : Step} {more : Nat} (fallbacks : second.fallbacks = first.fallbacks + more) :
    (summary.moreFallbacks count).after second =
      (summary.after first).moreFallbacks (count + more) := by
  have unsupported : summary.unsupported + count + second.fallbacks =
      summary.unsupported + first.fallbacks + (count + more) := by
    rw [fallbacks]
    omega
  exact congrArg (fun unsupported => { summary.after first with unsupported }) unsupported

/-- The second handler knows less than the first one, and it is counted as a
fallback once more if it stands for a constant load. -/
def LessKnown (isConstant : Bool) (first second : Step × RegisterFile) : Prop :=
  second.1.fallbacks = first.1.fallbacks + (if isConstant then 1 else 0) ∧
    first.2.Below second.2

private theorem Instruction.DispatchPair.exists_covered [NaNResults] {instruction : Instruction}
    {handler : Handler}
    {plain : Dispatch} (pair : instruction.DispatchPair (.handled handler) plain)
    {informed less : RegisterFile} (below : informed.Below less) :
    Exists fun other => plain = .handled other ∧
      Covered (LessKnown instruction.loadsConstant)
        (handler.execute informed) (other.execute less) := by
  cases pair with
  | same isOther =>
      have covered := handler.executeAnswered_covered .unknown below
      rw [handler.executeAnswered_unknown] at covered
      rw [isOther]
      refine ⟨handler, rfl, covered.mono fun first second sameStep => ?_⟩
      rw [LessKnown, sameStep.1]
      exact ⟨rfl, sameStep.2⟩
  | @constant isConstant effect index isDestination =>
      have assigned := below.assign effect.dest effect.constant.value.below_unknown
      refine ⟨_, rfl, ?_⟩
      simp only [Handler.execute, Handler.fallback, isDestination, isConstant]
      exact assigned.covered.bind fun first second after => .ok ⟨rfl, after⟩

/-- The dispatches at a position agree, unless a constant is loaded there. -/
theorem Prepared.getElem?_withFolding {settings : Settings} {start : Nat}
    {instructions : List Instruction} {folded plain : List Dispatch}
    (preparedFolded : Prepared (settings.withFolding true) start instructions folded)
    (preparedPlain : Prepared (settings.withFolding false) start instructions plain)
    {position : Nat} {instruction : Instruction}
    (isInstruction : instructions[position]? = some instruction)
    (isOther : instruction.loadsConstant = false) :
    folded[position]? = plain[position]? := by
  induction preparedFolded generalizing plain position with
  | nil start => cases isInstruction
  | cons dispatched rest inductionHypothesis =>
      cases preparedPlain with
      | cons dispatchedPlain restPlain =>
          cases position with
          | zero =>
              cases isInstruction
              cases Instruction.dispatchPair_of_ofInstruction dispatched dispatchedPlain with
              | same => rfl
              | constant isConstant =>
                  rw [isOther] at isConstant
                  cases isConstant
          | succ position => exact inductionHypothesis restPlain isInstruction

/-- The simulation, by induction on the instructions.  Both runs stop at the
same one, and each constant load in front of it is one more fallback. -/
theorem Prepared.run_withFolding [NaNResults] {settings : Settings} {start : Nat}
    {instructions : List Instruction} {folded plain : List Dispatch}
    (preparedFolded : Prepared (settings.withFolding true) start instructions folded)
    (preparedPlain : Prepared (settings.withFolding false) start instructions plain)
    {informed less : RegisterFile} (below : informed.Below less) {summary : RunSummary}
    (succeeds : (runDispatches folded informed).result = .ok summary) :
    (runDispatches plain less).result = .ok (summary.moreFallbacks
        ((instructions.take summary.executed).countP Instruction.loadsConstant)) ∧
      (runDispatches folded informed).registers.Below (runDispatches plain less).registers := by
  induction preparedFolded generalizing plain informed less summary with
  | nil start =>
      cases preparedPlain
      cases succeeds
      exact ⟨rfl, below⟩
  | @cons start instruction dispatch instructions others dispatched rest inductionHypothesis =>
      cases preparedPlain with
      | @cons _ _ dispatchPlain _ othersPlain dispatchedPlain restPlain =>
          have pair := Instruction.dispatchPair_of_ofInstruction dispatched dispatchedPlain
          cases dispatch with
          | notWired opcode index =>
              cases pair
              cases succeeds
              exact ⟨rfl, below⟩
          | handled handler =>
              rcases pair.exists_covered below with ⟨other, isHandled, covered⟩
              subst isHandled
              cases executed : handler.execute informed with
              | error error =>
                  rw [runDispatches_of_error executed] at succeeds
                  cases succeeds
              | ok reached =>
                  rcases covered.exists_ok executed with
                    ⟨reachedPlain, executedPlain, fallbacks, belowAfter⟩
                  rw [runDispatches_of_ok executed] at succeeds ⊢
                  rcases Except.exists_of_map succeeds with ⟨later, restSucceeds, isSummary⟩
                  have simulated := inductionHypothesis restPlain belowAfter restSucceeds
                  subst isSummary
                  rw [runDispatches_of_ok executedPlain, simulated.1, Except.map,
                    later.after_moreFallbacks _ fallbacks]
                  have counted : ((instruction :: instructions).take
                      (later.after reached.1).executed).countP Instruction.loadsConstant =
                      (instructions.take later.executed).countP Instruction.loadsConstant +
                        (if instruction.loadsConstant then 1 else 0) := by
                    rw [RunSummary.after, List.take_succ_cons, List.countP_cons]
                  rw [counted]
                  exact ⟨rfl, simulated.2⟩

/-- Folding only adds knowledge.  Of a body that can be prepared with folding
and without it, the dispatches differ at constant loads alone.  If the run with
folding succeeds, then so does the run without it.  It stops at the same
instruction, every constant load that was executed counts as one more fallback,
and every register that it knows has the same value with folding. -/
theorem MethodBody.run_unfolded [NaNResults] (body : MethodBody) (settings : Settings)
    {folded plain : PreparedMethod}
    (preparedFolded : body.prepare (settings.withFolding true) = .ok folded)
    (preparedPlain : body.prepare (settings.withFolding false) = .ok plain) :
    (forall (position : Nat) (instruction : Instruction),
      body.instructions[position]? = some instruction -> instruction.loadsConstant = false ->
      Exists fun dispatch => folded.dispatches[position]? = some dispatch ∧
        plain.dispatches[position]? = some dispatch) ∧
    (forall registers summary, (folded.run registers).result = .ok summary ->
      (plain.run registers).result = .ok (summary.moreFallbacks
        ((body.instructions.take summary.executed).countP Instruction.loadsConstant)) ∧
      (folded.run registers).registers.Below (plain.run registers).registers) := by
  have foldedDispatches := prepared_of_prepare preparedFolded
  have plainDispatches := prepared_of_prepare preparedPlain
  constructor
  · intro position instruction isInstruction isOther
    have same := foldedDispatches.getElem?_withFolding plainDispatches isInstruction isOther
    have present : position < folded.dispatches.length := by
      rw [foldedDispatches.length_eq]
      exact (List.getElem?_eq_some_iff.mp isInstruction).1
    exact ⟨_, List.getElem?_eq_getElem present, same ▸ List.getElem?_eq_getElem present⟩
  · intro registers summary succeeds
    exact foldedDispatches.run_withFolding plainDispatches
      (.refl Value.below_refl registers) succeeds

/-- Two constants are loaded, one of them is copied, and a literal is added to
the other one and to a register in which nothing is loaded. -/
def loadCopyAdd : MethodBody where
  descriptor := "LFoo;->bar()V"
  instructions := [
    ⟨.constant (.narrow .bits16), [.register 0, .literal 7]⟩,
    ⟨.constant .string, [.register 1, .string "a"]⟩,
    ⟨.move .object .near, [.register 2, .register 1]⟩,
    ⟨.arithmetic (.literal8 .add), [.register 3, .register 0, .literal 1]⟩,
    ⟨.arithmetic (.literal8 .add), [.register 4, .register 5, .literal 1]⟩,
    ⟨.branchZero .eq, [.register 3, .label "end"]⟩]

/-- The handlers of these instructions under each of the two settings. -/
def loadCopyAddPrepared (folds : Bool) : PreparedMethod where
  descriptor := "LFoo;->bar()V"
  dispatches := [
    .handled ⟨⟨.constant (.narrow .bits16), [.register 0, .literal 7]⟩, 0,
      if folds then .load ⟨0, .int 7⟩ else .fallback⟩,
    .handled ⟨⟨.constant .string, [.register 1, .string "a"]⟩, 1,
      if folds then .load ⟨1, .string "a"⟩ else .fallback⟩,
    .handled ⟨⟨.move .object .near, [.register 2, .register 1]⟩, 2, .fallback⟩,
    .handled ⟨⟨.arithmetic (.literal8 .add), [.register 3, .register 0, .literal 1]⟩, 3,
      .binary ⟨.direct (.int .add), .literal, 3, 0, .literal 1⟩⟩,
    .handled ⟨⟨.arithmetic (.literal8 .add), [.register 4, .register 5, .literal 1]⟩, 4,
      .binary ⟨.direct (.int .add), .literal, 4, 5, .literal 1⟩⟩,
    .notWired (.branchZero .eq) 5]

theorem run_unfolded_loadCopyAdd :
    let folded := loadCopyAddPrepared true
    let plain := loadCopyAddPrepared false
    let registers : RegisterFile := ⟨#[.unknown, .int 1, .int 2, .int 3, .int 4, .int 5]⟩
    loadCopyAdd.prepare (Settings.withFolding { } true) = .ok folded ∧
      loadCopyAdd.prepare (Settings.withFolding { } false) = .ok plain ∧
      (Exists fun dispatch => folded.dispatches[3]? = some dispatch ∧
        plain.dispatches[3]? = some dispatch) ∧
      (folded.run registers).result = .ok ⟨5, 1, some 5⟩ ∧
      (plain.run registers).result = .ok ⟨5, 3, some 5⟩ ∧
      (folded.run registers).registers =
        ⟨#[.int 7, .string "a", .unknown, .int 8, .int 6, .int 5]⟩ ∧
      (folded.run registers).registers.Below (plain.run registers).registers := by
  intro folded plain registers
  have preparedFolded : loadCopyAdd.prepare (Settings.withFolding { } true) = .ok folded := rfl
  have preparedPlain : loadCopyAdd.prepare (Settings.withFolding { } false) = .ok plain := rfl
  have compared := loadCopyAdd.run_unfolded { } preparedFolded preparedPlain
  have simulated := compared.2 registers ⟨5, 1, some 5⟩ rfl
  exact ⟨preparedFolded, preparedPlain, compared.1 3 _ rfl rfl, rfl, simulated.1, rfl, simulated.2⟩

end DalvikFold
