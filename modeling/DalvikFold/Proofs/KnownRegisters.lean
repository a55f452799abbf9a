import Mathlib.Data.Finset.Basic
import Mathlib.Data.Finset.Dedup
import DalvikFold.Proofs.HandlerSteps

namespace DalvikFold

/-!
# Which registers end up known

Values decide what a run computes and whether it fails, but not what it knows.
The set of known registers after a handler is a function of the set before it:
a load makes its destination known, an arithmetic effect does so exactly if
both of its operands are known, and an instruction without effect makes its
destination unknown.  Reading this function along the handlers that a run
executes predicts what is known at its end, neither more nor less.

The prediction is taken on sets of positions, and destinations may well be
among the operands: the operands are looked up before the destination is
marked.
-/

namespace RegisterFile

def knownSet (registers : RegisterFile) : Finset Nat :=
  (registers.known.map Prod.fst).toFinset

theorem mem_knownSet (registers : RegisterFile) (position : Nat) :
    position ∈ registers.knownSet ↔
      Exists fun value => registers.values[position]? = some value ∧ value.isKnown = true := by
  unfold knownSet known
  simp only [List.mem_toFinset, List.mem_map, List.mem_filter, Prod.exists, Prod.mk.injEq]
  constructor
  · rintro ⟨number, value, ⟨other, index, ⟨member, known⟩, sameIndex, sameValue⟩, samePosition⟩
    subst sameIndex sameValue samePosition
    refine ⟨other, ?_, known⟩
    rw [List.mk_mem_zipIdx_iff_getElem?, Array.getElem?_toList] at member
    exact member
  · rintro ⟨value, found, known⟩
    refine ⟨position, value, ⟨value, position, ⟨?_, known⟩, rfl, rfl⟩, rfl⟩
    rw [List.mk_mem_zipIdx_iff_getElem?, Array.getElem?_toList]
    exact found

/-- A register that can be read is in the known set if its value is known. -/
theorem mem_knownSet_of_read {registers : RegisterFile} {register : UInt16} {value : Value}
    (read : registers.read register = .ok value) :
    register.toNat ∈ registers.knownSet ↔ value.isKnown = true := by
  have found : registers.values[register.toNat]? = some value := by
    unfold RegisterFile.read at read
    cases found : registers.get? register with
    | none =>
        rw [found] at read
        cases read
    | some other =>
        rw [found] at read
        cases read
        exact found
  rw [mem_knownSet, found]
  constructor
  · rintro ⟨other, same, known⟩
    cases same
    exact known
  · exact fun known => ⟨value, rfl, known⟩

end RegisterFile

theorem Constant.isKnown_value (constant : Constant) : constant.value.isKnown = true := by
  cases constant <;> rfl

/-! ## The prediction -/

/-- The set with one position marked as known or unknown. -/
def markKnown (known : Finset Nat) (position : Nat) (isKnown : Bool) : Finset Nat :=
  if isKnown then insert position known else known.erase position

/-- Whether a right operand is known if these registers are. -/
def RightOperand.isKnownIn (operand : RightOperand) (known : Finset Nat) : Bool :=
  match operand with
  | .register number => decide (number.toNat ∈ known)
  | .literal _ => true

/-- The registers that are known after a handler, by those that are known
before it. -/
def Handler.transfer (handler : Handler) (known : Finset Nat) : Finset Nat :=
  match handler.effect with
  | .load effect => insert effect.dest.toNat known
  | .binary effect =>
      markKnown known effect.dest.toNat
        (decide (effect.left.toNat ∈ known) && effect.right.isKnownIn known)
  | .fallback =>
      match handler.instruction.destination? with
      | some dest => known.erase dest.toNat
      | none => known

/-- The handlers in front of the first instruction without a handler. -/
def leadingHandlers : List Dispatch -> List Handler
  | .handled handler :: rest => handler :: leadingHandlers rest
  | .notWired _ _ :: _ => []
  | [] => []

/-- The handlers of a method that a run executes if none of them fails. -/
def PreparedMethod.leadingHandlers (method : PreparedMethod) : List Handler :=
  DalvikFold.leadingHandlers method.dispatches

/-- The registers that are known after some handlers. -/
def transferAll (handlers : List Handler) (known : Finset Nat) : Finset Nat :=
  handlers.foldl (fun known handler => handler.transfer known) known

/-! ## One handler -/

theorem RegisterFile.knownSet_assign {registers after : RegisterFile} {register : UInt16}
    {value : Value} (assigned : registers.assign register value = .ok after) :
    after.knownSet = markKnown registers.knownSet register.toNat value.isKnown := by
  ext position
  rw [mem_knownSet, values_of_assign assigned]
  unfold markKnown
  by_cases same : register.toNat = position
  · subst same
    rw [if_pos rfl]
    cases known : value.isKnown with
    | true => simp [known]
    | false => simp [known]
  · rw [if_neg same, ← mem_knownSet]
    have different : position ≠ register.toNat := Ne.symm same
    cases value.isKnown with
    | true => simp [different]
    | false => simp [different]

private theorem RightOperand.isKnownIn_of_read {operand : RightOperand} {registers : RegisterFile}
    {value : Value} (read : operand.read registers = .ok value) :
    operand.isKnownIn registers.knownSet = value.isKnown := by
  cases operand with
  | literal bits =>
      cases read
      rfl
  | register number =>
      have member := RegisterFile.mem_knownSet_of_read read
      rw [isKnownIn, Bool.eq_iff_iff, decide_eq_true_eq]
      exact member

/-- The known set after a handler is the one that was predicted. -/
theorem Handler.knownSet_execute [NaNResults] {handler : Handler} {registers after : RegisterFile}
    {step : Step} (executed : handler.execute registers = .ok (step, after)) :
    after.knownSet = handler.transfer registers.knownSet := by
  unfold transfer
  cases handler.succeeds_of_execute executed with
  | binary isBinary hasResult assigned =>
      rcases BinaryEffect.isKnown_of_result hasResult with
        ⟨left, right, readLeft, readRight, resultKnown⟩
      have leftKnown := RegisterFile.mem_knownSet_of_read readLeft
      have rightKnown := RightOperand.isKnownIn_of_read readRight
      rw [isBinary, RegisterFile.knownSet_assign assigned, resultKnown]
      simp only [leftKnown, rightKnown, Bool.decide_eq_true]
  | load isLoad assigned =>
      rw [isLoad, RegisterFile.knownSet_assign assigned, Constant.isKnown_value]
      rfl
  | forget isFallback isDestination assigned =>
      rw [isFallback, isDestination]
      exact RegisterFile.knownSet_assign assigned
  | skip isFallback noDestination =>
      rw [isFallback, noDestination]

/-! ## Whole runs -/

/-- A run that succeeds executes the leading handlers, and what it knows at the
end is what they predict. -/
theorem runDispatches_knownSet [NaNResults] (dispatches : List Dispatch) {registers : RegisterFile}
    {summary : RunSummary} (succeeds : (runDispatches dispatches registers).result = .ok summary) :
    summary.executed = (leadingHandlers dispatches).length ∧
      (runDispatches dispatches registers).registers.knownSet =
        transferAll (leadingHandlers dispatches) registers.knownSet := by
  induction dispatches generalizing registers summary with
  | nil =>
      cases succeeds
      exact ⟨rfl, rfl⟩
  | cons dispatch rest inductionHypothesis =>
      cases dispatch with
      | notWired opcode index =>
          cases succeeds
          exact ⟨rfl, rfl⟩
      | handled handler =>
          cases executed : handler.execute registers with
          | error error =>
              rw [runDispatches_of_error executed] at succeeds
              cases succeeds
          | ok reached =>
              rw [runDispatches_of_ok executed] at succeeds ⊢
              rcases Except.exists_of_map succeeds with ⟨later, restSucceeds, isSummary⟩
              have predicted := inductionHypothesis restSucceeds
              constructor
              · rw [← isSummary]
                exact congrArg (· + 1) predicted.1
              · rw [predicted.2, Handler.knownSet_execute executed]
                rfl

/-- The leading handlers are the first dispatches. -/
theorem take_leadingHandlers (dispatches : List Dispatch) :
    dispatches.take (leadingHandlers dispatches).length =
      (leadingHandlers dispatches).map .handled := by
  induction dispatches with
  | nil => rfl
  | cons dispatch rest inductionHypothesis =>
      cases dispatch with
      | notWired opcode index => rfl
      | handled handler =>
          exact congrArg (Dispatch.handled handler :: ·) inductionHypothesis

/-- A run that succeeds has executed the leading handlers of the method, and
the registers that it knows at the end are those that the handlers predict from
the registers that it knew at the beginning.  Two such runs that begin by
knowing the same registers therefore end so, whatever the values are. -/
theorem PreparedMethod.run_knownSet [NaNResults] (method : PreparedMethod) :
    (forall registers summary, (method.run registers).result = .ok summary ->
      method.dispatches.take summary.executed = method.leadingHandlers.map .handled ∧
        (method.run registers).registers.knownSet =
          transferAll method.leadingHandlers registers.knownSet) ∧
    (forall first second firstSummary secondSummary,
      (method.run first).result = .ok firstSummary ->
      (method.run second).result = .ok secondSummary ->
      first.knownSet = second.knownSet ->
        (method.run first).registers.knownSet = (method.run second).registers.knownSet) := by
  constructor
  · intro registers summary succeeds
    have predicted := runDispatches_knownSet method.dispatches succeeds
    rw [predicted.1]
    exact ⟨take_leadingHandlers method.dispatches, predicted.2⟩
  · intro first second firstSummary secondSummary firstSucceeds secondSucceeds same
    have firstPredicted := (runDispatches_knownSet method.dispatches firstSucceeds).2
    have secondPredicted := (runDispatches_knownSet method.dispatches secondSucceeds).2
    rw [same] at firstPredicted
    exact firstPredicted.trans secondPredicted.symm

/-- A register is doubled in place and copied, the sum with the copy is taken,
and nothing behind the branch is reached. -/
def doubleThenCopy : PreparedMethod where
  descriptor := "LFoo;->bar()V"
  dispatches := [
    .handled ⟨⟨.arithmetic (.registers (.int .add) .twoAddress), [.register 0, .register 0]⟩, 0,
      .binary ⟨.direct (.int .add), .twoAddress, 0, 0, .register 0⟩⟩,
    .handled ⟨⟨.move .single .near, [.register 1, .register 0]⟩, 1, .fallback⟩,
    .handled ⟨⟨.arithmetic (.registers (.int .add) .threeRegisters),
      [.register 2, .register 0, .register 1]⟩, 2,
      .binary ⟨.direct (.int .add), .threeRegisters, 2, 0, .register 1⟩⟩,
    .notWired (.branchZero .eq) 3,
    .handled ⟨⟨.constant (.narrow .bits4), [.register 1, .literal 0]⟩, 4, .load ⟨1, .int 0⟩⟩]

theorem run_knownSet_doubleThenCopy :
    let first : RegisterFile := ⟨#[.int 7, .string "a", .unknown]⟩
    let second : RegisterFile := ⟨#[.float 7, .long 5, .unknown]⟩
    (doubleThenCopy.run first).result = .ok ⟨3, 1, some 3⟩ ∧
      (doubleThenCopy.run first).registers.knownSet = {0} ∧
      first.knownSet = second.knownSet ∧
      (doubleThenCopy.run second).registers.knownSet = {0} := by
  intro first second
  have known := doubleThenCopy.run_knownSet
  have predicted := (known.1 first ⟨3, 1, some 3⟩ rfl).2
  have same := known.2 first second ⟨3, 1, some 3⟩ ⟨3, 1, some 3⟩ rfl rfl rfl
  exact ⟨rfl, predicted, rfl, same ▸ predicted⟩

end DalvikFold
