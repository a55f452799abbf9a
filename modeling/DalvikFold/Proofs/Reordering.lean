import Mathlib.Logic.Relation
import DalvikFold.Proofs.Footprints

namespace DalvikFold

/-!
# Independent handlers can be reordered

Two handlers are independent if neither writes what the other one reads or
writes.  Neighbours that are independent can be exchanged in a sequence of
handlers, and any number of such exchanges leads to sequences that succeed on
the same registers, with the same registers at the end.  Which error stops a
sequence that fails does depend on the order.

An exchange needs three facts about footprints: the value of a handler is the
same before and after a write to a register that it does not read, whether it
has a place for its value depends on the number of registers, and writes to
different registers commute.
-/

namespace Handler

/-- Neither handler writes what the other one reads or writes. -/
structure Independent (first second : Handler) : Prop where
  firstWrites : Disjoint first.writeSet (second.readSet ∪ second.writeSet)
  secondWrites : Disjoint second.writeSet (first.readSet ∪ first.writeSet)

variable {first second : Handler} {registers between after : RegisterFile}
variable {firstStep secondStep : Step}

theorem Independent.symm (independent : first.Independent second) :
    second.Independent first where
  firstWrites := independent.secondWrites
  secondWrites := independent.firstWrites

/-- A handler has the same value before and after a write that it does not
read. -/
theorem value_put [NaNResults] (target : Option UInt16) (value : Value)
    (notRead : forall register, target = some register -> register ∉ first.readSet) :
    first.value (registers.put target value) = first.value registers := by
  refine value_congr fun register isRead => ?_
  refine registers.read_put_of_ne (fun isTarget => ?_) value
  exact notRead register isTarget isRead

namespace Independent

variable (independent : first.Independent second)
include independent

theorem notMem_readSet (register : UInt16) (isTarget : first.target? = some register) :
    register ∉ second.readSet := by
  intro isRead
  exact Finset.disjoint_left.mp independent.firstWrites (mem_writeSet.mpr isTarget)
    (Finset.mem_union_left _ isRead)

theorem target?_ne (register : UInt16) (isTarget : first.target? = some register) :
    second.target? ≠ some register := by
  intro isOther
  exact Finset.disjoint_left.mp independent.firstWrites (mem_writeSet.mpr isTarget)
    (Finset.mem_union_right _ (mem_writeSet.mpr isOther))

/-- Two independent handlers succeed in either order, with the same end. -/
theorem exists_execute [NaNResults]
    (executedFirst : first.execute registers = .ok (firstStep, between))
    (executedSecond : second.execute between = .ok (secondStep, after)) :
    Exists fun other => second.execute registers = .ok (secondStep, other) ∧
      first.execute other = .ok (firstStep, after) := by
  rcases execute_eq_ok_iff.mp executedFirst with ⟨isFirstStep, firstFits, value, hasValue, rfl⟩
  rcases execute_eq_ok_iff.mp executedSecond with
    ⟨isSecondStep, secondFits, other, hasOther, rfl⟩
  have secondValue : second.value registers = .ok other :=
    (value_put first.target? value independent.notMem_readSet).symm.trans hasOther
  have firstValue : first.value (registers.put second.target? other) = .ok value :=
    (value_put second.target? other independent.symm.notMem_readSet).trans hasValue
  rw [RegisterFile.count_put] at secondFits
  refine ⟨registers.put second.target? other,
    execute_eq_ok_iff.mpr ⟨isSecondStep, secondFits, other, secondValue, rfl⟩,
    execute_eq_ok_iff.mpr ⟨isFirstStep, ?_, value, firstValue, ?_⟩⟩
  · rw [RegisterFile.count_put]
    exact firstFits
  · exact registers.put_comm independent.target?_ne value other

end Independent

end Handler

/-! ## Sequences of handlers -/

/-- The handlers are executed one after the other. -/
def runHandlers [NaNResults] (handlers : List Handler) (registers : RegisterFile) : RunOutcome :=
  runDispatches (handlers.map .handled) registers

/-- The second list has two independent neighbours of the first one exchanged. -/
inductive Exchanged : List Handler -> List Handler -> Prop where
  | here {first second : Handler} (independent : first.Independent second)
      (rest : List Handler) : Exchanged (first :: second :: rest) (second :: first :: rest)
  | there (handler : Handler) {handlers others : List Handler}
      (exchanged : Exchanged handlers others) :
      Exchanged (handler :: handlers) (handler :: others)

theorem Exchanged.symm {handlers others : List Handler} (exchanged : Exchanged handlers others) :
    Exchanged others handlers := by
  induction exchanged with
  | here independent rest => exact .here independent.symm rest
  | there handler exchanged inductionHypothesis => exact .there handler inductionHypothesis

/-- A sequence succeeds by way of its first handler. -/
theorem runHandlers_cons_eq_ok_iff [NaNResults] {handler : Handler} {rest : List Handler}
    {registers after : RegisterFile} {summary : RunSummary} :
    runHandlers (handler :: rest) registers = ⟨.ok summary, after⟩ <->
      Exists fun step => Exists fun between => Exists fun later =>
        handler.execute registers = .ok (step, between) ∧
          runHandlers rest between = ⟨.ok later, after⟩ ∧ summary = later.after step := by
  unfold runHandlers
  rw [List.map_cons]
  cases executed : handler.execute registers with
  | error error =>
      rw [runDispatches_of_error executed]
      constructor
      · intro same
        cases same
      · rintro ⟨step, between, later, isOk, _⟩
        cases isOk
  | ok reached =>
      rw [runDispatches_of_ok executed]
      constructor
      · intro same
        rcases RunOutcome.mk.inj same with ⟨mapped, sameRegisters⟩
        rcases Except.exists_of_map mapped with ⟨later, restSucceeds, isSummary⟩
        refine ⟨reached.1, reached.2, later, rfl, ?_, isSummary.symm⟩
        rw [← restSucceeds, ← sameRegisters]
      · rintro ⟨step, between, later, isOk, restRun, isSummary⟩
        cases isOk
        rw [restRun, isSummary]
        rfl

/-- The order in which two handlers are counted does not matter. -/
theorem RunSummary.after_comm (summary : RunSummary) (first second : Step) :
    (summary.after first).after second = (summary.after second).after first := by
  simp only [RunSummary.after, Nat.add_right_comm]

/-- One exchange keeps the end of a sequence that succeeds. -/
theorem Exchanged.runHandlers_eq [NaNResults] {handlers others : List Handler}
    (exchanged : Exchanged handlers others) {registers after : RegisterFile}
    {summary : RunSummary}
    (succeeds : runHandlers handlers registers = ⟨.ok summary, after⟩) :
    runHandlers others registers = ⟨.ok summary, after⟩ := by
  induction exchanged generalizing registers summary with
  | @here first second independent rest =>
      rcases runHandlers_cons_eq_ok_iff.mp succeeds with
        ⟨firstStep, between, afterFirst, executedFirst, restRun, rfl⟩
      rcases runHandlers_cons_eq_ok_iff.mp restRun with
        ⟨secondStep, reached, later, executedSecond, lastRun, rfl⟩
      rcases independent.exists_execute executedFirst executedSecond with
        ⟨other, executedOther, executedLast⟩
      have lastSteps := runHandlers_cons_eq_ok_iff.mpr
        ⟨firstStep, reached, later, executedLast, lastRun, rfl⟩
      rw [later.after_comm]
      exact runHandlers_cons_eq_ok_iff.mpr
        ⟨secondStep, other, _, executedOther, lastSteps, rfl⟩
  | there handler exchanged inductionHypothesis =>
      rcases runHandlers_cons_eq_ok_iff.mp succeeds with
        ⟨step, between, later, executed, restRun, rfl⟩
      exact runHandlers_cons_eq_ok_iff.mpr
        ⟨step, between, later, executed, inductionHypothesis restRun, rfl⟩

/-- Any number of exchanges of independent neighbours keeps the success of a
sequence of handlers, what it reports and the registers at its end. -/
theorem runHandlers_reordered [NaNResults] {handlers others : List Handler}
    (reordered : Relation.ReflTransGen Exchanged handlers others) (registers : RegisterFile)
    (summary : RunSummary) (after : RegisterFile) :
    runHandlers handlers registers = ⟨.ok summary, after⟩ <->
      runHandlers others registers = ⟨.ok summary, after⟩ := by
  induction reordered with
  | refl => exact Iff.rfl
  | tail _ exchanged inductionHypothesis =>
      exact inductionHypothesis.trans ⟨exchanged.runHandlers_eq, exchanged.symm.runHandlers_eq⟩

/-- A constant load. -/
def loadSeven : Handler :=
  ⟨⟨.constant (.narrow .bits4), [.register 0, .literal 7]⟩, 0, .load ⟨0, .int 7⟩⟩

/-- A copy, which falls back: it forgets its destination and reads nothing. -/
def forgetCopy : Handler :=
  ⟨⟨.move .single .near, [.register 1, .register 2]⟩, 1, .fallback⟩

/-- A sum that is written over its operands. -/
def doubleInPlace : Handler :=
  ⟨⟨.arithmetic (.registers (.int .add) .twoAddress), [.register 2, .register 2]⟩, 2,
    .binary ⟨.direct (.int .add), .twoAddress, 2, 2, .register 2⟩⟩

/-- Three exchanges reverse the handlers.  They succeed in both orders on a file
with a number in the register that is doubled, and fail in both orders on one
with a string there. -/
theorem runHandlers_reordered_reversed :
    let handlers := [loadSeven, forgetCopy, doubleInPlace]
    let others := [doubleInPlace, forgetCopy, loadSeven]
    let registers : RegisterFile := ⟨#[.long 1, .int 2, .int 3]⟩
    let unsuitable : RegisterFile := ⟨#[.long 1, .int 2, .string "a"]⟩
    Relation.ReflTransGen Exchanged handlers others ∧
      runHandlers others registers = ⟨.ok ⟨3, 1, none⟩, ⟨#[.int 7, .unknown, .int 6]⟩⟩ ∧
      (runHandlers handlers unsuitable).result = .error (.typeMismatch 2 .int .string) ∧
      forall summary after, runHandlers others unsuitable ≠ ⟨.ok summary, after⟩ := by
  intro handlers others registers unsuitable
  have firstPair : loadSeven.Independent forgetCopy := ⟨by decide, by decide⟩
  have secondPair : loadSeven.Independent doubleInPlace := ⟨by decide, by decide⟩
  have thirdPair : forgetCopy.Independent doubleInPlace := ⟨by decide, by decide⟩
  have reordered : Relation.ReflTransGen Exchanged handlers others :=
    ((Relation.ReflTransGen.single (.here firstPair [doubleInPlace])).tail
      (.there forgetCopy (.here secondPair []))).tail (.here thirdPair [loadSeven])
  refine ⟨reordered, (runHandlers_reordered reordered registers _ _).mp rfl, rfl, ?_⟩
  intro summary after succeeds
  have same := (runHandlers_reordered reordered unsuitable summary after).mpr succeeds
  cases same

end DalvikFold
