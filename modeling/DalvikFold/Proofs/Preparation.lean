import DalvikFold.Method.Prepare
import DalvikFold.Proofs.Computations

namespace DalvikFold

/-!
# What a preparation that succeeds has done

A body that can be prepared has one dispatch for each of its instructions, in
order, and each dispatch carries the position of its instruction.  Both facts
are read off two relations: one for a single instruction, with a case for each
category, and one for the instructions from a position on.  Facts about
prepared methods are proved by cases on the first and by induction on the
second.
-/

/-! ## One instruction -/

/-- The arithmetic effect that an instruction has, layout by layout: what its
opcode computes, on the operands that the layout takes apart. -/
inductive Instruction.Computes : Instruction -> BinaryEffect -> Prop where
  | threeRegisters {arithmetic : Arithmetic} (isForm : arithmetic.form = .threeRegisters)
      (dest left right : UInt16) :
      Computes ⟨.arithmetic arithmetic, [.register dest, .register left, .register right]⟩
        ⟨arithmetic.operation, .threeRegisters, dest, left, .register right⟩
  | twoAddress {arithmetic : Arithmetic} (isForm : arithmetic.form = .twoAddress)
      (dest right : UInt16) :
      Computes ⟨.arithmetic arithmetic, [.register dest, .register right]⟩
        ⟨arithmetic.operation, .twoAddress, dest, dest, .register right⟩
  | literal {arithmetic : Arithmetic} (isForm : arithmetic.form = .literal)
      {dest left : UInt16} {value : Int64}
      (inRange : literalError?
        ⟨.arithmetic arithmetic, [.register dest, .register left, .literal value]⟩ value = none) :
      Computes ⟨.arithmetic arithmetic, [.register dest, .register left, .literal value]⟩
        ⟨arithmetic.operation, .literal, dest, left, .literal (value.toBitVec.setWidth 32)⟩

theorem Instruction.computes_of_binaryEffect {instruction : Instruction} {index : Nat}
    {effect : BinaryEffect} (built : instruction.binaryEffect index = .ok effect) :
    instruction.Computes effect := by
  rcases instruction with ⟨opcode, operands⟩
  cases opcode with
  | arithmetic arithmetic =>
      unfold binaryEffect at built
      simp only [Opcode.arithmetic?] at built
      split at built
      case h_1 dest left right isForm =>
        cases built
        rw [isForm]
        exact .threeRegisters isForm dest left right
      case h_2 dest right isForm =>
        cases built
        rw [isForm]
        exact .twoAddress isForm dest right
      case h_3 dest left value isForm =>
        cases inRange : literalError?
          ⟨.arithmetic arithmetic, [.register dest, .register left, .literal value]⟩ value with
        | some error =>
            rw [inRange] at built
            cases built
        | none =>
            rw [inRange] at built
            cases built
            rw [isForm]
            exact .literal isForm inRange
      case h_4 => cases built
  | _ => cases built

theorem Instruction.Computes.binaryEffect_eq {instruction : Instruction} {effect : BinaryEffect}
    (computes : instruction.Computes effect) (index : Nat) :
    instruction.binaryEffect index = .ok effect := by
  cases computes with
  | threeRegisters isForm dest left right | twoAddress isForm dest right =>
      simp only [binaryEffect, Opcode.arithmetic?, isForm]
  | literal isForm inRange =>
      simp only [binaryEffect, Opcode.arithmetic?, isForm, inRange]

/-- The dispatches that an instruction at a position can have. -/
inductive Instruction.Dispatches (settings : Settings) (instruction : Instruction) (index : Nat) :
    Dispatch -> Prop where
  /-- The operands fit an arithmetic effect. -/
  | binary {effect : BinaryEffect}
      (isCategory : instruction.opcode.categoryUnder settings = .binaryArithmetic)
      (built : instruction.binaryEffect index = .ok effect) :
      Dispatches settings instruction index (.handled ⟨instruction, index, .binary effect⟩)
  /-- The operands fit a constant load. -/
  | load {effect : LoadEffect}
      (isCategory : instruction.opcode.categoryUnder settings = .constant)
      (built : instruction.loadEffect index = .ok effect) :
      Dispatches settings instruction index (.handled ⟨instruction, index, .load effect⟩)
  /-- The opcode has no effect, and any operands will do. -/
  | fallback (isCategory : instruction.opcode.categoryUnder settings = .unimplemented) :
      Dispatches settings instruction index (.handled (Handler.fallback instruction index))
  /-- The opcode is a conditional branch. -/
  | notWired (isCategory : instruction.opcode.categoryUnder settings = .conditionalBranch) :
      Dispatches settings instruction index (.notWired instruction.opcode index)

theorem Instruction.dispatches_of_ofInstruction {settings : Settings} {instruction : Instruction}
    {index : Nat} {dispatch : Dispatch}
    (dispatched : Dispatch.ofInstruction settings instruction index = .ok dispatch) :
    instruction.Dispatches settings index dispatch := by
  unfold Dispatch.ofInstruction at dispatched
  cases isCategory : instruction.opcode.categoryUnder settings with
  | binaryArithmetic =>
      rw [isCategory] at dispatched
      rcases Except.exists_of_map dispatched with ⟨handler, hasHandler, isDispatch⟩
      rcases Except.exists_of_map hasHandler with ⟨effect, built, isHandler⟩
      subst isHandler isDispatch
      exact .binary isCategory built
  | constant =>
      rw [isCategory] at dispatched
      rcases Except.exists_of_map dispatched with ⟨handler, hasHandler, isDispatch⟩
      rcases Except.exists_of_map hasHandler with ⟨effect, built, isHandler⟩
      subst isHandler isDispatch
      exact .load isCategory built
  | conditionalBranch =>
      rw [isCategory] at dispatched
      cases dispatched
      exact .notWired isCategory
  | unimplemented =>
      rw [isCategory] at dispatched
      cases dispatched
      exact .fallback isCategory

theorem Instruction.Dispatches.index_eq {settings : Settings} {instruction : Instruction}
    {index : Nat} {dispatch : Dispatch}
    (dispatches : instruction.Dispatches settings index dispatch) : dispatch.index = index := by
  cases dispatches <;> rfl

theorem Opcode.writesRegister_constant (load : ConstantLoad) :
    (Opcode.constant load).writesRegister = true := by
  cases load with
  | narrow literal => cases literal <;> rfl
  | wide literal => cases literal <;> rfl
  | _ => rfl

/-- A load has two operands, a register and one that its opcode makes a constant
of. -/
theorem Instruction.exists_of_loadEffect {instruction : Instruction} {index : Nat}
    {effect : LoadEffect} (built : instruction.loadEffect index = .ok effect) :
    Exists fun load => Exists fun operand =>
      instruction = ⟨.constant load, [.register effect.dest, operand]⟩ ∧
        load.constant? operand = some effect.constant := by
  rcases instruction with ⟨opcode, operands⟩
  cases opcode with
  | constant load =>
      unfold loadEffect at built
      simp only [Opcode.constantLoad?] at built
      split at built
      case h_1 dest operand =>
        cases isConstant : load.constant? operand with
        | none =>
            rw [isConstant] at built
            cases built
        | some constant =>
            rw [isConstant] at built
            simp only at built
            cases complaint : operand.literal?.bind
              (literalError? ⟨.constant load, [.register dest, operand]⟩) with
            | some error =>
                rw [complaint] at built
                cases built
            | none =>
                rw [complaint] at built
                cases built
                exact ⟨load, operand, rfl, isConstant⟩
      case h_2 => cases built
  | _ => cases built

/-- A constant load overwrites the register in which its opcode puts a result. -/
theorem Instruction.destination?_of_loadEffect {instruction : Instruction} {index : Nat}
    {effect : LoadEffect} (built : instruction.loadEffect index = .ok effect) :
    instruction.destination? = some effect.dest := by
  rcases exists_of_loadEffect built with ⟨load, operand, rfl, isConstant⟩
  rw [destination?, if_pos (Opcode.writesRegister_constant load)]
  rfl

/-! ## All instructions -/

/-- The dispatches of the instructions from a position on. -/
inductive Prepared (settings : Settings) : Nat -> List Instruction -> List Dispatch -> Prop where
  | nil (start : Nat) : Prepared settings start [] []
  | cons {start : Nat} {instruction : Instruction} {dispatch : Dispatch}
      {instructions : List Instruction} {dispatches : List Dispatch}
      (dispatched : Dispatch.ofInstruction settings instruction start = .ok dispatch)
      (rest : Prepared settings (start + 1) instructions dispatches) :
      Prepared settings start (instruction :: instructions) (dispatch :: dispatches)

theorem prepared_of_prepareFrom {settings : Settings} {method : String} {start : Nat}
    {instructions : List Instruction} {dispatches : List Dispatch}
    (prepared : prepareFrom settings method start instructions = .ok dispatches) :
    Prepared settings start instructions dispatches := by
  induction instructions generalizing start dispatches with
  | nil =>
      cases prepared
      exact .nil start
  | cons instruction rest inductionHypothesis =>
      rw [prepareFrom] at prepared
      cases dispatched : Dispatch.ofInstruction settings instruction start with
      | error source =>
          rw [dispatched] at prepared
          cases prepared
      | ok dispatch =>
          rw [dispatched] at prepared
          cases tolerated : settings.intolerable? dispatch with
          | some diagnostic =>
              simp only [tolerated] at prepared
              cases prepared
          | none =>
              simp only [tolerated] at prepared
              rcases Except.exists_of_map prepared with ⟨others, restPrepared, isCons⟩
              subst isCons
              exact .cons dispatched (inductionHypothesis restPrepared)

theorem MethodBody.prepared_of_prepare {body : MethodBody} {settings : Settings}
    {method : PreparedMethod} (prepared : body.prepare settings = .ok method) :
    Prepared settings 0 body.instructions method.dispatches := by
  rcases Except.exists_of_map prepared with ⟨dispatches, restPrepared, isMethod⟩
  subst isMethod
  exact prepared_of_prepareFrom restPrepared

namespace Prepared

variable {settings : Settings} {start : Nat} {instructions : List Instruction}
variable {dispatches : List Dispatch}

theorem length_eq (prepared : Prepared settings start instructions dispatches) :
    dispatches.length = instructions.length := by
  induction prepared with
  | nil start => rfl
  | cons dispatched rest inductionHypothesis =>
      rw [List.length_cons, List.length_cons, inductionHypothesis]

/-- Each dispatch is the one of an instruction, at some position. -/
theorem exists_of_mem (prepared : Prepared settings start instructions dispatches)
    {dispatch : Dispatch} (member : dispatch ∈ dispatches) :
    Exists fun instruction => Exists fun index =>
      instruction ∈ instructions ∧ instruction.Dispatches settings index dispatch := by
  induction prepared with
  | nil start => cases member
  | cons dispatched rest inductionHypothesis =>
      cases member with
      | head =>
          exact ⟨_, _, List.mem_cons_self, Instruction.dispatches_of_ofInstruction dispatched⟩
      | tail _ member =>
          rcases inductionHypothesis member with ⟨instruction, index, isMember, dispatches⟩
          exact ⟨instruction, index, List.mem_cons_of_mem _ isMember, dispatches⟩

end Prepared

end DalvikFold
