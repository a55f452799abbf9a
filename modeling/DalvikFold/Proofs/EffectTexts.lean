import DalvikFold.Handler.Text
import DalvikFold.Proofs.HandlerSteps
import DalvikFold.Proofs.Numerals
import DalvikFold.Proofs.OpcodeValues
import DalvikFold.Proofs.WellFormedInstructions

namespace DalvikFold

/-!
# What the texts of handlers say

The text of an arithmetic effect is made of words: the registers, the operator,
the right operand and the type.  None of them holds a blank, so the words can be
read off the text, and two effects with one text compute the same.  Only how
their operands were laid out is not told.  The text of a load is about the value
that its register holds afterwards, and the line of a handler names the category
that the settings give its opcode.

Whatever has an effect has the operands of its format, and a load takes its
reference or its literal from the second of them.
-/

/-! ## Words -/

namespace Text

theorem isDigit_of_mem_decimal {number : Nat} {c : Char} (member : c ∈ (decimal number).toList) :
    c.isDigit = true := by
  rw [decimal, Nat.toList_repr] at member
  exact Nat.isDigit_of_mem_toDigits (by decide) (by decide) member

theorem decimal_injective : Function.Injective decimal := by
  intro first second same
  have readBack (number : Nat) : readNumeral? 10 (decimal number).toList = some number := by
    rw [decimal, Nat.toList_repr, readNumeral?_toDigits (by decide) (by decide)]
  have isRead := readBack first
  rw [same, readBack] at isRead
  exact (Option.some.inj isRead).symm

theorem minus_append_ne_decimal (text : String) (number : Nat) : "-" ++ text ≠ decimal number := by
  intro same
  have isMinus : '-' ∈ (decimal number).toList := by
    rw [← same]
    simp
  exact absurd (isDigit_of_mem_decimal isMinus) (by decide)

theorem signedDecimal_injective : Function.Injective signedDecimal := by
  intro first second same
  unfold signedDecimal at same
  by_cases firstNegative : first < 0 <;> by_cases secondNegative : second < 0 <;>
    simp only [firstNegative, secondNegative, if_true, if_false] at same
  · have sameNumber := decimal_injective ((String.append_right_inj _).mp same)
    omega
  · exact absurd same (minus_append_ne_decimal _ _)
  · exact absurd same.symm (minus_append_ne_decimal _ _)
  · have sameNumber := decimal_injective same
    omega

theorem blank_notMem_signedDecimal (number : Int) : ' ' ∉ (signedDecimal number).toList := by
  have notInDecimal : ' ' ∉ (decimal number.natAbs).toList := fun isBlank =>
    absurd (isDigit_of_mem_decimal isBlank) (by decide)
  unfold signedDecimal
  by_cases negative : number < 0
  · rw [if_pos negative, String.toList_append, List.mem_append, not_or]
    exact ⟨by decide, notInDecimal⟩
  · rw [if_neg negative]
    exact notInDecimal

end Text

theorem registerName_injective : Function.Injective registerName := by
  intro first second same
  have read := Listing.readOperand_registerName .nop first
  rw [same, Listing.readOperand_registerName] at read
  cases read
  rfl

theorem blank_notMem_registerName (register : UInt16) : ' ' ∉ (registerName register).toList :=
  (Listing.isWord_registerName register).notMem_of_isBlank (by decide)

theorem RightOperand.render_injective : Function.Injective render := by
  intro first second same
  cases first with
  | register number =>
      cases second with
      | register other => rw [registerName_injective same]
      | literal bits =>
          have sameHead := congrArg (fun text => text.toList.head?) same
          simp [render, registerName] at sameHead
  | literal bits =>
      cases second with
      | register other =>
          have sameHead := congrArg (fun text => text.toList.head?) same
          simp [render, registerName] at sameHead
      | literal others =>
          have sameNumber := Text.signedDecimal_injective ((String.append_right_inj _).mp same)
          rw [BitVec.toInt_inj.mp sameNumber]

theorem RightOperand.blank_notMem_render (operand : RightOperand) :
    ' ' ∉ operand.render.toList := by
  cases operand with
  | register number => exact blank_notMem_registerName number
  | literal bits =>
      rw [render, String.toList_append, List.mem_append, not_or]
      exact ⟨by decide, Text.blank_notMem_signedDecimal bits.toInt⟩

namespace Operation

/-- The operations of all arithmetic opcodes. -/
def all : List Operation :=
  .reverseSub :: RegisterOperation.all.map .direct

theorem mem_all (operation : Operation) : operation ∈ all := by
  cases operation with
  | direct operation => exact List.mem_cons_of_mem _ (List.mem_map_of_mem operation.mem_all)
  | reverseSub => exact List.mem_cons_self

theorem blank_notMem_title (operation : Operation) : ' ' ∉ operation.title.toList := by
  have decided : all.all (fun operation => decide (' ' ∉ operation.title.toList)) = true := by
    decide
  exact of_decide_eq_true (List.all_eq_true.mp decided operation operation.mem_all)

/-- The operator and the type tell an operation apart from all others. -/
theorem eq_of_title {first second : Operation} (sameTitle : first.title = second.title)
    (sameType : first.type = second.type) : first = second := by
  have distinct : (all.map (fun operation => (operation.title, operation.type))).Nodup := by
    decide +kernel
  exact List.inj_on_of_nodup_map distinct first.mem_all second.mem_all
    (Prod.ext sameTitle sameType)

end Operation

theorem NumericType.name_injective : Function.Injective name := by
  intro first second same
  cases first <;> cases second <;> first | rfl | exact absurd same (by decide)

/-! ## Arithmetic effects -/

namespace BinaryEffect

def words (effect : BinaryEffect) : List String :=
  [registerName effect.dest, "=", registerName effect.left, effect.operation.title,
    effect.right.render, "(" ++ effect.operation.type.name ++ ")"]

theorem toList_render (effect : BinaryEffect) :
    effect.render.toList = [' '].intercalate (effect.words.map String.toList) := by
  simp [render, words]

theorem blank_notMem_words (effect : BinaryEffect) {word : String}
    (isWord : word ∈ effect.words) : ' ' ∉ word.toList := by
  simp only [words, List.mem_cons, List.not_mem_nil, or_false] at isWord
  rcases isWord with rfl | rfl | rfl | rfl | rfl | rfl
  · exact blank_notMem_registerName effect.dest
  · decide
  · exact blank_notMem_registerName effect.left
  · exact effect.operation.blank_notMem_title
  · exact effect.right.blank_notMem_render
  · cases effect.operation.type <;> decide

theorem splitOn_render (effect : BinaryEffect) :
    effect.render.toList.splitOn ' ' = effect.words.map String.toList := by
  rw [toList_render, List.splitOn_intercalate]
  · intro text isWord
    rcases List.mem_map.mp isWord with ⟨word, member, rfl⟩
    exact effect.blank_notMem_words member
  · simp [words]

/-- The text tells the whole effect but the layout of its operands. -/
theorem eq_of_render {first second : BinaryEffect} (same : first.render = second.render) :
    first = { second with form := first.form } := by
  have sameWords : first.words.map String.toList = second.words.map String.toList := by
    rw [← first.splitOn_render, same, second.splitOn_render]
  have sameWords := List.map_injective_iff.mpr (fun _ _ => String.toList_inj.mp) sameWords
  simp only [words, List.cons.injEq, and_true, true_and] at sameWords
  rcases sameWords with ⟨sameDest, sameLeft, sameTitle, sameRight, sameType⟩
  have sameType := (String.append_right_inj _).mp ((String.append_left_inj _).mp sameType)
  rcases first with ⟨operation, form, dest, left, right⟩
  rw [mk.injEq]
  exact ⟨Operation.eq_of_title sameTitle (NumericType.name_injective sameType), rfl,
    registerName_injective sameDest, registerName_injective sameLeft,
    RightOperand.render_injective sameRight⟩

/-- Effects with one text give one result, whatever the registers hold. -/
theorem result_eq_of_render [NaNResults] {first second : BinaryEffect}
    (same : first.render = second.render) (registers : RegisterFile) :
    first.result registers = second.result registers := by
  rw [eq_of_render same]
  rfl

end BinaryEffect

/-! ## Constant loads -/

/-- The text of a constant that is a reference. -/
def Constant.reference? : Constant -> Option String
  | .string text => some text
  | .classObject descriptor => some descriptor
  | .int _ | .long _ => none

/-- A load writes to its first operand.  It takes a reference from the second
and a number from a literal there. -/
theorem Instruction.operands_of_loadEffect {instruction : Instruction} {index : Nat}
    {effect : LoadEffect} (built : instruction.loadEffect index = .ok effect) :
    instruction.register? 0 = some effect.dest ∧
      instruction.reference? 1 = effect.constant.reference? ∧
      ((instruction.literal? 1).isSome <-> effect.constant.reference? = none) := by
  rcases exists_of_loadEffect built with ⟨load, operand, rfl, isConstant⟩
  rcases effect with ⟨dest, constant⟩
  refine ⟨rfl, ?_⟩
  cases load with
  | narrow form | wide form =>
      cases operand with
      | literal value =>
          cases isConstant
          cases form <;> exact ⟨rfl, iff_of_true rfl rfl⟩
      | _ => cases isConstant
  | string | stringJumbo =>
      cases operand with
      | string text =>
          cases isConstant
          exact ⟨rfl, iff_of_false Bool.false_ne_true nofun⟩
      | _ => cases isConstant
  | classObject =>
      cases operand with
      | type descriptor =>
          cases isConstant
          exact ⟨rfl, iff_of_false Bool.false_ne_true nofun⟩
      | _ => cases isConstant

/-- The text of a load is about the value that its register holds afterwards. -/
theorem LoadEffect.render_of_execute [NaNResults] {handler : Handler} {effect : LoadEffect}
    (isLoad : handler.effect = .load effect) {registers after : RegisterFile} {step : Step}
    (executed : handler.execute registers = .ok (step, after)) :
    Exists fun value => after.read effect.dest = .ok value ∧
      effect.render = registerName effect.dest ++ " = " ++ value.render := by
  have succeeds := Handler.succeeds_of_execute executed
  cases succeeds with
  | load isLoadAgain assigned =>
      cases isLoad.symm.trans isLoadAgain
      refine ⟨effect.constant.value, ?_, rfl⟩
      rw [RegisterFile.read, RegisterFile.get?, RegisterFile.values_of_assign assigned,
        if_pos rfl]
  | binary isEffect | forget isEffect | skip isEffect => cases isLoad.symm.trans isEffect

/-! ## Handlers -/

/-- The line of a handler tells the instruction, its position, and the category
that its opcode has under the settings. -/
theorem Handler.render_of_ofInstruction {settings : Settings} {instruction : Instruction}
    {index : Nat} {handler : Handler}
    (dispatched : Dispatch.ofInstruction settings instruction index = .ok (.handled handler)) :
    handler.render =
      String.ofList (List.leftpad 4 ' ' (Text.decimal index).toList) ++ ": " ++
        instruction.render ++ " [" ++ (instruction.opcode.categoryUnder settings).name ++ "]" := by
  cases Instruction.dispatches_of_ofInstruction dispatched with
  | binary isCategory | load isCategory | fallback isCategory =>
      rw [isCategory]
      rfl

theorem Instruction.IsShaped.matchesFormat {instruction : Instruction}
    (shaped : instruction.IsShaped) : instruction.matchesFormat = true := by
  rw [Instruction.matchesFormat, shaped.kinds]
  exact beq_self_eq_true _

theorem Instruction.Verdict.isShaped {instruction : Instruction} {index : Nat} {Built : Type}
    {built : Built} (verdict : instruction.Verdict index (.ok built)) : instruction.IsShaped := by
  cases verdict with
  | accepted wellFormed => exact wellFormed.shaped

/-- Only a fallback takes operands that its format does not have. -/
theorem Handler.matchesFormat_of_ofInstruction {settings : Settings} {instruction : Instruction}
    {index : Nat} {handler : Handler}
    (dispatched : Dispatch.ofInstruction settings instruction index = .ok (.handled handler))
    (hasEffect : handler.effect ≠ .fallback) : instruction.matchesFormat = true := by
  cases Instruction.dispatches_of_ofInstruction dispatched with
  | binary isCategory built =>
      have verdict : instruction.Verdict index (instruction.binaryEffect index) := by
        cases Instruction.computes_of_binaryEffect built <;>
          exact Instruction.verdict_binaryEffect index
      rw [built] at verdict
      exact verdict.isShaped.matchesFormat
  | load isCategory built =>
      have verdict : instruction.Verdict index (instruction.loadEffect index) := by
        rcases Instruction.exists_of_loadEffect built with ⟨load, operand, isInstruction, _⟩
        rw [isInstruction]
        exact Instruction.verdict_loadEffect index
      rw [built] at verdict
      exact verdict.isShaped.matchesFormat
  | fallback isCategory => exact absurd rfl hasEffect

end DalvikFold
