import DalvikFold.Opcode.Encoding
import DalvikFold.Proofs.LiteralLoads
import DalvikFold.Proofs.Preparation

namespace DalvikFold

/-!
# Which instructions are accepted

An instruction is well-formed if its operands are of the kinds that its format
fixes, a reference among them is one that its opcode loads, and a literal among
them fits its field.  This is said once for all opcodes, without regard to how
an effect takes its operands apart.

Where the opcode has an effect, exactly the well-formed instructions are
accepted, and what is wrong with the kinds or the reference is reported before
a literal is looked at.  Where it has none, any operands will do.  Which opcodes
have an effect is said by their encoded values.
-/

/-! ## Ranges of values -/

namespace Opcode

/-- The values from if-eq to if-lez. -/
def IsBranch (opcode : Opcode) : Prop :=
  0x32 ≤ opcode.value ∧ opcode.value ≤ 0x3d

/-- The values from add-int to ushr-int/lit8. -/
def IsArithmetic (opcode : Opcode) : Prop :=
  0x90 ≤ opcode.value ∧ opcode.value ≤ 0xe2

/-- The values from const/4 to const-class. -/
def IsConstantLoad (opcode : Opcode) : Prop :=
  0x12 ≤ opcode.value ∧ opcode.value ≤ 0x1c

instance (opcode : Opcode) : Decidable opcode.IsBranch := inferInstanceAs (Decidable (_ ∧ _))

instance (opcode : Opcode) : Decidable opcode.IsArithmetic := inferInstanceAs (Decidable (_ ∧ _))

instance (opcode : Opcode) : Decidable opcode.IsConstantLoad := inferInstanceAs (Decidable (_ ∧ _))

/-- The category that the ranges of values give, if constants are folded. -/
def rangeCategory (opcode : Opcode) : Category :=
  if opcode.IsConstantLoad then .constant
  else if opcode.IsBranch then .conditionalBranch
  else if opcode.IsArithmetic then .binaryArithmetic
  else .unimplemented

/-- The classification and the encoding agree. -/
theorem rangeCategory_eq (opcode : Opcode) :
    opcode.rangeCategory = if opcode.constantLoad?.isSome then .constant else opcode.category := by
  -- A value is a number only once all choices of its family are made.
  cases opcode with
  | constant load =>
      cases load with
      | narrow form | wide form => cases form <;> rfl
      | _ => rfl
  | arithmetic operation =>
      cases operation with
      | registers operation form =>
          cases operation with
          | int operator | intShift operator | long operator | longShift operator
          | float operator | double operator => cases operator <;> cases form <;> rfl
      | literal16 operator | literal8 operator | shiftLiteral8 operator =>
          cases operator <;> rfl
  | move kind reach => cases kind <;> cases reach <;> rfl
  | access place direction element => cases place <;> cases direction <;> cases element <;> rfl
  | quickAccess direction element => cases direction <;> cases element <;> rfl
  | invoke kind list => cases kind <;> cases list <;> rfl
  | moveResult choice | returnValue choice | filledNewArray choice | goto choice
  | compare choice | branch choice | branchZero choice | quickInvoke choice
  | invokePolymorphic choice | invokeCustom choice | unary choice | convert choice
  | payload choice => cases choice <;> rfl
  | _ => rfl

section Ranges

variable {opcode : Opcode}

theorem IsConstantLoad.rangeCategory_eq (isLoad : opcode.IsConstantLoad) :
    opcode.rangeCategory = .constant :=
  if_pos isLoad

theorem IsBranch.rangeCategory_eq (isBranch : opcode.IsBranch) :
    opcode.rangeCategory = .conditionalBranch := by
  have notLoad : ¬ opcode.IsConstantLoad := by
    unfold IsBranch at isBranch
    unfold IsConstantLoad
    omega
  rw [rangeCategory, if_neg notLoad, if_pos isBranch]

theorem IsArithmetic.rangeCategory_eq (isArithmetic : opcode.IsArithmetic) :
    opcode.rangeCategory = .binaryArithmetic := by
  have disjoint : ¬ opcode.IsConstantLoad ∧ ¬ opcode.IsBranch := by
    unfold IsArithmetic at isArithmetic
    unfold IsConstantLoad IsBranch
    omega
  rw [rangeCategory, if_neg disjoint.1, if_neg disjoint.2, if_pos isArithmetic]

theorem IsConstantLoad.exists_load (isLoad : opcode.IsConstantLoad) :
    Exists fun load => opcode = .constant load := by
  have isCategory := opcode.rangeCategory_eq.symm.trans isLoad.rangeCategory_eq
  cases opcode with
  | constant load => exact ⟨load, rfl⟩
  | _ => cases isCategory

theorem IsArithmetic.exists_operation (isArithmetic : opcode.IsArithmetic) :
    Exists fun operation => opcode = .arithmetic operation := by
  have isCategory := opcode.rangeCategory_eq.symm.trans isArithmetic.rangeCategory_eq
  cases opcode with
  | arithmetic operation => exact ⟨operation, rfl⟩
  | _ => cases isCategory

theorem IsBranch.categoryUnder_eq (isBranch : opcode.IsBranch) (settings : Settings) :
    opcode.categoryUnder settings = .conditionalBranch := by
  have isCategory := opcode.rangeCategory_eq.symm.trans isBranch.rangeCategory_eq
  cases opcode with
  | branch relation | branchZero relation => exact if_neg (by simp [constantLoad?])
  | _ => cases isCategory

/-- What is in none of the ranges has no effect, and neither has a constant
load unless constants are folded. -/
theorem categoryUnder_eq_unimplemented {settings : Settings} (notBranch : ¬ opcode.IsBranch)
    (notArithmetic : ¬ opcode.IsArithmetic)
    (notFolded : ¬ (settings.foldConstants = true ∧ opcode.IsConstantLoad)) :
    opcode.categoryUnder settings = .unimplemented := by
  have agrees := opcode.rangeCategory_eq
  unfold rangeCategory at agrees
  by_cases isLoad : opcode.IsConstantLoad
  · rcases isLoad.exists_load with ⟨load, rfl⟩
    have unfolded : settings.foldConstants ≠ true := fun folds => notFolded ⟨folds, isLoad⟩
    simp [categoryUnder, unfolded, category, classified?]
  · rw [if_neg isLoad, if_neg notBranch, if_neg notArithmetic] at agrees
    by_cases loads : opcode.constantLoad?.isSome = true
    · rw [if_pos loads] at agrees
      cases agrees
    · rw [if_neg loads] at agrees
      rw [categoryUnder, if_neg (by simp [loads]), ← agrees]

end Ranges

end Opcode

/-! ## Well-formed instructions -/

def FitsSigned (bits : Nat) (value : Int64) : Prop :=
  -2 ^ (bits - 1) ≤ value.toInt ∧ value.toInt < 2 ^ (bits - 1)

instance (bits : Nat) (value : Int64) : Decidable (FitsSigned bits value) :=
  inferInstanceAs (Decidable (_ ∧ _))

namespace Opcode

/-- The width of the field of an opcode that has a literal and an effect. -/
def literalWidth? : Opcode -> Option Nat
  | .constant (.narrow .bits4) => some 4
  | .arithmetic (.literal8 _) | .arithmetic (.shiftLiteral8 _) => some 8
  | .constant (.narrow .full) | .constant (.wide .bits32) => some 32
  | .constant (.wide .full) => some 64
  | .arithmetic (.literal16 _) | .constant (.narrow _) | .constant (.wide _) => some 16
  | _ => none

/-- The references that an opcode can load. -/
inductive Loads : Opcode -> Operand -> Prop where
  | string (text : String) : Loads (.constant .string) (.string text)
  | stringJumbo (text : String) : Loads (.constant .stringJumbo) (.string text)
  | classObject (descriptor : String) : Loads (.constant .classObject) (.type descriptor)

end Opcode

namespace Instruction

/-- The kinds of the operands are those of the format, one by one, and a
reference is to what the opcode loads. -/
structure IsShaped (instruction : Instruction) : Prop where
  kinds : instruction.opcode.format.operandKinds? = some (instruction.operands.map Operand.kind)
  references : forall operand, operand ∈ instruction.operands -> operand.kind = .reference ->
    instruction.opcode.Loads operand

/-- The first literal among the operands is a value that does not fit its field
of some width. -/
structure Exceeds (instruction : Instruction) (value : Int64) (bits : Nat) : Prop where
  isLiteral : instruction.operands.findSome? Operand.literal? = some value
  isWidth : instruction.opcode.literalWidth? = some bits
  misfits : ¬ FitsSigned bits value

structure IsWellFormed (instruction : Instruction) : Prop where
  shaped : instruction.IsShaped
  fits : forall value bits, ¬ instruction.Exceeds value bits

/-- What is to be said about an instruction: nothing, if it is well-formed, and
otherwise one complaint, about its literal only if all else is right. -/
inductive Verdict (instruction : Instruction) (index : Nat) {Built : Type} :
    Except ConstructionError Built -> Prop where
  | accepted {built : Built} (wellFormed : instruction.IsWellFormed) :
      Verdict instruction index (.ok built)
  | misshapen (isMisshapen : ¬ instruction.IsShaped) :
      Verdict instruction index (.error (.operandShape instruction.opcode index))
  | exceeding {value : Int64} {bits : Nat} (shaped : instruction.IsShaped)
      (exceeds : instruction.Exceeds value bits) :
      Verdict instruction index (.error (.literalOutOfRange instruction.opcode value bits))

theorem Exceeds.unique {instruction : Instruction} {first second : Int64}
    {firstBits secondBits : Nat} (exceeds : instruction.Exceeds first firstBits)
    (exceedsAgain : instruction.Exceeds second secondBits) :
    first = second ∧ firstBits = secondBits := by
  constructor
  · exact Option.some.inj (exceeds.isLiteral.symm.trans exceedsAgain.isLiteral)
  · exact Option.some.inj (exceeds.isWidth.symm.trans exceedsAgain.isWidth)

def literalComplaint? (instruction : Instruction) : Option ConstructionError :=
  (instruction.operands.findSome? Operand.literal?).bind instruction.literalError?

section Literals

variable {instruction : Instruction} {index : Nat} {error : ConstructionError}

theorem literalComplaint?_eq_some_iff
    (sameWidth : instruction.opcode.format.literalBits? = instruction.opcode.literalWidth?) :
    instruction.literalComplaint? = some error <->
      Exists fun value => Exists fun bits => instruction.Exceeds value bits ∧
        error = .literalOutOfRange instruction.opcode value bits := by
  rw [literalComplaint?, Option.bind_eq_some_iff]
  constructor
  · rintro ⟨value, isLiteral, isError⟩
    rw [literalError?, sameWidth] at isError
    cases isWidth : instruction.opcode.literalWidth? with
    | none =>
        rw [isWidth] at isError
        cases isError
    | some bits =>
        rw [isWidth] at isError
        simp only at isError
        by_cases fits : fitsField bits value = true
        · rw [if_pos fits] at isError
          cases isError
        · rw [if_neg fits] at isError
          cases isError
          rw [LiteralLoad.fitsField_iff] at fits
          exact ⟨value, bits, ⟨isLiteral, isWidth, fits⟩, rfl⟩
  · rintro ⟨value, bits, exceeds, rfl⟩
    have misfits : ¬ fitsField bits value = true := by
      rw [LiteralLoad.fitsField_iff]
      exact exceeds.misfits
    refine ⟨value, exceeds.isLiteral, ?_⟩
    simp only [literalError?, sameWidth, exceeds.isWidth, if_neg misfits]

theorem IsShaped.verdict_of_noComplaint (shaped : instruction.IsShaped)
    (sameWidth : instruction.opcode.format.literalBits? = instruction.opcode.literalWidth?)
    (noComplaint : instruction.literalComplaint? = none) {Built : Type} {built : Built} :
    instruction.Verdict index (.ok built) := by
  refine .accepted ⟨shaped, fun value bits exceeds => ?_⟩
  have complaint := (literalComplaint?_eq_some_iff sameWidth).mpr ⟨value, bits, exceeds, rfl⟩
  rw [noComplaint] at complaint
  cases complaint

theorem IsShaped.verdict_of_complaint (shaped : instruction.IsShaped)
    (sameWidth : instruction.opcode.format.literalBits? = instruction.opcode.literalWidth?)
    (complaint : instruction.literalComplaint? = some error) {Built : Type} :
    instruction.Verdict index (.error error : Except ConstructionError Built) := by
  rcases (literalComplaint?_eq_some_iff sameWidth).mp complaint with
    ⟨value, bits, exceeds, rfl⟩
  exact .exceeding shaped exceeds

end Literals

end Instruction

/-! ## Operands by kind -/

theorem Operand.kind_eq_register_iff {operand : Operand} :
    operand.kind = .register <-> Exists fun number => operand = .register number := by
  cases operand <;> simp [kind]

theorem Operand.kind_eq_literal_iff {operand : Operand} :
    operand.kind = .literal <-> Exists fun value => operand = .literal value := by
  cases operand <;> simp [kind]

/-! ## Arithmetic instructions -/

def OperandForm.kinds : OperandForm -> List OperandKind
  | .threeRegisters => [.register, .register, .register]
  | .twoAddress => [.register, .register]
  | .literal => [.register, .register, .literal]

/-- The operands that a layout takes apart. -/
inductive OperandForm.Fits : OperandForm -> List Operand -> Prop where
  | threeRegisters (dest left right : UInt16) :
      Fits .threeRegisters [.register dest, .register left, .register right]
  | twoAddress (dest right : UInt16) : Fits .twoAddress [.register dest, .register right]
  | literal (dest left : UInt16) (value : Int64) :
      Fits .literal [.register dest, .register left, .literal value]

private theorem OperandForm.fits_of_kinds {form : OperandForm} {operands : List Operand}
    (kinds : operands.map Operand.kind = form.kinds) : form.Fits operands := by
  cases form <;>
    simp only [OperandForm.kinds, List.map_eq_cons_iff, List.map_eq_nil_iff,
      Operand.kind_eq_register_iff, Operand.kind_eq_literal_iff] at kinds
  case threeRegisters =>
    rcases kinds with ⟨_, _, rfl, ⟨dest, rfl⟩, _, _, rfl, ⟨left, rfl⟩, _, _, rfl, ⟨right, rfl⟩, rfl⟩
    exact .threeRegisters dest left right
  case twoAddress =>
    rcases kinds with ⟨_, _, rfl, ⟨dest, rfl⟩, _, _, rfl, ⟨right, rfl⟩, rfl⟩
    exact .twoAddress dest right
  case literal =>
    rcases kinds with ⟨_, _, rfl, ⟨dest, rfl⟩, _, _, rfl, ⟨left, rfl⟩, _, _, rfl, ⟨value, rfl⟩, rfl⟩
    exact .literal dest left value

theorem Arithmetic.operandKinds?_format (operation : Arithmetic) :
    operation.format.operandKinds? = some operation.form.kinds := by
  cases operation with
  | registers operation form => cases form <;> rfl
  | _ => rfl

theorem Arithmetic.literalBits?_format (operation : Arithmetic) :
    operation.format.literalBits? = (Opcode.arithmetic operation).literalWidth? := by
  cases operation with
  | registers operation form => cases form <;> rfl
  | _ => rfl

section Arithmetic

variable {operation : Arithmetic} {operands : List Operand}

/-- No layout has a reference, so that the kinds are all there is to check. -/
theorem Instruction.isShaped_arithmetic_iff :
    Instruction.IsShaped ⟨.arithmetic operation, operands⟩ <->
      operands.map Operand.kind = operation.form.kinds := by
  have noReference : OperandKind.reference ∉ operation.form.kinds := by
    cases operation.form <;> decide
  constructor
  · intro shaped
    have kinds := shaped.kinds
    rw [Opcode.format, operation.operandKinds?_format] at kinds
    exact (Option.some.inj kinds).symm
  · intro kinds
    constructor
    · rw [Opcode.format, operation.operandKinds?_format, kinds]
    · intro operand member isReference
      have isKind := List.mem_map_of_mem (f := Operand.kind) member
      rw [kinds, isReference] at isKind
      exact (noReference isKind).elim

theorem Instruction.isShaped_of_form {form : OperandForm} (isForm : operation.form = form)
    (kinds : operands.map Operand.kind = form.kinds) :
    Instruction.IsShaped ⟨.arithmetic operation, operands⟩ := by
  rw [isShaped_arithmetic_iff, isForm]
  exact kinds

theorem Instruction.verdict_binaryEffect (index : Nat) :
    Verdict ⟨.arithmetic operation, operands⟩ index
      (Instruction.binaryEffect ⟨.arithmetic operation, operands⟩ index) := by
  have sameWidth := operation.literalBits?_format
  unfold binaryEffect
  simp only [Opcode.arithmetic?]
  split
  case h_1 isForm | h_2 isForm =>
    exact (isShaped_of_form isForm rfl).verdict_of_noComplaint sameWidth rfl
  case h_3 dest left value isForm =>
    have shaped : IsShaped
        ⟨.arithmetic operation, [.register dest, .register left, .literal value]⟩ :=
      isShaped_of_form isForm rfl
    cases complaint : literalError?
      ⟨.arithmetic operation, [.register dest, .register left, .literal value]⟩ value with
    | some error => exact shaped.verdict_of_complaint sameWidth complaint
    | none => exact shaped.verdict_of_noComplaint sameWidth complaint
  case h_4 notThree notTwo notLiteral =>
    -- The operands were not those of the layout, whichever it is.
    refine .misshapen fun shaped => ?_
    have fits := OperandForm.fits_of_kinds (isShaped_arithmetic_iff.mp shaped)
    generalize operation.form = form at fits notThree notTwo notLiteral
    cases fits with
    | threeRegisters dest left right => exact notThree dest left right rfl rfl
    | twoAddress dest right => exact notTwo dest right rfl rfl
    | literal dest left value => exact notLiteral dest left value rfl rfl

end Arithmetic

/-! ## Constant loads -/

namespace ConstantLoad

def kind : ConstantLoad -> OperandKind
  | .narrow _ | .wide _ => .literal
  | .string | .stringJumbo | .classObject => .reference

theorem operandKinds?_format (load : ConstantLoad) :
    load.format.operandKinds? = some [.register, load.kind] := by
  cases load with
  | narrow form | wide form => cases form <;> rfl
  | _ => rfl

theorem literalBits?_format (load : ConstantLoad) :
    load.format.literalBits? = (Opcode.constant load).literalWidth? := by
  cases load with
  | narrow form | wide form => cases form <;> rfl
  | _ => rfl

theorem constant?_isSome_iff {load : ConstantLoad} {operand : Operand} :
    (load.constant? operand).isSome <->
      operand.kind = load.kind ∧
        (operand.kind = .reference -> (Opcode.constant load).Loads operand) := by
  constructor
  · intro isConstant
    cases load with
    | narrow form | wide form =>
        cases operand with
        | literal value => exact ⟨rfl, nofun⟩
        | _ => cases isConstant
    | string =>
        cases operand with
        | string text => exact ⟨rfl, fun _ => .string text⟩
        | _ => cases isConstant
    | stringJumbo =>
        cases operand with
        | string text => exact ⟨rfl, fun _ => .stringJumbo text⟩
        | _ => cases isConstant
    | classObject =>
        cases operand with
        | type descriptor => exact ⟨rfl, fun _ => .classObject descriptor⟩
        | _ => cases isConstant
  · rintro ⟨isKind, loads⟩
    cases load with
    | narrow form | wide form =>
        rcases Operand.kind_eq_literal_iff.mp isKind with ⟨value, rfl⟩
        rfl
    | string | stringJumbo | classObject =>
        cases loads isKind
        rfl

end ConstantLoad

section Constants

variable {load : ConstantLoad} {operands : List Operand}

theorem Instruction.isShaped_constant_iff :
    Instruction.IsShaped ⟨.constant load, operands⟩ <->
      Exists fun dest => Exists fun operand =>
        operands = [.register dest, operand] ∧ (load.constant? operand).isSome := by
  constructor
  · intro shaped
    have kinds := shaped.kinds
    rw [Opcode.format, load.operandKinds?_format] at kinds
    have kinds := (Option.some.inj kinds).symm
    simp only [List.map_eq_cons_iff, List.map_eq_nil_iff, Operand.kind_eq_register_iff] at kinds
    rcases kinds with ⟨_, _, rfl, ⟨dest, rfl⟩, operand, _, rfl, isKind, rfl⟩
    refine ⟨dest, operand, rfl, ConstantLoad.constant?_isSome_iff.mpr ⟨isKind, ?_⟩⟩
    exact shaped.references operand (List.mem_cons_of_mem _ List.mem_cons_self)
  · rintro ⟨dest, operand, rfl, isConstant⟩
    rcases ConstantLoad.constant?_isSome_iff.mp isConstant with ⟨isKind, loads⟩
    constructor
    · rw [Opcode.format, load.operandKinds?_format, List.map_cons, List.map_cons, isKind]
      rfl
    · intro other member isReference
      rcases List.mem_cons.mp member with isFirst | isSecond
      · rw [isFirst] at isReference
        cases isReference
      · rw [List.mem_singleton] at isSecond
        subst isSecond
        exact loads isReference

private theorem Instruction.literalComplaint?_pair (opcode : Opcode) (dest : UInt16)
    (operand : Operand) :
    Instruction.literalComplaint? ⟨opcode, [.register dest, operand]⟩ =
      operand.literal?.bind (Instruction.literalError? ⟨opcode, [.register dest, operand]⟩) := by
  cases operand <;> rfl

theorem Instruction.verdict_loadEffect (index : Nat) :
    Verdict ⟨.constant load, operands⟩ index
      (Instruction.loadEffect ⟨.constant load, operands⟩ index) := by
  have sameWidth := load.literalBits?_format
  unfold loadEffect
  simp only [Opcode.constantLoad?]
  split
  case h_1 dest operand =>
    cases isConstant : load.constant? operand with
    | none =>
        refine .misshapen fun shaped => ?_
        rcases isShaped_constant_iff.mp shaped with ⟨_, _, areOperands, isSome⟩
        cases areOperands
        rw [isConstant] at isSome
        cases isSome
    | some constant =>
        have shaped : IsShaped ⟨.constant load, [.register dest, operand]⟩ := by
          refine isShaped_constant_iff.mpr ⟨dest, operand, rfl, ?_⟩
          rw [isConstant]
          rfl
        rw [← literalComplaint?_pair]
        cases complaint : literalComplaint? ⟨.constant load, [.register dest, operand]⟩ with
        | some error => exact shaped.verdict_of_complaint sameWidth complaint
        | none => exact shaped.verdict_of_noComplaint sameWidth complaint
  case h_2 notPair =>
    refine .misshapen fun shaped => ?_
    rcases isShaped_constant_iff.mp shaped with ⟨dest, operand, areOperands, isSome⟩
    exact notPair dest operand areOperands

end Constants

/-! ## Dispatch -/

/-- The dispatch of an instruction whose opcode has an effect of some category.
The complaint about operands names the format that they do not match. -/
structure Instruction.Judged (instruction : Instruction) (index : Nat) (category : Category)
    (outcome : Except ConstructionError Dispatch) : Prop where
  accepted_iff :
    (Exists fun effect => effect.category = category ∧
      outcome = .ok (.handled ⟨instruction, index, effect⟩)) <-> instruction.IsWellFormed
  misshapen : ¬ instruction.IsShaped -> Exists fun error =>
    outcome = .error error ∧ error = .operandShape instruction.opcode index ∧
      error.message =
        "operands of " ++ instruction.opcode.mnemonic ++ " at index " ++ Text.decimal index ++
          " do not match format " ++ instruction.opcode.format.name
  exceeding : instruction.IsShaped -> forall value bits, instruction.Exceeds value bits ->
    outcome = .error (.literalOutOfRange instruction.opcode value bits)

theorem Instruction.Verdict.judged {instruction : Instruction} {index : Nat} {Built : Type}
    {built : Except ConstructionError Built} (verdict : instruction.Verdict index built)
    {wrap : Built -> Effect} {category : Category}
    (isCategory : forall effect, (wrap effect).category = category) :
    instruction.Judged index category
      (built.map fun effect => .handled ⟨instruction, index, wrap effect⟩) := by
  cases verdict with
  | @accepted effect wellFormed =>
      constructor
      · exact ⟨fun _ => wellFormed, fun _ => ⟨wrap effect, isCategory effect, rfl⟩⟩
      · exact fun isMisshapen => (isMisshapen wellFormed.shaped).elim
      · exact fun _ value bits exceeds => (wellFormed.fits value bits exceeds).elim
  | misshapen isMisshapen =>
      constructor
      · constructor
        · rintro ⟨effect, _, isOk⟩
          cases isOk
        · exact fun wellFormed => (isMisshapen wellFormed.shaped).elim
      · exact fun _ => ⟨_, rfl, rfl, rfl⟩
      · exact fun shaped => (isMisshapen shaped).elim
  | exceeding shaped exceeds =>
      constructor
      · constructor
        · rintro ⟨effect, _, isOk⟩
          cases isOk
        · exact fun wellFormed => (wellFormed.fits _ _ exceeds).elim
      · exact fun isMisshapen => (isMisshapen shaped).elim
      · intro _ value bits exceedsAgain
        rcases exceeds.unique exceedsAgain with ⟨rfl, rfl⟩
        rfl

theorem Instruction.Judged.ne_categoryMismatch {instruction : Instruction} {index : Nat}
    {category : Category} {outcome : Except ConstructionError Dispatch}
    (judged : instruction.Judged index category outcome) (opcode : Opcode) (expected : Category) :
    outcome ≠ .error (.categoryMismatch opcode expected) := by
  by_cases shaped : instruction.IsShaped
  · by_cases fits : forall value bits, ¬ instruction.Exceeds value bits
    · rcases judged.accepted_iff.mpr ⟨shaped, fits⟩ with ⟨effect, _, isOk⟩
      rw [isOk]
      nofun
    · push Not at fits
      rcases fits with ⟨value, bits, exceeds⟩
      rw [judged.exceeding shaped value bits exceeds]
      nofun
  · rcases judged.misshapen shaped with ⟨error, isError, rfl, _⟩
    rw [isError]
    nofun

namespace Dispatch

variable {settings : Settings} {instruction : Instruction} {index : Nat}

private theorem ofInstruction_of_binaryArithmetic
    (isCategory : instruction.opcode.categoryUnder settings = .binaryArithmetic) :
    ofInstruction settings instruction index =
      (instruction.binaryEffect index).map
        (fun effect => .handled ⟨instruction, index, .binary effect⟩) := by
  simp only [ofInstruction, isCategory, Handler.binary]
  cases instruction.binaryEffect index <;> rfl

private theorem ofInstruction_of_constant
    (isCategory : instruction.opcode.categoryUnder settings = .constant) :
    ofInstruction settings instruction index =
      (instruction.loadEffect index).map
        (fun effect => .handled ⟨instruction, index, .load effect⟩) := by
  simp only [ofInstruction, isCategory, Handler.load]
  cases instruction.loadEffect index <;> rfl

theorem judged_of_isArithmetic (isArithmetic : instruction.opcode.IsArithmetic) :
    instruction.Judged index .binaryArithmetic (ofInstruction settings instruction index) := by
  rcases instruction with ⟨opcode, operands⟩
  rcases isArithmetic.exists_operation with ⟨operation, rfl⟩
  have isCategory : (Opcode.arithmetic operation).categoryUnder settings = .binaryArithmetic :=
    if_neg (by simp [Opcode.constantLoad?])
  rw [ofInstruction_of_binaryArithmetic isCategory]
  exact (Instruction.verdict_binaryEffect index).judged fun _ => rfl

theorem judged_of_isConstantLoad (folds : settings.foldConstants = true)
    (isLoad : instruction.opcode.IsConstantLoad) :
    instruction.Judged index .constant (ofInstruction settings instruction index) := by
  rcases instruction with ⟨opcode, operands⟩
  rcases isLoad.exists_load with ⟨load, rfl⟩
  have isCategory : (Opcode.constant load).categoryUnder settings = .constant :=
    if_pos (by rw [folds]; rfl)
  rw [ofInstruction_of_constant isCategory]
  exact (Instruction.verdict_loadEffect index).judged fun _ => rfl

theorem ofInstruction_of_isBranch (isBranch : instruction.opcode.IsBranch) :
    ofInstruction settings instruction index = .ok (.notWired instruction.opcode index) := by
  simp only [ofInstruction, isBranch.categoryUnder_eq settings]

theorem ofInstruction_of_other (notBranch : ¬ instruction.opcode.IsBranch)
    (notArithmetic : ¬ instruction.opcode.IsArithmetic)
    (notFolded : ¬ (settings.foldConstants = true ∧ instruction.opcode.IsConstantLoad)) :
    ofInstruction settings instruction index =
      .ok (.handled (Handler.fallback instruction index)) := by
  simp only [ofInstruction,
    Opcode.categoryUnder_eq_unimplemented notBranch notArithmetic notFolded]

private theorem ofInstruction_ne_categoryMismatch (opcode : Opcode) (expected : Category) :
    ofInstruction settings instruction index ≠ .error (.categoryMismatch opcode expected) := by
  by_cases isBranch : instruction.opcode.IsBranch
  · rw [ofInstruction_of_isBranch isBranch]
    nofun
  by_cases isArithmetic : instruction.opcode.IsArithmetic
  · exact (judged_of_isArithmetic isArithmetic).ne_categoryMismatch opcode expected
  by_cases folded : settings.foldConstants = true ∧ instruction.opcode.IsConstantLoad
  · exact (judged_of_isConstantLoad folded.1 folded.2).ne_categoryMismatch opcode expected
  · rw [ofInstruction_of_other isBranch isArithmetic folded]
    nofun

/-- Exactly the well-formed instructions are accepted where their opcode has an
effect, and all instructions where it has none.  What is accepted carries the
instruction and its position. -/
theorem ofInstruction_acceptance (settings : Settings) (instruction : Instruction) (index : Nat) :
    (instruction.opcode.IsBranch ->
      ofInstruction settings instruction index = .ok (.notWired instruction.opcode index)) ∧
    (instruction.opcode.IsArithmetic ->
      instruction.Judged index .binaryArithmetic (ofInstruction settings instruction index)) ∧
    (settings.foldConstants = true -> instruction.opcode.IsConstantLoad ->
      instruction.Judged index .constant (ofInstruction settings instruction index)) ∧
    (¬ instruction.opcode.IsBranch -> ¬ instruction.opcode.IsArithmetic ->
      ¬ (settings.foldConstants = true ∧ instruction.opcode.IsConstantLoad) ->
      ofInstruction settings instruction index =
        .ok (.handled (Handler.fallback instruction index))) ∧
    (forall opcode expected,
      ofInstruction settings instruction index ≠ .error (.categoryMismatch opcode expected)) ∧
    (forall dispatch, ofInstruction settings instruction index = .ok dispatch ->
      dispatch.opcode = instruction.opcode ∧ dispatch.index = index ∧
        forall handler, dispatch = .handled handler -> handler.instruction = instruction) := by
  refine ⟨?branch, ?arithmetic, ?constant, ?other, ?mismatch, ?carried⟩
  case branch => exact fun isBranch => ofInstruction_of_isBranch isBranch
  case arithmetic => exact fun isArithmetic => judged_of_isArithmetic isArithmetic
  case constant => exact fun folds isLoad => judged_of_isConstantLoad folds isLoad
  case other =>
    exact fun notBranch notArithmetic notFolded =>
      ofInstruction_of_other notBranch notArithmetic notFolded
  case mismatch => exact ofInstruction_ne_categoryMismatch
  case carried =>
    intro dispatch dispatched
    cases Instruction.dispatches_of_ofInstruction dispatched with
    | notWired isCategory =>
        refine ⟨rfl, rfl, fun handler isHandled => ?_⟩
        cases isHandled
    | binary isCategory built | load isCategory built | fallback isCategory =>
        refine ⟨rfl, rfl, fun handler isHandled => ?_⟩
        cases isHandled
        rfl

/-- The least literal of sixteen bits fits and the first one past eight bits
does not, a class is not loaded from a string, and a branch or a load that has
no effect needs no operands at all. -/
theorem ofInstruction_acceptance_oddInstructions :
    let folding : Settings := { foldConstants := true }
    let subtraction : Instruction :=
      ⟨.arithmetic (.literal16 .sub), [.register 0, .register 1, .literal (-32768)]⟩
    let addition : Instruction :=
      ⟨.arithmetic (.literal8 .add), [.register 0, .register 1, .literal 128]⟩
    let classLoad : Instruction := ⟨.constant .classObject, [.register 0, .string "LFoo;"]⟩
    (Exists fun effect => effect.category = .binaryArithmetic ∧
      ofInstruction folding subtraction 3 = .ok (.handled ⟨subtraction, 3, effect⟩)) ∧
    ofInstruction folding addition 4 =
      .error (.literalOutOfRange (.arithmetic (.literal8 .add)) 128 8) ∧
    (Exists fun error => ofInstruction folding classLoad 5 = .error error ∧
      error.message = "operands of const-class at index 5 do not match format 21c") ∧
    ofInstruction folding ⟨.branchZero .le, []⟩ 6 = .ok (.notWired (.branchZero .le) 6) ∧
    ofInstruction { } ⟨.constant .classObject, []⟩ 7 =
      .ok (.handled (Handler.fallback ⟨.constant .classObject, []⟩ 7)) := by
  intro folding subtraction addition classLoad
  refine ⟨?_, ?_, ?_, ?_, ?_⟩
  · have judged := (ofInstruction_acceptance folding subtraction 3).2.1 (by decide)
    refine judged.accepted_iff.mpr ⟨Instruction.isShaped_arithmetic_iff.mpr rfl, ?_⟩
    intro value bits exceeds
    cases exceeds.isLiteral
    cases exceeds.isWidth
    exact exceeds.misfits (by decide)
  · have judged := (ofInstruction_acceptance folding addition 4).2.1 (by decide)
    exact judged.exceeding (Instruction.isShaped_arithmetic_iff.mpr rfl) 128 8
      ⟨rfl, rfl, by decide⟩
  · have judged := (ofInstruction_acceptance folding classLoad 5).2.2.1 rfl (by decide)
    have isMisshapen : ¬ classLoad.IsShaped := by
      intro shaped
      cases shaped.references (.string "LFoo;") (by simp [classLoad]) rfl
    rcases judged.misshapen isMisshapen with ⟨error, isError, _, message⟩
    exact ⟨error, isError, message⟩
  · exact (ofInstruction_acceptance folding ⟨.branchZero .le, []⟩ 6).1 (by decide)
  · exact (ofInstruction_acceptance { } ⟨.constant .classObject, []⟩ 7).2.2.2.1 (by decide)
      (by decide) (by decide)

end Dispatch

end DalvikFold
