import DalvikFold.Method.Run
import DalvikFold.Proofs.Spellings

namespace DalvikFold

/-!
# Literals from the listing to the register

An integer on its way from a listing to a register is read, cut down to the
field of its opcode, checked against the width of that field, truncated to a
word and shifted back.  The stages agree: an integer that the opcode can hold
arrives unchanged, however it is spelled, and every other integer is refused
by the stage that is responsible for it.

The integers that an opcode can hold are described without regard to any of
the stages, by a range and by the power of two that must divide them.
-/

/-! ## From a source to an outcome -/

/-- How far a listing gets that is read, prepared and run as one body. -/
inductive ListingRun where
  | unread (error : Listing.Error)
  | unprepared (error : PreparationError)
  | ran (outcome : RunOutcome)

/-- The instructions of a body on their way through preparation and a run. -/
def MethodBody.runUnder [NaNResults] (body : MethodBody) (settings : Settings)
    (registers : RegisterFile) : ListingRun :=
  match body.prepare settings with
  | .error error => .unprepared error
  | .ok method => .ran (method.run registers)

/-- A listing on its way through the reader, preparation and a run. -/
def Listing.run [NaNResults] (settings : Settings) (descriptor source : String)
    (registers : RegisterFile) : ListingRun :=
  match Listing.instructions source with
  | .error error => .unread error
  | .ok instructions => (MethodBody.mk descriptor instructions).runUnder settings registers

/-! ## The loads of literals -/

/-- Whether the value is this integer, in two's complement. -/
def Value.IsInteger : Value -> Int -> Prop
  | .int bits, n => bits.toInt = n
  | .long bits, n => bits.toInt = n
  | _, _ => False

/-- The opcodes that load a literal. -/
inductive LiteralLoad where
  | narrow (form : NarrowLiteral)
  | wide (form : WideLiteral)
  deriving Repr, DecidableEq

namespace LiteralLoad

def constantLoad : LiteralLoad -> ConstantLoad
  | .narrow form => .narrow form
  | .wide form => .wide form

def opcode (load : LiteralLoad) : Opcode :=
  .constant load.constantLoad

/-- The width of the integers that a load can hold. -/
def width : LiteralLoad -> Nat
  | .narrow .bits4 => 4
  | .narrow .bits16 => 16
  | .narrow .full => 32
  | .narrow .high16 => 32
  | .wide .bits16 => 16
  | .wide .bits32 => 32
  | .wide .full => 64
  | .wide .high16 => 64

/-- The number of low bits that are zero in all integers that a load can hold. -/
def zeroBits : LiteralLoad -> Nat
  | .narrow .high16 => 16
  | .wide .high16 => 48
  | _ => 0

/-- The width of the field that is left for the other bits. -/
def fieldBits (load : LiteralLoad) : Nat :=
  load.width - load.zeroBits

/-- Whether a load can hold an integer. -/
def Represents (load : LiteralLoad) (n : Int) : Prop :=
  (-2 ^ (load.width - 1) ≤ n ∧ n < 2 ^ (load.width - 1)) ∧ (2 ^ load.zeroBits : Int) ∣ n

instance (load : LiteralLoad) (n : Int) : Decidable (load.Represents n) :=
  inferInstanceAs (Decidable (_ ∧ _))

/-- The value that an integer is in a register. -/
def value (load : LiteralLoad) (n : Int) : Value :=
  match load with
  | .narrow _ => .int (BitVec.ofInt 32 n)
  | .wide _ => .long (BitVec.ofInt 64 n)

/-- A line that loads a spelled integer. -/
def line (load : LiteralLoad) (register : UInt16) (spelling : Listing.Spelling) : String :=
  load.opcode.mnemonic ++ " " ++ registerName register ++ ", " ++ String.ofList spelling.text

/-- What becomes of a spelled integer that a load cannot hold.  The reader
refuses it if it is too large for any load, or has other bits than zeros where
the load has none; all else is refused where the effect is built. -/
def refusal (load : LiteralLoad) (descriptor : String) (spelling : Listing.Spelling) :
    ListingRun :=
  let n := spelling.value
  if FitsLong n then
    if (2 ^ load.zeroBits : Int) ∣ n then
      .unprepared (.construction descriptor 0
        (.literalOutOfRange load.opcode (Int64.ofInt (n / 2 ^ load.zeroBits)) load.fieldBits))
    else
      .unread ⟨1, .badOperand ("0x" ++ Text.hexadecimal (BitVec.ofInt 64 n).toNat) .lowBitsSet⟩
  else
    .unread ⟨1, .badOperand (String.ofList spelling.text) .literalOutOfRange⟩

/-! ## Words -/

theorem setWidth_ofInt (n : Int) : (BitVec.ofInt 64 n).setWidth 32 = BitVec.ofInt 32 n := by
  apply BitVec.eq_of_toNat_eq
  simp only [BitVec.toNat_setWidth, BitVec.toNat_ofInt]
  omega

theorem ofInt_shiftLeft (width shift : Nat) (n : Int) :
    BitVec.ofInt width n <<< shift = BitVec.ofInt width (n * 2 ^ shift) := by
  have isTwoPow : BitVec.ofInt width (2 ^ shift) = BitVec.twoPow width shift := by
    apply BitVec.eq_of_toNat_eq
    rw [BitVec.toNat_ofInt, BitVec.toNat_twoPow]
    exact Int.toNat_natCast (2 ^ shift % 2 ^ width)
  rw [BitVec.shiftLeft_eq_mul_twoPow, BitVec.ofInt_mul, isTwoPow]

theorem fitsField_iff (bits : Nat) (value : Int64) :
    fitsField bits value = true <->
      -2 ^ (bits - 1) ≤ value.toInt ∧ value.toInt < 2 ^ (bits - 1) := by
  have bound : ((1 <<< (bits - 1) : Nat) : Int) = 2 ^ (bits - 1) := by
    rw [Nat.one_shiftLeft, Nat.cast_pow, Nat.cast_ofNat]
  rw [fitsField, Bool.and_eq_true, decide_eq_true_iff, decide_eq_true_iff, bound]
  exact And.comm

/-! ## Integers that loads can hold -/

theorem Represents.fitsLong {load : LiteralLoad} {n : Int} (represents : load.Represents n) :
    FitsLong n := by
  rcases represents with ⟨⟨lower, upper⟩, divides⟩
  unfold FitsLong
  rcases load with form | form <;> cases form <;> simp only [width] at lower upper <;> omega

private theorem Represents.fitsInt {form : NarrowLiteral} {n : Int}
    (represents : (narrow form).Represents n) : -2 ^ 31 ≤ n ∧ n < 2 ^ 31 := by
  rcases represents with ⟨⟨lower, upper⟩, divides⟩
  cases form <;> simp only [width] at lower upper <;> omega

/-- A register that holds an integer of the range holds it exactly. -/
theorem Represents.value_exact {load : LiteralLoad} {n : Int} (represents : load.Represents n) :
    (load.value n).IsInteger n := by
  cases load with
  | narrow form =>
      have inWord := represents.fitsInt
      exact BitVec.toInt_ofInt_eq_self (by decide) inWord.1 inWord.2
  | wide form =>
      have inWord := represents.fitsLong
      exact BitVec.toInt_ofInt_eq_self (by decide) inWord.1 inWord.2

/-! ## Reading -/

theorem ofMnemonic?_mnemonic (load : LiteralLoad) :
    Opcode.ofMnemonic? load.opcode.mnemonic = some load.opcode := by
  rcases load with form | form <;> cases form <;> decide

private theorem line_eq_ofList (load : LiteralLoad) (register : UInt16)
    (spelling : Listing.Spelling) :
    load.line register spelling =
      String.ofList (Listing.lineOf load.opcode.mnemonic.toList
        [(registerName register).toList, spelling.text]) := by
  apply String.toList_inj.mp
  simp [line, Listing.lineOf, Listing.joined]

private theorem readOperands_line (opcode : Opcode) (register : UInt16)
    (spelling : Listing.Spelling) :
    Listing.readOperands opcode [(registerName register).toList, spelling.text] =
      if FitsLong spelling.value then
        .ok [.register register, .literal (Int64.ofInt spelling.value)]
      else
        .error (.badOperand (String.ofList spelling.text) .literalOutOfRange) := by
  rw [Listing.readOperands, Listing.readOperand_registerName]
  simp only [Listing.readOperands, Listing.readOperand_spelling]
  by_cases fits : FitsLong spelling.value
  · simp only [if_pos fits]
    rfl
  · simp only [if_neg fits]
    rfl

private theorem highShift?_opcode (load : LiteralLoad) :
    Listing.highShift? load.opcode = if load.zeroBits = 0 then none else some load.zeroBits := by
  rcases load with form | form <;> cases form <;> rfl

/-- A literal is encoded by the bits that its load leaves for it. -/
theorem encodeHigh_literal (load : LiteralLoad) (register : UInt16) {n : Int}
    (fits : FitsLong n) :
    Listing.encodeHigh load.opcode [.register register, .literal (Int64.ofInt n)] =
      if (2 ^ load.zeroBits : Int) ∣ n then
        .ok [.register register, .literal (Int64.ofInt (n / 2 ^ load.zeroBits))]
      else
        .error (.badOperand ("0x" ++ Text.hexadecimal (BitVec.ofInt 64 n).toNat) .lowBitsSet) := by
  unfold Listing.encodeHigh
  rw [highShift?_opcode]
  by_cases noZeros : load.zeroBits = 0
  · rw [if_pos noZeros, noZeros, Int.pow_zero, if_pos (Int.one_dvd n), Int.ediv_one]
  · have isField : ((1 <<< load.zeroBits : Nat) : Int) = 2 ^ load.zeroBits := by
      rw [Nat.one_shiftLeft, Nat.cast_pow, Nat.cast_ofNat]
    rw [if_neg noZeros]
    simp only [Int64.toInt_ofInt_of_le fits.1 fits.2, isField, ← Int.dvd_iff_emod_eq_zero,
      Int64.toBitVec_ofInt]

/-! ## Preparation and run -/

def instruction (load : LiteralLoad) (register : UInt16) (field : Int64) : Instruction :=
  ⟨load.opcode, [.register register, .literal field]⟩

def constant (load : LiteralLoad) (field : Int64) : Constant :=
  match load with
  | .narrow form => form.constant field
  | .wide form => form.constant field

private theorem categoryUnder_opcode (load : LiteralLoad) {settings : Settings}
    (folds : settings.foldConstants = true) : load.opcode.categoryUnder settings = .constant := by
  cases load <;> exact if_pos (by rw [folds]; rfl)

theorem literalBits?_format (load : LiteralLoad) :
    load.opcode.format.literalBits? = some load.fieldBits := by
  rcases load with form | form <;> cases form <;> rfl

/-- The effect of a load is built if the literal fits its field. -/
theorem loadEffect_instruction (load : LiteralLoad) (register : UInt16) (field : Int64)
    (index : Nat) :
    (load.instruction register field).loadEffect index =
      if fitsField load.fieldBits field then
        .ok ⟨register, load.constant field⟩
      else
        .error (.literalOutOfRange load.opcode field load.fieldBits) := by
  have isChecked : (load.instruction register field).literalError? field =
      if fitsField load.fieldBits field then
        none
      else
        some (.literalOutOfRange load.opcode field load.fieldBits) := by
    simp only [Instruction.literalError?, instruction, literalBits?_format]
  have isLoad : load.opcode.constantLoad? = some load.constantLoad := by
    cases load <;> rfl
  have isConstant : load.constantLoad.constant? (.literal field) = some (load.constant field) := by
    cases load <;> rfl
  unfold Instruction.loadEffect
  rw [instruction] at isChecked ⊢
  by_cases fits : fitsField load.fieldBits field = true
  · rw [if_pos fits] at isChecked
    simp only [isLoad, isConstant, Operand.literal?, Option.bind_some, isChecked, if_pos fits]
  · rw [if_neg fits] at isChecked
    simp only [isLoad, isConstant, Operand.literal?, Option.bind_some, isChecked, if_neg fits]

/-- A load runs if its effect can be built, and then it assigns its constant. -/
theorem runUnder_instruction [NaNResults] (load : LiteralLoad) (register : UInt16) (field : Int64)
    {settings : Settings} (folds : settings.foldConstants = true) (descriptor : String)
    {registers : RegisterFile} (present : register.toNat < registers.count) :
    (MethodBody.mk descriptor [load.instruction register field]).runUnder settings registers =
      if fitsField load.fieldBits field then
        .ran ⟨.ok { executed := 1 }, registers.set register (load.constant field).value⟩
      else
        .unprepared (.construction descriptor 0
          (.literalOutOfRange load.opcode field load.fieldBits)) := by
  have dispatched : Dispatch.ofInstruction settings (load.instruction register field) 0 =
      (Handler.load (load.instruction register field) 0).map .handled := by
    simp only [Dispatch.ofInstruction, instruction, load.categoryUnder_opcode folds]
  rw [MethodBody.runUnder, MethodBody.prepare, prepareFrom, dispatched, Handler.load,
    loadEffect_instruction]
  by_cases fits : fitsField load.fieldBits field = true
  · have executed : Handler.execute
        ⟨load.instruction register field, 0, .load ⟨register, load.constant field⟩⟩ registers =
          .ok (.next, registers.set register (load.constant field).value) := by
      change (registers.assign register (load.constant field).value).bind _ = _
      rw [RegisterFile.assign, if_pos present]
      rfl
    simp only [if_pos fits]
    change ListingRun.ran (runDispatches [.handled _] registers) = _
    rw [runDispatches_of_ok executed]
    rfl
  · simp only [if_neg fits]
    rfl

/-! ## Fields and integers -/

theorem fitsField_iff_represents {load : LiteralLoad} {n : Int} (fits : FitsLong n)
    (divides : (2 ^ load.zeroBits : Int) ∣ n) :
    fitsField load.fieldBits (Int64.ofInt (n / 2 ^ load.zeroBits)) = true <->
      load.Represents n := by
  have quotient : n / 2 ^ load.zeroBits * 2 ^ load.zeroBits = n := Int.ediv_mul_cancel divides
  have inRange : (-2 ^ (load.fieldBits - 1) ≤ n / 2 ^ load.zeroBits ∧
      n / 2 ^ load.zeroBits < 2 ^ (load.fieldBits - 1)) <->
        -2 ^ (load.width - 1) ≤ n ∧ n < 2 ^ (load.width - 1) := by
    generalize n / 2 ^ load.zeroBits = field at quotient
    rcases load with form | form <;> cases form <;>
      simp only [zeroBits, fieldBits, width] at quotient ⊢ <;> omega
  have fieldFits : FitsLong (n / 2 ^ load.zeroBits) := by
    unfold FitsLong at fits ⊢
    generalize n / 2 ^ load.zeroBits = field at quotient ⊢
    rcases load with form | form <;> cases form <;> simp only [zeroBits] at quotient <;> omega
  rw [fitsField_iff, Int64.toInt_ofInt_of_le fieldFits.1 fieldFits.2, inRange]
  constructor
  · intro inWidth
    exact ⟨inWidth, divides⟩
  · intro represents
    exact represents.1

/-- The constant of a field is the integer that the field was cut from. -/
theorem value_constant {load : LiteralLoad} {n : Int}
    (divides : (2 ^ load.zeroBits : Int) ∣ n) :
    (load.constant (Int64.ofInt (n / 2 ^ load.zeroBits))).value = load.value n := by
  have quotient : n / 2 ^ load.zeroBits * 2 ^ load.zeroBits = n := Int.ediv_mul_cancel divides
  generalize n / 2 ^ load.zeroBits = field at quotient ⊢
  subst quotient
  cases load with
  | narrow form =>
      cases form with
      | high16 =>
          change Value.int ((BitVec.ofInt 64 field).setWidth 32 <<< 16) =
            .int (BitVec.ofInt 32 (field * 2 ^ 16))
          rw [setWidth_ofInt, ofInt_shiftLeft]
      | _ =>
          change Value.int ((BitVec.ofInt 64 field).setWidth 32) =
            .int (BitVec.ofInt 32 (field * 2 ^ 0))
          rw [setWidth_ofInt, Int.pow_zero, Int.mul_one]
  | wide form =>
      cases form with
      | high16 =>
          change Value.long (BitVec.ofInt 64 field <<< 48) =
            .long (BitVec.ofInt 64 (field * 2 ^ 48))
          rw [ofInt_shiftLeft]
      | _ =>
          change Value.long (BitVec.ofInt 64 field) = .long (BitVec.ofInt 64 (field * 2 ^ 0))
          rw [Int.pow_zero, Int.mul_one]

/-! ## The whole way -/

/-- The line is read as the load of a field, if its integer has one. -/
theorem instructions_line (load : LiteralLoad) (register : UInt16) (spelling : Listing.Spelling) :
    Listing.instructions (load.line register spelling) =
      if FitsLong spelling.value then
        if (2 ^ load.zeroBits : Int) ∣ spelling.value then
          .ok [load.instruction register (Int64.ofInt (spelling.value / 2 ^ load.zeroBits))]
        else
          .error ⟨1, .badOperand
            ("0x" ++ Text.hexadecimal (BitVec.ofInt 64 spelling.value).toNat) .lowBitsSet⟩
      else
        .error ⟨1, .badOperand (String.ofList spelling.text) .literalOutOfRange⟩ := by
  have isOpcode : Opcode.ofMnemonic? (String.ofList load.opcode.mnemonic.toList) =
      some load.opcode := by
    rw [String.ofList_toList, ofMnemonic?_mnemonic]
  have areWords : forall word, word ∈ [(registerName register).toList, spelling.text] ->
      Listing.IsWord word := by
    intro word member
    cases member with
    | head => exact Listing.isWord_registerName register
    | tail _ member => exact List.mem_singleton.mp member ▸ spelling.isWord_text
  rw [line_eq_ofList,
    Listing.instructions_lineOf isOpcode areWords,
    readOperands_line]
  by_cases fits : FitsLong spelling.value
  · rw [if_pos fits, if_pos fits]
    simp only [Except.bind, encodeHigh_literal load register fits]
    by_cases divides : (2 ^ load.zeroBits : Int) ∣ spelling.value
    · simp only [if_pos divides]
      rfl
    · simp only [if_neg divides]
  · rw [if_neg fits, if_neg fits]
    rfl

/-- The line that loads a spelled integer loads that integer, as it is, if the
opcode can hold it, and is refused otherwise.  The spellings are the literals in
ASCII digits, and every integer has one. -/
theorem run_line [NaNResults] (load : LiteralLoad) (register : UInt16) (spelling : Listing.Spelling)
    {settings : Settings} (folds : settings.foldConstants = true) (descriptor : String)
    {registers : RegisterFile} (present : register.toNat < registers.count) :
    Listing.run settings descriptor (load.line register spelling) registers =
        (if load.Represents spelling.value then
          .ran ⟨.ok { executed := 1 }, registers.set register (load.value spelling.value)⟩
        else
          load.refusal descriptor spelling) ∧
      (load.Represents spelling.value ->
        (load.value spelling.value).IsInteger spelling.value) ∧
      (forall (text : List Char) (n : Int),
        (Exists fun other : Listing.Spelling => other.text = text ∧ other.value = n) <->
          (Listing.Literal.ofText? text).bind Listing.Literal.integer? = some n) ∧
      (forall n : Int, Exists fun other : Listing.Spelling => other.value = n) := by
  refine ⟨?_, Represents.value_exact, Listing.Spelling.exists_text_iff,
    Listing.Spelling.exists_value⟩
  rw [Listing.run, instructions_line, refusal]
  by_cases fits : FitsLong spelling.value
  · by_cases divides : (2 ^ load.zeroBits : Int) ∣ spelling.value
    · simp only [if_pos fits, if_pos divides]
      rw [runUnder_instruction load register _ folds descriptor present, value_constant divides]
      simp only [fitsField_iff_represents fits divides]
    · have unrepresented : ¬ load.Represents spelling.value := by
        intro represents
        exact divides represents.2
      simp only [if_pos fits, if_neg divides, if_neg unrepresented]
  · have unrepresented : ¬ load.Represents spelling.value := by
      intro represents
      exact fits represents.fitsLong
    simp only [if_neg fits, if_neg unrepresented]

/-- The least integer of thirty-two bits, in hexadecimal digits and with a letter
behind them. -/
def leastInteger : Listing.Spelling :=
  ⟨.minus, .hexadecimal false (⟨8, false⟩ :: List.replicate 7 ⟨0, false⟩) (List.cons_ne_nil _ _),
    some ⟨'L', by decide⟩⟩

theorem run_line_leastInteger :
    let settings : Settings := { foldConstants := true }
    settings.foldConstants = true ∧ (3 : UInt16).toNat < (RegisterFile.fresh 4).count ∧
      Listing.run settings "" "const/high16 v3, -0x80000000L" (.fresh 4) =
        .ran ⟨.ok { executed := 1 }, ⟨#[.unknown, .unknown, .unknown, .int 0x80000000]⟩⟩ ∧
      (Value.int 0x80000000).IsInteger (-0x80000000) := by
  intro settings
  have folds : settings.foldConstants = true := rfl
  have present : (3 : UInt16).toNat < (RegisterFile.fresh 4).count := by decide
  have isLine : (narrow .high16).line 3 leastInteger = "const/high16 v3, -0x80000000L" := by
    decide
  have represents : (narrow .high16).Represents leastInteger.value := by decide
  have loaded := (narrow .high16).run_line 3 leastInteger folds "" present
  rw [isLine, if_pos represents] at loaded
  exact ⟨folds, present, loaded.1, loaded.2.1 represents⟩

end LiteralLoad

end DalvikFold
