import Mathlib.Data.Int.ModEq
import DalvikFold.Proofs.HandlerSteps
import DalvikFold.Proofs.LiteralLoads

namespace DalvikFold

/-!
# Arithmetic of integers, reduced to a width

A word stands for a signed integer.  What an operator makes of two words is the
integer that it makes of two integers, brought back into the range of the words
by a multiple of two to the power of their width.  This is said of the integers
alone: sums, products and shifts to the left are exact before they are reduced,
a quotient is truncated toward zero, and a shift to the right is a quotient that
is rounded down.

The amount of a shift is a word of its own width.  It is read as an integer
modulo the width that is shifted, so that a negative amount is one as well.
-/

/-! ## Reduction -/

/-- One integer stands for another one among the signed integers of a width. -/
structure ReducesTo (width : Nat) (exact reduced : Int) : Prop where
  least : -2 ^ (width - 1) ≤ reduced
  greatest : reduced < 2 ^ (width - 1)
  congruent : reduced ≡ exact [ZMOD 2 ^ width]

section Reduction

variable {width : Nat}

theorem reducesTo_of_congruent {exact : Int} {word : BitVec width}
    (congruent : word.toInt ≡ exact [ZMOD 2 ^ width]) : ReducesTo width exact word.toInt :=
  ⟨word.le_toInt, word.toInt_lt, congruent⟩

/-- The core library states results by the balanced remainder, which lies in the
signed range. -/
theorem reducesTo_of_bmod {exact : Int} {word : BitVec width}
    (isReduced : word.toInt = exact.bmod (2 ^ width)) : ReducesTo width exact word.toInt := by
  refine reducesTo_of_congruent ?_
  have sameRemainder : exact.bmod (2 ^ width) % ((2 ^ width : Nat) : Int) =
      exact % ((2 ^ width : Nat) : Int) := Int.bmod_emod
  rw [Int.natCast_pow] at sameRemainder
  rw [isReduced]
  exact sameRemainder

/-- A word read without sign and the same word read with sign differ by a
multiple. -/
theorem toInt_congruent_toNat (word : BitVec width) :
    word.toInt ≡ (word.toNat : Int) [ZMOD 2 ^ width] :=
  (reducesTo_of_bmod word.toInt_eq_toNat_bmod).congruent

end Reduction

/-! ## What exact results are -/

section Words

variable {width : Nat}

/-- Quotient and remainder of a division that truncates toward zero. -/
structure IsDivision (left right quotient remainder : BitVec width) : Prop where
  truncated : ReducesTo width (left.toInt.tdiv right.toInt) quotient.toInt
  recombined : quotient.toInt * right.toInt + remainder.toInt ≡ left.toInt [ZMOD 2 ^ width]
  smaller : remainder.toInt.natAbs < right.toInt.natAbs
  signed : remainder.toInt = 0 ∨ remainder.toInt.sign = left.toInt.sign
  /-- The one quotient that is out of range stands for itself. -/
  overflow : left.toInt = -2 ^ (width - 1) -> right.toInt = -1 -> quotient.toInt = left.toInt

/-- The bits of a word are combined from the bits of two words, one by one. -/
def IsBitwise (combine : Bool -> Bool -> Bool) (left right result : BitVec width) : Prop :=
  forall position,
    result.getLsbD position = combine (left.getLsbD position) (right.getLsbD position)

/-- What the operators make of two words, as numbers of a type. -/
structure WholeOperator.AreExact (number : BitVec width -> Value) (left right : BitVec width)
    (result : WholeOperator -> Except ExecutionError Value) : Prop where
  add : Exists fun sum => result .add = .ok (number sum) ∧
    ReducesTo width (left.toInt + right.toInt) sum.toInt
  sub : Exists fun difference => result .sub = .ok (number difference) ∧
    ReducesTo width (left.toInt - right.toInt) difference.toInt
  mul : Exists fun product => result .mul = .ok (number product) ∧
    ReducesTo width (left.toInt * right.toInt) product.toInt
  div_zero : result .div = .error .divisionByZero <-> right.toInt = 0
  rem_zero : result .rem = .error .divisionByZero <-> right.toInt = 0
  division : right.toInt ≠ 0 -> Exists fun quotient => Exists fun remainder =>
    result .div = .ok (number quotient) ∧ result .rem = .ok (number remainder) ∧
      IsDivision left right quotient remainder
  and : Exists fun both => result .and = .ok (number both) ∧ IsBitwise Bool.and left right both
  or : Exists fun any => result .or = .ok (number any) ∧ IsBitwise Bool.or left right any
  xor : Exists fun one => result .xor = .ok (number one) ∧ IsBitwise Bool.xor left right one

/-- What the shifts make of a word, as numbers of a type. -/
structure ShiftOperator.AreExact (number : BitVec width -> Value) (word : BitVec width)
    (amount : BitVec 32) (result : ShiftOperator -> Except ExecutionError Value) : Prop where
  shl : Exists fun shifted => result .shl = .ok (number shifted) ∧
    ReducesTo width (word.toInt * 2 ^ (amount.toInt % width).toNat) shifted.toInt
  shr : Exists fun shifted => result .shr = .ok (number shifted) ∧
    shifted.toInt = word.toInt.fdiv (2 ^ (amount.toInt % width).toNat)
  ushr : Exists fun shifted => result .ushr = .ok (number shifted) ∧
    ReducesTo width ((word.toNat / 2 ^ (amount.toInt % width).toNat : Nat) : Int) shifted.toInt

end Words

/-! ## Operators are exact -/

section Operators

variable {width : Nat}

theorem isDivision_sdiv_srem (left : BitVec width) {right : BitVec width}
    (nonzero : right.toInt ≠ 0) :
    IsDivision left right (left.sdiv right) (left.srem right) := by
  have truncated : ReducesTo width (left.toInt.tdiv right.toInt) (left.sdiv right).toInt :=
    reducesTo_of_bmod (left.toInt_sdiv right)
  constructor
  · exact truncated
  · have recombined := (truncated.congruent.mul_right right.toInt).add_right
      (left.toInt.tmod right.toInt)
    rw [Int.tdiv_mul_add_tmod] at recombined
    rw [BitVec.toInt_srem]
    exact recombined
  · rw [BitVec.toInt_srem, Int.natAbs_tmod]
    exact Nat.mod_lt _ (Int.natAbs_pos.mpr nonzero)
  · rw [BitVec.toInt_srem, Int.sign_tmod]
    by_cases divides : right.toInt ∣ left.toInt
    · exact .inl (Int.tmod_eq_zero_of_dvd divides)
    · exact .inr (if_neg divides)
  · intro isLeast isMinusOne
    rcases Nat.eq_zero_or_pos width with rfl | positive
    · rw [BitVec.toInt_zero_length, BitVec.toInt_zero_length]
    · have leftLeast : left = BitVec.intMin width := by
        rw [← BitVec.toInt_inj, BitVec.toInt_intMin_of_pos positive, isLeast]
      have rightMinusOne : right = -BitVec.ofNat width 1 := by
        rw [← BitVec.toInt_inj, isMinusOne, BitVec.neg_one_eq_allOnes, BitVec.toInt_allOnes,
          if_pos positive]
      rw [leftLeast, rightMinusOne, BitVec.intMin_sdiv_neg_one]

theorem divided_map_eq_divisionByZero_iff {Number : Type} (number : Number -> Value)
    (condition : Prop) [Decidable condition] (result : Number) :
    (divided (if condition then none else some result)).map number = .error .divisionByZero <->
      condition := by
  by_cases holds : condition
  · rw [if_pos holds]
    exact iff_of_true rfl holds
  · rw [if_neg holds]
    exact iff_of_false (nomatch ·) holds

theorem WholeOperator.areExact_apply (number : BitVec width -> Value) (left right : BitVec width) :
    AreExact number left right
      (fun operator => (divided (operator.apply left right)).map number) := by
  have isZero : right = 0 <-> right.toInt = 0 := by
    rw [← BitVec.toInt_inj, BitVec.ofNat_eq_ofNat, BitVec.toInt_zero]
  constructor
  · exact ⟨left + right, rfl, reducesTo_of_bmod (left.toInt_add right)⟩
  · exact ⟨left - right, rfl, reducesTo_of_bmod BitVec.toInt_sub⟩
  · exact ⟨left * right, rfl, reducesTo_of_bmod (left.toInt_mul right)⟩
  · exact (divided_map_eq_divisionByZero_iff number (right = 0) (left.sdiv right)).trans isZero
  · exact (divided_map_eq_divisionByZero_iff number (right = 0) (left.srem right)).trans isZero
  · intro nonzero
    have notZero : ¬ right = 0 := fun zero => nonzero (isZero.mp zero)
    refine ⟨left.sdiv right, left.srem right, ?_, ?_, isDivision_sdiv_srem left nonzero⟩
    · rw [apply, if_neg notZero]
      rfl
    · rw [apply, if_neg notZero]
      rfl
  · exact ⟨left &&& right, rfl, fun position => BitVec.getLsbD_and⟩
  · exact ⟨left ||| right, rfl, fun position => BitVec.getLsbD_or⟩
  · exact ⟨left ^^^ right, rfl, fun position => BitVec.getLsbD_xor⟩

/-- The amount of a shift is the same with and without its sign. -/
theorem toNat_mod_eq_toInt_mod (amount : BitVec 32) (divides : width ∣ 2 ^ 32) :
    amount.toNat % width = (amount.toInt % width).toNat := by
  have congruent := (toInt_congruent_toNat amount).of_dvd (Int.natCast_dvd_natCast.mpr divides)
  have sameRemainder : amount.toInt % (width : Int) = ((amount.toNat % width : Nat) : Int) :=
    congruent
  rw [sameRemainder, Int.toNat_natCast]

theorem reducesTo_shiftLeft (word : BitVec width) (distance : Nat) :
    ReducesTo width (word.toInt * 2 ^ distance) (word <<< distance).toInt := by
  have isExact : word <<< distance = BitVec.ofInt width (word.toInt * 2 ^ distance) := by
    rw [← LiteralLoad.ofInt_shiftLeft, BitVec.ofInt_toInt]
  rw [isExact]
  exact reducesTo_of_bmod (BitVec.toInt_ofInt _)

theorem toInt_sshiftRight_eq_fdiv (word : BitVec width) (distance : Nat) :
    (word.sshiftRight distance).toInt = word.toInt.fdiv (2 ^ distance) := by
  have nonnegative : (0 : Int) ≤ 2 ^ distance := Int.pow_nonneg (by decide)
  rw [BitVec.toInt_sshiftRight, Int.shiftRight_eq_div_pow, Int.natCast_pow, Int.cast_ofNat_Int,
    Int.fdiv_eq_ediv_of_nonneg _ nonnegative]

theorem reducesTo_ushiftRight (word : BitVec width) (distance : Nat) :
    ReducesTo width ((word.toNat / 2 ^ distance : Nat) : Int) (word >>> distance).toInt := by
  rw [← Nat.shiftRight_eq_div_pow, ← BitVec.toNat_ushiftRight]
  exact reducesTo_of_congruent (toInt_congruent_toNat _)

theorem ShiftOperator.areExact_apply (number : BitVec width -> Value) (word : BitVec width)
    (amount : BitVec 32) (divides : width ∣ 2 ^ 32) :
    AreExact number word amount (fun operator => .ok (number (operator.apply word amount))) := by
  constructor <;> rw [← toNat_mod_eq_toInt_mod amount divides]
  · exact ⟨_, rfl, reducesTo_shiftLeft word _⟩
  · exact ⟨_, rfl, toInt_sshiftRight_eq_fdiv word _⟩
  · exact ⟨_, rfl, reducesTo_ushiftRight word _⟩

end Operators

/-! ## Operations -/

namespace Operation

section Evaluation

variable {left right : Value} {x y : BitVec 32}
variable (leftBits : left.narrow? = some x) (rightBits : right.narrow? = some y)
variable {wideLeft wideRight : Value} {wideX wideY : BitVec 64}
variable (wideLeftBits : wideLeft.wide? = some wideX)
variable (wideRightBits : wideRight.wide? = some wideY)
variable (leftRegister rightRegister : UInt16)

include leftBits rightBits wideLeftBits wideRightBits in
/-- The operations on whole numbers are exact up to the reduction to their
width, for all words that the operands can hold.  The amount of a shift is an
int for longs as well. -/
theorem evaluate_exact [NaNResults] :
    WholeOperator.AreExact .int x y (fun operator =>
      evaluate (.direct (.int operator)) leftRegister rightRegister left right) ∧
    (Exists fun difference =>
      evaluate .reverseSub leftRegister rightRegister left right = .ok (.int difference) ∧
        ReducesTo 32 (y.toInt - x.toInt) difference.toInt) ∧
    ShiftOperator.AreExact .int x y (fun operator =>
      evaluate (.direct (.intShift operator)) leftRegister rightRegister left right) ∧
    WholeOperator.AreExact .long wideX wideY (fun operator =>
      evaluate (.direct (.long operator)) leftRegister rightRegister wideLeft wideRight) ∧
    ShiftOperator.AreExact .long wideX y (fun operator =>
      evaluate (.direct (.longShift operator)) leftRegister rightRegister wideLeft right) := by
  simp only [evaluate_int leftBits rightBits, evaluate_intShift leftBits rightBits,
    evaluate_reverseSub leftBits rightBits, evaluate_long wideLeftBits _ _ wideRightBits,
    evaluate_longShift wideLeftBits _ _ rightBits]
  refine ⟨?_, ?_, ?_, ?_, ?_⟩
  · exact WholeOperator.areExact_apply .int x y
  · exact ⟨y - x, rfl, reducesTo_of_bmod BitVec.toInt_sub⟩
  · exact ShiftOperator.areExact_apply .int x y (by decide)
  · exact WholeOperator.areExact_apply .long wideX wideY
  · exact ShiftOperator.areExact_apply .long wideX y (by decide)

end Evaluation

/-- The least int, which a float register holds as the bits of the negative
zero, is divided by minus one, and the least long is shifted by minus one. -/
theorem evaluate_exact_leastNumbers :
    let least : Value := .float 0x80000000
    let minusOne : Value := .int (-1)
    let wideLeast : Value := .double 0x8000000000000000
    least.narrow? = some 0x80000000 ∧ minusOne.narrow? = some (-1) ∧
      wideLeast.wide? = some 0x8000000000000000 ∧ (Value.long 0).wide? = some 0 ∧
      (Exists fun quotient =>
        evaluate (.direct (.int .div)) 0 1 least minusOne = .ok (.int quotient) ∧
          quotient.toInt = -2 ^ 31) ∧
      evaluate (.direct (.long .rem)) 0 1 wideLeast (.long 0) = .error .divisionByZero ∧
      (Exists fun shifted =>
        evaluate (.direct (.longShift .shr)) 0 1 wideLeast minusOne = .ok (.long shifted) ∧
          shifted.toInt = (-2 ^ 63 : Int).fdiv (2 ^ 63)) := by
  intro least minusOne wideLeast
  have leftBits : least.narrow? = some 0x80000000 := rfl
  have rightBits : minusOne.narrow? = some (-1) := rfl
  have wideLeftBits : wideLeast.wide? = some 0x8000000000000000 := rfl
  have wideRightBits : (Value.long 0).wide? = some 0 := rfl
  have results := evaluate_exact leftBits rightBits wideLeftBits wideRightBits 0 1
  rcases results.1.division (by decide) with ⟨quotient, _, isQuotient, _, isDivision⟩
  rcases results.2.2.2.2.shr with ⟨shifted, isShifted, isFloor⟩
  exact ⟨leftBits, rightBits, wideLeftBits, wideRightBits,
    ⟨quotient, isQuotient, isDivision.overflow rfl rfl⟩, results.2.2.2.1.rem_zero.mpr rfl,
    ⟨shifted, isShifted, isFloor⟩⟩

end Operation

end DalvikFold
