import Mathlib.Data.Nat.Digits.Defs
import Mathlib.Tactic.Ring
import DalvikFold.Proofs.Scanning

namespace DalvikFold

/-!
# Numerals and their digits

Reading a numeral is the inverse of writing its digits: whatever characters
stand for the digits, the number that is read is their place value, and a text
that can be read at all is made of such characters.  The names of registers are
the first use of this.
-/

namespace Text

/-! ## Characters of digits -/

def decimalChar (digit : Fin 10) : Char :=
  Nat.digitChar digit

/-- A hexadecimal digit in lower or upper case. -/
structure HexDigit where
  value : Fin 16
  upper : Bool
  deriving Repr, DecidableEq

def HexDigit.char (digit : HexDigit) : Char :=
  if digit.upper then (Nat.digitChar digit.value).toUpper else Nat.digitChar digit.value

theorem isDigit_decimalChar (digit : Fin 10) : (decimalChar digit).isDigit = true := by
  revert digit
  decide

theorem exists_decimalChar {c : Char} (isDigit : c.isDigit = true) :
    Exists fun digit => decimalChar digit = c := by
  rcases Char.isDigit_iff_toNat.mp isDigit with ⟨lower, upper⟩
  have lower : 48 ≤ c.toNat := lower
  have upper : c.toNat ≤ 57 := upper
  have small : c.toNat - 48 < 10 := by omega
  refine ⟨⟨c.toNat - 48, small⟩, Char.toNat_inj.mp ?_⟩
  rw [decimalChar, Nat.toNat_digitChar_of_lt_ten small]
  omega

/-- The ASCII digits are among the decimal digits of all scripts. -/
theorem isDecimalDigit_of_isDigit {c : Char} (isDigit : c.isDigit = true) :
    isDecimalDigit c = true := by
  rcases Char.isDigit_iff_toNat.mp isDigit with ⟨lower, upper⟩
  have upper : c.toNat < 0x30 + 10 := Nat.lt_succ_of_le upper
  have inFirstRun : (0x30 ≤ c.toNat && c.toNat < 0x30 + 10) = true := by
    rw [Bool.and_eq_true, decide_eq_true_iff, decide_eq_true_iff]
    exact ⟨lower, upper⟩
  rw [isDecimalDigit, digitZeros, List.any_cons, inFirstRun, Bool.true_or]

/-! ## Single digits -/

theorem digitInBase?_digitChar {base digit : Nat} (hasDigit : digit < base) (small : base ≤ 16) :
    digitInBase? base (Nat.digitChar digit) = some digit := by
  have readBack : forall digit : Fin 16, digitValue? (Nat.digitChar digit) = some digit.val := by
    decide
  rw [digitInBase?, readBack ⟨digit, Nat.lt_of_lt_of_le hasDigit small⟩]
  simp [Option.filter, hasDigit]

theorem digitInBase?_decimalChar (digit : Fin 10) :
    digitInBase? 10 (decimalChar digit) = some digit.val :=
  digitInBase?_digitChar digit.isLt (by decide)

theorem HexDigit.digitInBase?_char (digit : HexDigit) :
    digitInBase? 16 digit.char = some digit.value.val := by
  rcases digit with ⟨value, upper⟩
  revert value upper
  decide

/-- A character with a value is an ASCII digit, or a letter that counts on from
ten. -/
theorem digitInBase?_cases {base value : Nat} {c : Char}
    (isDigit : digitInBase? base c = some value) :
    value < base ∧ (c.isDigit = true ∨
      (10 ≤ value ∧ (c.toNat = value + 87 ∨ c.toNat = value + 55))) := by
  rcases Option.filter_eq_some_iff.mp isDigit with ⟨isValue, small⟩
  refine ⟨of_decide_eq_true small, ?_⟩
  unfold digitValue? at isValue
  by_cases isAscii : '0' ≤ c ∧ c ≤ '9'
  · exact .inl (Char.isDigit_iff_toNat.mpr isAscii)
  rw [if_neg isAscii] at isValue
  by_cases isLower : 'a' ≤ c ∧ c ≤ 'z'
  · rw [if_pos isLower] at isValue
    have lower : 97 ≤ c.toNat := isLower.1
    have isSum : c.toNat - 97 + 10 = value := Option.some.inj isValue
    exact .inr ⟨by omega, .inl (by omega)⟩
  rw [if_neg isLower] at isValue
  by_cases isUpper : 'A' ≤ c ∧ c ≤ 'Z'
  · rw [if_pos isUpper] at isValue
    have lower : 65 ≤ c.toNat := isUpper.1
    have isSum : c.toNat - 65 + 10 = value := Option.some.inj isValue
    exact .inr ⟨by omega, .inr (by omega)⟩
  · rw [if_neg isUpper] at isValue
    cases isValue

theorem exists_decimalChar_of_digitInBase? {c : Char} {value : Nat}
    (isDigit : digitInBase? 10 c = some value) :
    Exists fun digit => decimalChar digit = c := by
  rcases digitInBase?_cases isDigit with ⟨small, isAscii | ⟨large, isLetter⟩⟩
  · exact exists_decimalChar isAscii
  · omega

theorem HexDigit.exists_char_of_digitInBase? {c : Char} {value : Nat}
    (isDigit : digitInBase? 16 c = some value) :
    Exists fun digit => HexDigit.char digit = c := by
  have lowerLetters : forall value : Fin 16, 10 ≤ value.val ->
      (HexDigit.char ⟨value, false⟩).toNat = value.val + 87 := by
    decide
  have upperLetters : forall value : Fin 16, 10 ≤ value.val ->
      (HexDigit.char ⟨value, true⟩).toNat = value.val + 55 := by
    decide
  rcases digitInBase?_cases isDigit with ⟨small, isAscii | ⟨large, isLower | isUpper⟩⟩
  · rcases exists_decimalChar isAscii with ⟨digit, isChar⟩
    exact ⟨⟨digit.castLE (by decide), false⟩, isChar⟩
  · refine ⟨⟨⟨value, small⟩, false⟩, Char.toNat_inj.mp ?_⟩
    rw [lowerLetters ⟨value, small⟩ large, isLower]
  · refine ⟨⟨⟨value, small⟩, true⟩, Char.toNat_inj.mp ?_⟩
    rw [upperLetters ⟨value, small⟩ large, isUpper]

/-! ## Place value -/

theorem readNumeral?_of_ne_nil {text : List Char} (nonempty : text ≠ []) (base : Nat) :
    readNumeral? base text = readDigits? base 0 text := by
  rw [readNumeral?, List.isEmpty_eq_false_iff.mpr nonempty, if_neg Bool.false_ne_true]

/-- Digits that are read back one by one are read by place value. -/
theorem readDigits?_map {Digit : Type} {base : Nat} {char : Digit -> Char} {value : Digit -> Nat}
    (reads : forall digit, digitInBase? base (char digit) = some (value digit))
    (digits : List Digit) (number : Nat) :
    readDigits? base number (digits.map char) =
      some (number * base ^ digits.length + Nat.ofDigits base (digits.map value).reverse) := by
  induction digits generalizing number with
  | nil => simp [readDigits?]
  | cons digit rest inductionHypothesis =>
      rw [List.map_cons, readDigits?, reads digit]
      simp only [inductionHypothesis, List.map_cons, List.reverse_cons, List.length_cons,
        Nat.ofDigits_append, Nat.ofDigits_singleton, List.length_reverse, List.length_map]
      ring_nf

theorem readNumeral?_map {Digit : Type} {base : Nat} {char : Digit -> Char} {value : Digit -> Nat}
    (reads : forall digit, digitInBase? base (char digit) = some (value digit))
    {digits : List Digit} (nonempty : digits ≠ []) :
    readNumeral? base (digits.map char) = some (Nat.ofDigits base (digits.map value).reverse) := by
  have charsNonempty : digits.map char ≠ [] := fun isNil =>
    nonempty (List.map_eq_nil_iff.mp isNil)
  rw [readNumeral?_of_ne_nil charsNonempty, readDigits?_map reads, Nat.zero_mul, Nat.zero_add]

theorem exists_digits_of_readDigits? {Digit : Type} {base : Nat} {char : Digit -> Char}
    (covers : forall c value, digitInBase? base c = some value ->
      Exists fun digit => char digit = c)
    {text : List Char} {first number : Nat} (isRead : readDigits? base first text = some number) :
    Exists fun digits : List Digit => digits.map char = text := by
  induction text generalizing first with
  | nil => exact ⟨[], rfl⟩
  | cons c rest inductionHypothesis =>
      rw [readDigits?] at isRead
      cases isDigit : digitInBase? base c with
      | none =>
          rw [isDigit] at isRead
          cases isRead
      | some value =>
          rw [isDigit] at isRead
          rcases inductionHypothesis isRead with ⟨digits, areRest⟩
          rcases covers c value isDigit with ⟨digit, isChar⟩
          exact ⟨digit :: digits, by rw [List.map_cons, isChar, areRest]⟩

/-- A text that can be read is made of digits, one at least. -/
theorem exists_digits_of_readNumeral? {Digit : Type} {base : Nat} {char : Digit -> Char}
    (covers : forall c value, digitInBase? base c = some value ->
      Exists fun digit => char digit = c)
    {text : List Char} {number : Nat} (isRead : readNumeral? base text = some number) :
    Exists fun digits : List Digit => digits ≠ [] ∧ digits.map char = text := by
  cases text with
  | nil => cases isRead
  | cons c rest =>
      rw [readNumeral?_of_ne_nil (List.cons_ne_nil c rest)] at isRead
      rcases exists_digits_of_readDigits? covers isRead with ⟨digits, areText⟩
      refine ⟨digits, ?_, areText⟩
      intro isNil
      subst isNil
      cases areText

/-! ## Numerals without leading zeros -/

theorem readDigits?_append {base : Nat} (text rest : List Char) (number : Nat) :
    readDigits? base number (text ++ rest) =
      (readDigits? base number text).bind (fun number => readDigits? base number rest) := by
  induction text generalizing number with
  | nil => rfl
  | cons c text inductionHypothesis =>
      rw [List.cons_append, readDigits?, readDigits?]
      cases digitInBase? base c with
      | none => rfl
      | some digit => exact inductionHypothesis (number * base + digit)

theorem readDigits?_toDigits {base : Nat} (large : 1 < base) (small : base ≤ 16) (n : Nat) :
    readDigits? base 0 (Nat.toDigits base n) = some n := by
  induction n using Nat.strongRecOn with
  | ind n inductionHypothesis =>
      by_cases isDigit : n < base
      · rw [Nat.toDigits_of_lt_base isDigit, readDigits?, digitInBase?_digitChar isDigit small]
        simp [readDigits?]
      · have positive : 0 < n := by omega
        have remainderSmall : n % base < base := Nat.mod_lt n (by omega)
        rw [Nat.toDigits_of_base_le large (Nat.le_of_not_lt isDigit), readDigits?_append,
          inductionHypothesis (n / base) (Nat.div_lt_self positive large), Option.bind_some,
          readDigits?, digitInBase?_digitChar remainderSmall small]
        simp [readDigits?, Nat.div_add_mod']

/-- A number that is written without leading zeros is read back. -/
theorem readNumeral?_toDigits {base : Nat} (large : 1 < base) (small : base ≤ 16) (n : Nat) :
    readNumeral? base (Nat.toDigits base n) = some n := by
  rw [readNumeral?_of_ne_nil Nat.toDigits_ne_nil, readDigits?_toDigits large small]

end Text

namespace Listing

/-! ## Names of registers -/

theorem isDigitRun_of_isDigit {text : List Char} (nonempty : text ≠ [])
    (digits : forall c, c ∈ text -> c.isDigit = true) : isDigitRun text = true := by
  rw [isDigitRun, List.isEmpty_eq_false_iff.mpr nonempty]
  exact List.all_eq_true.mpr (fun c member => Text.isDecimalDigit_of_isDigit (digits c member))

theorem registerNumber?_of_readNumeral? {digits : List Char} {number : Nat}
    (isNumber : Text.readNumeral? 10 digits = some number) :
    registerNumber? digits =
      if number < UInt16.size then some (UInt16.ofNat number) else none := by
  rw [registerNumber?, isNumber, Option.filter_some]
  by_cases small : number < UInt16.size
  · rw [if_pos small, if_pos (decide_eq_true small), Option.map_some]
  · rw [if_neg small, if_neg (fun isTrue => small (of_decide_eq_true isTrue)), Option.map_none]

/-- The text is the letter of registers and a number in decimal digits. -/
inductive Names : Nat -> List Char -> Prop where
  | intro {digits : List (Fin 10)} (nonempty : digits ≠ []) :
      Names (Nat.ofDigits 10 (digits.map Fin.val).reverse)
        ('v' :: digits.map Text.decimalChar)

/-- What the readers find in the name of a register: digits that are recognised,
and a number that may be too large. -/
structure HasDigits (number : Nat) (name digits : List Char) : Prop where
  isName : name = 'v' :: digits
  nonempty : digits ≠ []
  areDigits : forall c, c ∈ digits -> c.isDigit = true
  isNumber : registerNumber? digits =
    if number < UInt16.size then some (UInt16.ofNat number) else none

theorem HasDigits.recognised {number : Nat} {name digits : List Char}
    (hasDigits : HasDigits number name digits) : registerDigits? name = some digits := by
  have digitRun := isDigitRun_of_isDigit hasDigits.nonempty hasDigits.areDigits
  rw [hasDigits.isName, registerDigits?, digitRun, if_pos rfl]

namespace Names

variable {number : Nat} {name : List Char} (names : Names number name)
include names

theorem exists_hasDigits : Exists fun digits => HasDigits number name digits := by
  cases names with
  | @intro digits nonempty =>
      have isRead := Text.readNumeral?_map Text.digitInBase?_decimalChar nonempty
      refine ⟨digits.map Text.decimalChar, rfl, ?_, ?_, registerNumber?_of_readNumeral? isRead⟩
      · exact fun isNil => nonempty (List.map_eq_nil_iff.mp isNil)
      · intro c member
        rcases List.mem_map.mp member with ⟨digit, _, isChar⟩
        exact isChar ▸ Text.isDigit_decimalChar digit

theorem isWord : IsWord name := by
  have ofDigit : forall digit,
      (!Text.isBlank (Text.decimalChar digit) && !isSpecial (Text.decimalChar digit)) = true := by
    decide
  rcases names.exists_hasDigits with ⟨digits, isName, _, areDigits, _⟩
  rw [isName]
  apply IsWord.of_all (List.cons_ne_nil _ _)
  rw [List.all_eq_true]
  intro c member
  cases member with
  | head => decide
  | tail _ member =>
      rcases Text.exists_decimalChar (areDigits c member) with ⟨digit, isChar⟩
      exact isChar ▸ ofDigit digit

/-- A name is read as a register, unless its number is too large. -/
theorem readOperand_eq (opcode : Opcode) :
    readOperand opcode name =
      if number < UInt16.size then .ok [.register (UInt16.ofNat number)]
      else .error .registerTooLarge := by
  rcases names.exists_hasDigits with ⟨digits, hasDigits⟩
  have recognised := hasDigits.recognised
  have isNumber := hasDigits.isNumber
  rw [hasDigits.isName] at recognised ⊢
  have notParameter : isParameter ('v' :: digits) = false := rfl
  have notGroup : forall group, 'v' :: digits = '\x7b' :: group -> False := by
    intro group isGroup
    cases isGroup
  rw [readOperand, notParameter, if_neg Bool.false_ne_true, recognised]
  · by_cases small : number < UInt16.size
    · rw [if_pos small] at isNumber ⊢
      simp only [isNumber]
    · rw [if_neg small] at isNumber ⊢
      simp only [isNumber]
  · exact notGroup

end Names

theorem names_registerName (register : UInt16) :
    Names register.toNat (registerName register).toList := by
  have isRead : Text.readNumeral? 10 (Nat.toDigits 10 register.toNat) = some register.toNat :=
    Text.readNumeral?_toDigits (by decide) (by decide) _
  have covers : forall c value, Text.digitInBase? 10 c = some value ->
      Exists fun digit => Text.decimalChar digit = c :=
    fun _ _ => Text.exists_decimalChar_of_digitInBase?
  rcases Text.exists_digits_of_readNumeral? covers isRead with ⟨digits, nonempty, areDigits⟩
  have isName : (registerName register).toList = 'v' :: digits.map Text.decimalChar := by
    simp [registerName, Text.decimal, String.toList_append, Nat.toList_repr, areDigits]
  rw [← areDigits, Text.readNumeral?_map Text.digitInBase?_decimalChar nonempty] at isRead
  rw [isName, ← Option.some.inj isRead]
  exact .intro nonempty

theorem isWord_registerName (register : UInt16) : IsWord (registerName register).toList :=
  (names_registerName register).isWord

/-- The name of a register is read as that register. -/
theorem readOperand_registerName (opcode : Opcode) (register : UInt16) :
    readOperand opcode (registerName register).toList = .ok [.register register] := by
  rw [(names_registerName register).readOperand_eq, if_pos register.toNat_lt_size,
    UInt16.ofNat_toNat]

end Listing

end DalvikFold
