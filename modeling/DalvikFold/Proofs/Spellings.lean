import DalvikFold.Proofs.Numerals

namespace DalvikFold

/-!
# Spellings of integers

A listing may write one integer in many ways: in decimal or in hexadecimal
digits of either case, with any number of leading zeros, with or without a plus
sign, and with a letter at its end that changes nothing.  Spellings describe
those texts apart from the reader, and their values are defined by place value
alone.  The reader takes every spelling apart as it was put together, so what it
finds is the value of the spelling, or an integer that sixty-four bits cannot
hold.
-/

/-- Whether sixty-four bits can hold an integer. -/
def FitsLong (n : Int) : Prop :=
  -2 ^ 63 ≤ n ∧ n < 2 ^ 63

instance (n : Int) : Decidable (FitsLong n) :=
  inferInstanceAs (Decidable (_ ∧ _))

namespace Listing

/-! ## Spellings -/

/-- The sign in front of a literal. -/
inductive Sign where
  | absent | plus | minus
  deriving Repr, DecidableEq

def Sign.text : Sign -> List Char
  | .absent => []
  | .plus => ['+']
  | .minus => ['-']

/-- The integer with a sign in front of it. -/
def Sign.apply (sign : Sign) (magnitude : Nat) : Int :=
  match sign with
  | .minus => -(magnitude : Int)
  | _ => magnitude

/-- The sign that an integer is written with. -/
def Sign.ofInt (n : Int) : Sign :=
  if n < 0 then .minus else .absent

theorem Sign.apply_ofInt (n : Int) : (ofInt n).apply n.natAbs = n := by
  by_cases negative : n < 0
  · rw [ofInt, if_pos negative, apply]
    omega
  · rw [ofInt, if_neg negative]
    change (n.natAbs : Int) = n
    omega

/-- The digits of a literal, the first one being the most significant.  The
mark of hexadecimal digits is in lower or upper case. -/
inductive Numeral where
  | decimal (digits : List (Fin 10)) (nonempty : digits ≠ [])
  | hexadecimal (upperMark : Bool) (digits : List Text.HexDigit) (nonempty : digits ≠ [])
  deriving Repr, DecidableEq

namespace Numeral

def base : Numeral -> Nat
  | .decimal _ _ => 10
  | .hexadecimal _ _ _ => 16

def digitChars : Numeral -> List Char
  | .decimal digits _ => digits.map Text.decimalChar
  | .hexadecimal _ digits _ => digits.map Text.HexDigit.char

/-- The digits with the mark in front of them, if they have one. -/
def text : Numeral -> List Char
  | .decimal digits _ => digits.map Text.decimalChar
  | .hexadecimal upperMark digits _ =>
      '0' :: (if upperMark then 'X' else 'x') :: digits.map Text.HexDigit.char

/-- The number that the digits stand for. -/
def magnitude : Numeral -> Nat
  | .decimal digits _ => Nat.ofDigits 10 (digits.map (fun digit => digit.val)).reverse
  | .hexadecimal _ digits _ => Nat.ofDigits 16 (digits.map (fun digit => digit.value.val)).reverse

end Numeral

/-- A spelling of an integer: digits, perhaps with a sign in front of them and
a letter behind them. -/
structure Spelling where
  sign : Sign
  numeral : Numeral
  suffix : Option { letter : Char // letter ∈ ['L', 'l', 'T', 't', 'S', 's'] }
  deriving Repr, DecidableEq

namespace Spelling

/-- The letter behind the digits, if there is one. -/
def suffixText (spelling : Spelling) : List Char :=
  (spelling.suffix.map (fun letter => letter.val)).toList

/-- The text of a spelling. -/
def text (spelling : Spelling) : List Char :=
  spelling.sign.text ++ spelling.numeral.text ++ spelling.suffixText

def value (spelling : Spelling) : Int :=
  spelling.sign.apply spelling.numeral.magnitude

end Spelling

/-! ## The characters of spellings -/

namespace Numeral

/-- The characters that numerals are made of. -/
def characters : List Char :=
  ['0', '1', '2', '3', '4', '5', '6', '7', '8', '9', 'a', 'b', 'c', 'd', 'e', 'f',
    'A', 'B', 'C', 'D', 'E', 'F', 'x', 'X']

theorem mem_characters_of_mem_text {numeral : Numeral} {c : Char} (member : c ∈ numeral.text) :
    c ∈ characters := by
  have decimalDigits : forall digit, Text.decimalChar digit ∈ characters := by decide
  have hexDigits : forall (value : Fin 16) (upper : Bool),
      Text.HexDigit.char ⟨value, upper⟩ ∈ characters := by decide
  have marks : forall upperMark : Bool, (if upperMark then 'X' else 'x') ∈ characters := by decide
  cases numeral with
  | decimal digits nonempty =>
      rcases List.mem_map.mp member with ⟨digit, isDigit, isChar⟩
      exact isChar ▸ decimalDigits digit
  | hexadecimal upperMark digits nonempty =>
      rcases List.mem_cons.mp member with isZero | member
      · exact isZero ▸ decimalDigits 0
      · rcases List.mem_cons.mp member with isMark | member
        · exact isMark ▸ marks upperMark
        · rcases List.mem_map.mp member with ⟨digit, isDigit, isChar⟩
          exact isChar ▸ hexDigits digit.value digit.upper

theorem digitChars_ne_nil (numeral : Numeral) : numeral.digitChars ≠ [] := by
  cases numeral with
  | decimal digits nonempty => exact fun isNil => nonempty (List.map_eq_nil_iff.mp isNil)
  | hexadecimal upperMark digits nonempty =>
      exact fun isNil => nonempty (List.map_eq_nil_iff.mp isNil)

theorem text_ne_nil (numeral : Numeral) : numeral.text ≠ [] := by
  cases numeral with
  | decimal digits nonempty => exact (decimal digits nonempty).digitChars_ne_nil
  | hexadecimal upperMark digits nonempty => exact List.cons_ne_nil _ _

end Numeral

namespace Spelling

/-- The characters that spellings are made of. -/
def characters : List Char :=
  Numeral.characters ++ ['+', '-', 'L', 'l', 'T', 't', 'S', 's']

theorem mem_characters_of_mem_text {spelling : Spelling} {c : Char}
    (member : c ∈ spelling.text) : c ∈ characters := by
  rcases spelling with ⟨sign, numeral, suffix⟩
  rcases List.mem_append.mp member with inBody | inSuffix
  · rcases List.mem_append.mp inBody with inSign | inNumeral
    · cases sign with
      | absent => cases inSign
      | plus => exact List.mem_singleton.mp inSign ▸ by decide
      | minus => exact List.mem_singleton.mp inSign ▸ by decide
    · exact List.mem_append_left _ (Numeral.mem_characters_of_mem_text inNumeral)
  · cases suffix with
    | none => cases inSuffix
    | some letter =>
        have isLetter : c = letter.val := List.mem_singleton.mp inSuffix
        exact List.mem_append_right _ (isLetter ▸ List.mem_cons_of_mem '+'
          (List.mem_cons_of_mem '-' letter.property))

theorem text_ne_nil (spelling : Spelling) : spelling.text ≠ [] := by
  intro isNil
  have bodyIsNil := (List.append_eq_nil_iff.mp isNil).1
  exact spelling.numeral.text_ne_nil (List.append_eq_nil_iff.mp bodyIsNil).2

private theorem getLast?_body {sign : Sign} {numeral : Numeral} {last : Char}
    (isLast : (sign.text ++ numeral.text).getLast? = some last) :
    last ∈ Numeral.characters := by
  rw [List.getLast?_append, List.getLast?_eq_some_getLast numeral.text_ne_nil,
    Option.some_or] at isLast
  exact Numeral.mem_characters_of_mem_text (Option.some.inj isLast ▸ List.getLast_mem _)

end Spelling

/-! ## Reading spellings -/

namespace Numeral

theorem readNumeral?_digitChars (numeral : Numeral) :
    Text.readNumeral? numeral.base numeral.digitChars = some numeral.magnitude := by
  cases numeral with
  | decimal digits nonempty => exact Text.readNumeral?_map Text.digitInBase?_decimalChar nonempty
  | hexadecimal upperMark digits nonempty =>
      exact Text.readNumeral?_map Text.HexDigit.digitInBase?_char nonempty

/-- Digits of a number without leading zeros have that number as their magnitude. -/
theorem magnitude_of_toDigits {numeral : Numeral} {n : Nat}
    (areDigits : numeral.digitChars = Nat.toDigits numeral.base n) : numeral.magnitude = n := by
  have bounds : 1 < numeral.base ∧ numeral.base ≤ 16 := by
    cases numeral with
    | decimal digits nonempty => exact ⟨Nat.le_of_ble_eq_true rfl, Nat.le_of_ble_eq_true rfl⟩
    | hexadecimal upperMark digits nonempty =>
        exact ⟨Nat.le_of_ble_eq_true rfl, Nat.le_of_ble_eq_true rfl⟩
  have isRead := numeral.readNumeral?_digitChars
  rw [areDigits, Text.readNumeral?_toDigits bounds.1 bounds.2] at isRead
  exact (Option.some.inj isRead).symm

end Numeral

private theorem Literal.unsigned?_of_isDigitRun {text : List Char}
    (digitRun : isDigitRun text = true)
    (negative : Bool) : unsigned? negative text = some ⟨negative, 10, text⟩ := by
  unfold unsigned?
  split
  case h_1 mark digits =>
    have isDigit : Text.isDecimalDigit mark = true := by
      simp [isDigitRun] at digitRun
      exact digitRun.2.1
    have notMark : ¬ (mark = 'x' ∨ mark = 'X') := by
      intro isMark
      rcases isMark with isMark | isMark
      · rw [isMark] at isDigit
        exact absurd isDigit (by decide)
      · rw [isMark] at isDigit
        exact absurd isDigit (by decide)
    rw [if_neg notMark, if_pos digitRun]
  case h_2 => rw [if_pos digitRun]

/-- A numeral is taken apart into its base and its digits. -/
theorem Numeral.unsigned?_text (numeral : Numeral) (negative : Bool) :
    Literal.unsigned? negative numeral.text =
      some ⟨negative, numeral.base, numeral.digitChars⟩ := by
  cases numeral with
  | decimal digits nonempty =>
      refine Literal.unsigned?_of_isDigitRun
        (isDigitRun_of_isDigit (decimal digits nonempty).digitChars_ne_nil ?_) negative
      intro c member
      rcases List.mem_map.mp member with ⟨digit, isMember, isChar⟩
      exact isChar ▸ Text.isDigit_decimalChar digit
  | hexadecimal upperMark digits nonempty =>
      have isMark : forall upperMark : Bool,
          (if upperMark then 'X' else 'x') = 'x' ∨ (if upperMark then 'X' else 'x') = 'X' := by
        decide
      have notEmpty : (digits.map Text.HexDigit.char).isEmpty = false :=
        List.isEmpty_eq_false_iff.mpr (hexadecimal upperMark digits nonempty).digitChars_ne_nil
      have areDigits : (digits.map Text.HexDigit.char).all
          (fun c => (Text.digitInBase? 16 c).isSome) = true := by
        rw [List.all_map]
        refine List.all_eq_true.mpr (fun digit member => ?_)
        rw [Function.comp_apply, digit.digitInBase?_char, Option.isSome_some]
      rw [text, Literal.unsigned?, if_pos (isMark upperMark), notEmpty, areDigits]
      rfl

theorem Numeral.ne_of_head {numeral : Numeral} {first : Char} {rest : List Char}
    (isText : numeral.text = first :: rest) {c : Char} (other : c ∉ characters) : first ≠ c := by
  intro same
  have member : first ∈ characters :=
    mem_characters_of_mem_text (isText ▸ List.mem_cons_self)
  exact other (same ▸ member)

namespace Spelling

/-- The letter behind a literal is dropped, and nothing else. -/
theorem dropSuffix_text (spelling : Spelling) :
    Literal.dropSuffix spelling.text = spelling.sign.text ++ spelling.numeral.text := by
  rcases spelling with ⟨sign, numeral, suffix⟩
  cases suffix with
  | none =>
      change Literal.dropSuffix (sign.text ++ numeral.text ++ []) = sign.text ++ numeral.text
      rw [List.append_nil, Literal.dropSuffix]
      cases hasLast : (sign.text ++ numeral.text).getLast? with
      | none => rfl
      | some last =>
          have noLetters : Numeral.characters.all (fun c => c ∉ Literal.suffixes) = true := by
            decide
          have notLetter := List.all_eq_true.mp noLetters last (getLast?_body hasLast)
          exact if_neg (of_decide_eq_true notLetter)
  | some letter =>
      change Literal.dropSuffix (sign.text ++ numeral.text ++ [letter.val]) =
        sign.text ++ numeral.text
      have isSuffix : letter.val ∈ Literal.suffixes := letter.property
      rw [Literal.dropSuffix, List.getLast?_concat]
      change (if letter.val ∈ Literal.suffixes then _ else _) = _
      rw [if_pos isSuffix, List.dropLast_concat]

def literal (spelling : Spelling) : Literal :=
  ⟨spelling.sign == .minus, spelling.numeral.base, spelling.numeral.digitChars⟩

/-- A spelling is taken apart as it was put together. -/
theorem ofText?_text (spelling : Spelling) :
    Literal.ofText? spelling.text = some spelling.literal := by
  rw [Literal.ofText?, dropSuffix_text]
  rcases spelling with ⟨sign, numeral, suffix⟩
  cases sign with
  | plus => exact numeral.unsigned?_text false
  | minus => exact numeral.unsigned?_text true
  | absent =>
      split
      case h_1 rest isText =>
        have isText : numeral.text = '-' :: rest := isText
        exact absurd rfl (Numeral.ne_of_head isText (by decide))
      case h_2 rest isText =>
        have isText : numeral.text = '+' :: rest := isText
        exact absurd rfl (Numeral.ne_of_head isText (by decide))
      case h_3 => exact numeral.unsigned?_text false

/-- The integer that is read from a spelling is the one that is spelled. -/
theorem integer?_literal (spelling : Spelling) :
    spelling.literal.integer? = some spelling.value := by
  rw [Literal.integer?, literal, Numeral.readNumeral?_digitChars]
  rcases spelling with ⟨sign, numeral, suffix⟩
  cases sign with
  | absent => rfl
  | plus => rfl
  | minus => rfl

/-- A spelling is read as its value, unless sixty-four bits cannot hold it. -/
theorem value?_literal (spelling : Spelling) :
    spelling.literal.value? =
      if FitsLong spelling.value then some (Int64.ofInt spelling.value) else none := by
  have least : Int64.minValue.toInt = -2 ^ 63 := by decide
  have greatest : Int64.maxValue.toInt = 2 ^ 63 - 1 := by decide
  have sameRange : (decide (-2 ^ 63 ≤ spelling.value) &&
      decide (spelling.value ≤ 2 ^ 63 - 1)) = true <-> FitsLong spelling.value := by
    rw [Bool.and_eq_true, decide_eq_true_iff, decide_eq_true_iff, FitsLong]
    omega
  rw [Literal.value?, integer?_literal, least, greatest, Option.filter]
  by_cases fits : FitsLong spelling.value
  · rw [if_pos fits, if_pos (sameRange.mpr fits), Option.map_some]
  · rw [if_neg fits, if_neg (fun inRange => fits (sameRange.mp inRange)), Option.map_none]

end Spelling

/-! ## Literals in ASCII digits are spellings -/

/-- A literal whose digits can be read is a numeral after its sign. -/
theorem Numeral.exists_text_of_unsigned? {negative : Bool} {text : List Char} {literal : Literal}
    {number : Nat} (isLiteral : Literal.unsigned? negative text = some literal)
    (isRead : Text.readNumeral? literal.base literal.digits = some number) :
    Exists fun numeral : Numeral => numeral.text = text := by
  have ofDecimal : forall text, Text.readNumeral? 10 text = some number ->
      Exists fun numeral : Numeral => numeral.text = text := by
    intro text isRead
    rcases Text.exists_digits_of_readNumeral?
      (fun c value => Text.exists_decimalChar_of_digitInBase?) isRead
      with ⟨digits, nonempty, areText⟩
    exact ⟨.decimal digits nonempty, areText⟩
  unfold Literal.unsigned? at isLiteral
  split at isLiteral
  case h_1 mark digits =>
    by_cases isMark : mark = 'x' ∨ mark = 'X'
    · rw [if_pos isMark] at isLiteral
      split at isLiteral
      · cases isLiteral
        rcases Text.exists_digits_of_readNumeral?
          (fun c value => Text.HexDigit.exists_char_of_digitInBase?) isRead
          with ⟨hexDigits, nonempty, areDigits⟩
        refine ⟨.hexadecimal (mark == 'X') hexDigits nonempty, ?_⟩
        rw [text, areDigits]
        rcases isMark with isMark | isMark
        · rw [isMark]
          rfl
        · rw [isMark]
          rfl
      · cases isLiteral
    · rw [if_neg isMark] at isLiteral
      split at isLiteral
      · cases isLiteral
        exact ofDecimal _ isRead
      · cases isLiteral
  case h_2 =>
    split at isLiteral
    · cases isLiteral
      exact ofDecimal _ isRead
    · cases isLiteral

namespace Spelling

private theorem exists_suffix (text : List Char) :
    Exists fun suffix : Option { letter : Char // letter ∈ ['L', 'l', 'T', 't', 'S', 's'] } =>
      Literal.dropSuffix text ++ (suffix.map (fun letter => letter.val)).toList = text := by
  unfold Literal.dropSuffix
  cases hasLast : text.getLast? with
  | none => exact ⟨none, List.append_nil text⟩
  | some last =>
      by_cases isSuffix : last ∈ Literal.suffixes
      · rcases List.getLast?_eq_some_iff.mp hasLast with ⟨body, isText⟩
        refine ⟨some ⟨last, isSuffix⟩, ?_⟩
        simp only [if_pos isSuffix, isText, List.dropLast_concat]
        rfl
      · refine ⟨none, ?_⟩
        simp only [if_neg isSuffix]
        exact List.append_nil text

/-- The spellings of an integer are the literals in ASCII digits that stand for
that integer. -/
theorem exists_text_iff (text : List Char) (n : Int) :
    (Exists fun spelling : Spelling => spelling.text = text ∧ spelling.value = n) <->
      (Literal.ofText? text).bind Literal.integer? = some n := by
  constructor
  · rintro ⟨spelling, isText, isValue⟩
    rw [← isText, ofText?_text, Option.bind_some, integer?_literal, isValue]
  · intro isInteger
    rcases Option.bind_eq_some_iff.mp isInteger with ⟨literal, isLiteral, isNumber⟩
    have isRead : Exists fun number =>
        Text.readNumeral? literal.base literal.digits = some number := by
      cases isRead : Text.readNumeral? literal.base literal.digits with
      | some number => exact ⟨number, rfl⟩
      | none =>
          rw [Literal.integer?, isRead] at isNumber
          cases isNumber
    rcases isRead with ⟨number, isRead⟩
    rcases exists_suffix text with ⟨suffix, isText⟩
    have spelled : Exists fun spelling : Spelling => spelling.text = text := by
      unfold Literal.ofText? at isLiteral
      split at isLiteral
      case h_1 rest isBody =>
        rcases Numeral.exists_text_of_unsigned? isLiteral isRead with ⟨numeral, isNumeral⟩
        exact ⟨⟨.minus, numeral, suffix⟩, by rw [← isText, isBody, ← isNumeral]; rfl⟩
      case h_2 rest isBody =>
        rcases Numeral.exists_text_of_unsigned? isLiteral isRead with ⟨numeral, isNumeral⟩
        exact ⟨⟨.plus, numeral, suffix⟩, by rw [← isText, isBody, ← isNumeral]; rfl⟩
      case h_3 =>
        rcases Numeral.exists_text_of_unsigned? isLiteral isRead with ⟨numeral, isNumeral⟩
        exact ⟨⟨.absent, numeral, suffix⟩, by rw [← isText, ← isNumeral]; rfl⟩
    rcases spelled with ⟨spelling, isSpelling⟩
    rw [← isSpelling, ofText?_text, Option.bind_some, integer?_literal] at isInteger
    exact ⟨spelling, isSpelling, Option.some.inj isInteger⟩

/-- Every integer can be spelled. -/
theorem exists_value (n : Int) : Exists fun spelling : Spelling => spelling.value = n := by
  have isRead : Text.readNumeral? 10 (Nat.toDigits 10 n.natAbs) = some n.natAbs :=
    Text.readNumeral?_toDigits (by decide) (by decide) n.natAbs
  rcases Text.exists_digits_of_readNumeral?
      (fun c value => Text.exists_decimalChar_of_digitInBase?) isRead
    with ⟨digits, nonempty, areDigits⟩
  have isMagnitude : (Numeral.decimal digits nonempty).magnitude = n.natAbs :=
    Numeral.magnitude_of_toDigits areDigits
  refine ⟨⟨.ofInt n, .decimal digits nonempty, none⟩, ?_⟩
  rw [value, isMagnitude, Sign.apply_ofInt]

/-- A literal is printed as a spelling of its value. -/
theorem exists_text_eq_signedHexadecimal (n : Int) :
    Exists fun spelling : Spelling =>
      spelling.text = (Text.signedHexadecimal n).toList ∧ spelling.value = n := by
  have isRead : Text.readNumeral? 16 (Nat.toDigits 16 n.natAbs) = some n.natAbs :=
    Text.readNumeral?_toDigits (by decide) (by decide) n.natAbs
  rcases Text.exists_digits_of_readNumeral?
      (fun c value => Text.HexDigit.exists_char_of_digitInBase?) isRead
    with ⟨digits, nonempty, areDigits⟩
  have isMagnitude : (Numeral.hexadecimal false digits nonempty).magnitude = n.natAbs :=
    Numeral.magnitude_of_toDigits areDigits
  refine ⟨⟨.ofInt n, .hexadecimal false digits nonempty, none⟩, ?_, ?_⟩
  · change Sign.text (.ofInt n) ++ '0' :: 'x' :: digits.map Text.HexDigit.char ++ [] = _
    rw [areDigits, List.append_nil, Text.signedHexadecimal, Text.hexadecimal,
      String.toList_append, Sign.ofInt]
    by_cases negative : n < 0
    · rw [if_pos negative, if_pos negative, String.toList_ofList, String.toList_ofList]
      rfl
    · rw [if_neg negative, if_neg negative, String.toList_ofList, String.toList_ofList]
      rfl
  · rw [value, isMagnitude, Sign.apply_ofInt]

end Spelling

/-! ## Operands -/

theorem Spelling.isWord_text (spelling : Spelling) : IsWord spelling.text := by
  have areOrdinary : characters.all (fun c => !Text.isBlank c && !isSpecial c) = true := by decide
  apply IsWord.of_all spelling.text_ne_nil
  rw [List.all_eq_true]
  intro c member
  exact List.all_eq_true.mp areOrdinary c (mem_characters_of_mem_text member)

/-- A text that is a literal is read as one, unless its first character says
that it is something else. -/
theorem readOperand_of_literal {first : Char} {rest : List Char} {literal : Literal}
    (plain : first ∉ ['\x7b', 'p', 'v', ':', '"'])
    (isLiteral : Literal.ofText? (first :: rest) = some literal) (opcode : Opcode) :
    readOperand opcode (first :: rest) =
      match literal.value? with
      | some value => .ok [.literal value]
      | none => .error .literalOutOfRange := by
  have notHead : forall c, c ∈ ['\x7b', 'p', 'v', ':', '"'] ->
      forall tail, first :: rest = c :: tail -> False := by
    intro c member tail isText
    exact plain ((List.cons.inj isText).1 ▸ member)
  have notParameter : isParameter (first :: rest) = false := by
    rw [isParameter]
    exact notHead 'p' (by decide)
  have notRegister : registerDigits? (first :: rest) = none := by
    rw [registerDigits?]
    exact notHead 'v' (by decide)
  have isConstant : readConstant opcode (first :: rest) =
      match literal.value? with
      | some value => .ok (.literal value)
      | none => .error .literalOutOfRange := by
    rw [readConstant]
    · cases isValue : literal.value? with
      | none => simp only [isLiteral, isValue]
      | some value => simp only [isLiteral, isValue]
    · exact notHead ':' (by decide)
    · exact notHead '"' (by decide)
  rw [readOperand, notParameter, notRegister, isConstant]
  · cases literal.value? with
    | none => rfl
    | some value => rfl
  · exact notHead '\x7b' (by decide)

/-- A spelling is read as the literal that it spells. -/
theorem readOperand_spelling (opcode : Opcode) (spelling : Spelling) :
    readOperand opcode spelling.text =
      if FitsLong spelling.value then
        .ok [.literal (Int64.ofInt spelling.value)]
      else
        .error .literalOutOfRange := by
  cases isText : spelling.text with
  | nil => exact absurd isText spelling.text_ne_nil
  | cons first rest =>
      have member : first ∈ Spelling.characters :=
        Spelling.mem_characters_of_mem_text (isText ▸ List.mem_cons_self)
      have arePlain : Spelling.characters.all
          (fun c => c ∉ ['\x7b', 'p', 'v', ':', '"']) = true := by
        decide
      have plain : first ∉ ['\x7b', 'p', 'v', ':', '"'] :=
        of_decide_eq_true (List.all_eq_true.mp arePlain first member)
      have isLiteral : Literal.ofText? (first :: rest) = some spelling.literal :=
        isText ▸ spelling.ofText?_text
      rw [readOperand_of_literal plain isLiteral, Spelling.value?_literal]
      by_cases fits : FitsLong spelling.value
      · simp only [if_pos fits]
      · simp only [if_neg fits]

end Listing

end DalvikFold
