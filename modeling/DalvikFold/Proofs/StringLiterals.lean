import DalvikFold.Listing.Operand
import DalvikFold.Proofs.Numerals

namespace DalvikFold

/-!
# What is read as a string

A string literal is a quote, items and a quote.  An item stands for one
character: it is that character itself, an escape of one letter, or the four
hexadecimal digits of a code point.  Quotes and backslashes do not stand for
themselves.  Literals of this kind are described here as a grammar, apart from
the reader, and the code point of an escape is the place value of its digits.

The reader takes every literal of the grammar and finds the characters that its
items stand for.  It takes two more items, which are kept apart from the others:
a quote that no backslash stands before, and a plus sign in the place of the
first digit of a code point.  A text with neither of them is read as a string
exactly if it is a literal, and everything else that starts with a quote is
malformed.
-/

namespace Text

/-- The number that hexadecimal digits stand for, the first one being the most
significant. -/
def HexDigit.placeValue (digits : List HexDigit) : Nat :=
  Nat.ofDigits 16 (digits.map (fun digit => digit.value.val)).reverse

theorem readNumeral?_hexadecimal_iff {text : List Char} {number : Nat} :
    readNumeral? 16 text = some number <->
      Exists fun digits : List HexDigit =>
        digits ≠ [] ∧ digits.map HexDigit.char = text ∧ HexDigit.placeValue digits = number := by
  constructor
  · intro isRead
    rcases exists_digits_of_readNumeral?
      (fun c value => HexDigit.exists_char_of_digitInBase?) isRead
      with ⟨digits, nonempty, areText⟩
    subst areText
    rw [readNumeral?_map HexDigit.digitInBase?_char nonempty] at isRead
    exact ⟨digits, nonempty, rfl, Option.some.inj isRead⟩
  · rintro ⟨digits, nonempty, areText, isNumber⟩
    rw [← areText, ← isNumber]
    exact readNumeral?_map HexDigit.digitInBase?_char nonempty

theorem HexDigit.char_ne_plus (digit : HexDigit) : digit.char ≠ '+' := by
  rcases digit with ⟨value, upper⟩
  revert value upper
  decide

/-- A plus sign may stand in front of the digits. -/
theorem readUnsigned?_hexadecimal_iff {text : List Char} {number : Nat} :
    readUnsigned? 16 text = some number <->
      Exists fun digits : List HexDigit => digits ≠ [] ∧
        (digits.map HexDigit.char = text ∨ '+' :: digits.map HexDigit.char = text) ∧
        HexDigit.placeValue digits = number := by
  unfold readUnsigned?
  split
  case h_1 text =>
    rw [readNumeral?_hexadecimal_iff]
    constructor
    · rintro ⟨digits, nonempty, areText, isNumber⟩
      exact ⟨digits, nonempty, .inr (congrArg _ areText), isNumber⟩
    · rintro ⟨digits, nonempty, areText | areText, isNumber⟩
      · cases digits with
        | nil => exact absurd rfl nonempty
        | cons digit digits => exact absurd (List.cons.inj areText).1 digit.char_ne_plus
      · exact ⟨digits, nonempty, (List.cons.inj areText).2, isNumber⟩
  case h_2 unsigned =>
    rw [readNumeral?_hexadecimal_iff]
    constructor
    · rintro ⟨digits, nonempty, areText, isNumber⟩
      exact ⟨digits, nonempty, .inl areText, isNumber⟩
    · rintro ⟨digits, nonempty, areText | areText, isNumber⟩
      · exact ⟨digits, nonempty, areText, isNumber⟩
      · exact absurd areText.symm (unsigned _)

end Text

namespace Listing

/-! ## Items -/

/-- The letters of escapes, with the characters that they stand for. -/
def escapeLetters : List (Char × Char) :=
  [('n', '\n'), ('t', '\t'), ('r', '\r'), ('b', '\x08'), ('f', '\x0c'), ('0', '\x00'),
    ('"', '"'), ('\x27', '\x27'), ('\\', '\\')]

/-- The ways to write a character inside of a literal. -/
inductive StringItem : List Char -> Char -> Prop where
  | itself {c : Char} (notQuote : c ≠ '"') (notBackslash : c ≠ '\\') : StringItem [c] c
  | escape {letter c : Char} (isEscape : (letter, c) ∈ escapeLetters) :
      StringItem ['\\', letter] c
  | codePoint {digits : List Text.HexDigit} {c : Char} (four : digits.length = 4)
      (isCode : Text.HexDigit.placeValue digits = c.toNat) :
      StringItem ('\\' :: 'u' :: digits.map Text.HexDigit.char) c

/-- What the reader takes for a character besides. -/
inductive LooseItem : List Char -> Char -> Prop where
  | quote : LooseItem ['"'] '"'
  | signedCodePoint {digits : List Text.HexDigit} {c : Char} (three : digits.length = 3)
      (isCode : Text.HexDigit.placeValue digits = c.toNat) :
      LooseItem ('\\' :: 'u' :: '+' :: digits.map Text.HexDigit.char) c

/-- Everything that the reader takes for a character. -/
def ReadItem (text : List Char) (c : Char) : Prop :=
  StringItem text c ∨ LooseItem text c

/-- The text is made of items of some kind, which stand for the characters. -/
inductive Spells (Item : List Char -> Char -> Prop) : List Char -> List Char -> Prop where
  | nil : Spells Item [] []
  | cons {text others decoded : List Char} {c : Char} (first : Item text c)
      (rest : Spells Item others decoded) : Spells Item (text ++ others) (c :: decoded)

/-- The text is a literal of such items. -/
def IsLiteral (Item : List Char -> Char -> Prop) (text decoded : List Char) : Prop :=
  Exists fun body => text = '"' :: (body ++ ['"']) ∧ Spells Item body decoded

/-- Apart from the backslash, every character is read as itself. -/
theorem ReadItem.of_ne_backslash {c : Char} (notBackslash : c ≠ '\\') : ReadItem [c] c := by
  by_cases isQuote : c = '"'
  · subst isQuote
    exact .inr .quote
  · exact .inl (.itself isQuote notBackslash)

theorem Spells.mono {Item Wider : List Char -> Char -> Prop}
    (wider : forall text c, Item text c -> Wider text c) {text decoded : List Char}
    (spelled : Spells Item text decoded) : Spells Wider text decoded := by
  induction spelled with
  | nil => exact .nil
  | cons first _ inductionHypothesis => exact .cons (wider _ _ first) inductionHypothesis

/-! ## Reading items -/

theorem escapedChar?_eq_some_iff {letter c : Char} :
    escapedChar? letter = some c <-> (letter, c) ∈ escapeLetters := by
  constructor
  · intro decoded
    unfold escapedChar? at decoded
    split at decoded
    all_goals first
      | cases decoded; decide
      | cases decoded
  · intro member
    simp only [escapeLetters, List.mem_cons, Prod.mk.injEq, List.not_mem_nil, or_false] at member
    rcases member with ⟨rfl, rfl⟩ | ⟨rfl, rfl⟩ | ⟨rfl, rfl⟩ | ⟨rfl, rfl⟩ | ⟨rfl, rfl⟩ |
      ⟨rfl, rfl⟩ | ⟨rfl, rfl⟩ | ⟨rfl, rfl⟩ | ⟨rfl, rfl⟩
    all_goals rfl

theorem scalar?_eq_some_iff {code : Nat} {c : Char} : scalar? code = some c <-> code = c.toNat := by
  unfold scalar?
  constructor
  · intro isScalar
    by_cases valid : code.isValidChar
    · rw [if_pos valid] at isScalar
      cases isScalar
      rw [Char.ofNat, dif_pos valid]
      rfl
    · rw [if_neg valid] at isScalar
      cases isScalar
  · intro isCode
    subst isCode
    have valid : c.toNat.isValidChar := c.valid
    rw [if_pos valid, Char.ofNat_toNat]

/-- The numeral in an escape has four digits, or a plus sign and three. -/
theorem codePoint?_eq_some_iff {numeral : List Char} {c : Char} (four : numeral.length = 4) :
    codePoint? numeral = some c <->
      Exists fun digits : List Text.HexDigit =>
        Text.HexDigit.placeValue digits = c.toNat ∧
          (digits.length = 4 ∧ digits.map Text.HexDigit.char = numeral ∨
            digits.length = 3 ∧ '+' :: digits.map Text.HexDigit.char = numeral) := by
  rw [codePoint?, Option.bind_eq_some_iff]
  constructor
  · rintro ⟨number, isRead, isScalar⟩
    rcases Text.readUnsigned?_hexadecimal_iff.mp isRead with ⟨digits, _, areNumeral, isNumber⟩
    refine ⟨digits, isNumber.trans (scalar?_eq_some_iff.mp isScalar), ?_⟩
    rcases areNumeral with areNumeral | areNumeral
    · refine .inl ⟨?_, areNumeral⟩
      rw [← four, ← areNumeral, List.length_map]
    · refine .inr ⟨?_, areNumeral⟩
      rw [← areNumeral, List.length_cons, List.length_map] at four
      exact Nat.succ.inj four
  · rintro ⟨digits, isCode, areNumeral⟩
    refine ⟨c.toNat, Text.readUnsigned?_hexadecimal_iff.mpr ⟨digits, ?_, ?_, isCode⟩,
      scalar?_eq_some_iff.mpr rfl⟩
    · intro isNil
      subst isNil
      rcases areNumeral with ⟨isZero, _⟩ | ⟨isZero, _⟩ <;> cases isZero
    · exact areNumeral.imp And.right And.right

theorem unescape?_cons {c : Char} (notBackslash : c ≠ '\\') (rest : List Char) :
    unescape? (c :: rest) = (unescape? rest).map (c :: ·) := by
  rw [unescape?]
  · exact fun _ _ _ _ _ isBackslash => absurd isBackslash notBackslash
  · exact fun _ _ isBackslash => absurd isBackslash notBackslash
  · exact fun isBackslash => absurd isBackslash notBackslash

private theorem unescape?_escape {letter c : Char} (isEscape : (letter, c) ∈ escapeLetters)
    (rest : List Char) :
    unescape? ('\\' :: letter :: rest) = (unescape? rest).map (c :: ·) := by
  have decoded := escapedChar?_eq_some_iff.mpr isEscape
  have notCodePoint : letter ≠ 'u' := by
    intro isLetter
    rw [isLetter] at decoded
    cases decoded
  rw [unescape?, decoded]
  exact fun _ _ _ _ _ isLetter => absurd isLetter notCodePoint

theorem unescape?_codePoint {numeral : List Char} {c : Char} (four : numeral.length = 4)
    (isCode : codePoint? numeral = some c) (rest : List Char) :
    unescape? ('\\' :: 'u' :: (numeral ++ rest)) = (unescape? rest).map (c :: ·) := by
  match numeral, four with
  | [first, second, third, fourth], _ =>
      change unescape? ('\\' :: 'u' :: first :: second :: third :: fourth :: rest) = _
      rw [unescape?, isCode]

/-- An item is read as its character, and leaves what follows it as it is. -/
theorem ReadItem.unescape?_append {text : List Char} {c : Char} (item : ReadItem text c)
    (rest : List Char) : unescape? (text ++ rest) = (unescape? rest).map (c :: ·) := by
  rcases item with item | item
  · cases item with
    | itself notQuote notBackslash => exact unescape?_cons notBackslash rest
    | escape isEscape => exact unescape?_escape isEscape rest
    | @codePoint digits c four isCode =>
        have isLong : (digits.map Text.HexDigit.char).length = 4 := by rw [List.length_map, four]
        exact unescape?_codePoint isLong
          ((codePoint?_eq_some_iff isLong).mpr ⟨digits, isCode, .inl ⟨four, rfl⟩⟩) rest
  · cases item with
    | quote => exact unescape?_cons (by decide) rest
    | @signedCodePoint digits c three isCode =>
        have isLong : ('+' :: digits.map Text.HexDigit.char).length = 4 := by
          rw [List.length_cons, List.length_map, three]
        exact unescape?_codePoint isLong
          ((codePoint?_eq_some_iff isLong).mpr ⟨digits, isCode, .inr ⟨three, rfl⟩⟩) rest

/-- Text is read if it is made of items, and then as what they stand for. -/
theorem unescape?_eq_some_iff {text decoded : List Char} :
    unescape? text = some decoded <-> Spells ReadItem text decoded := by
  constructor
  · intro isRead
    fun_induction unescape? text generalizing decoded with
    | case1 =>
        cases isRead
        exact .nil
    | case2 first second third fourth rest c isCode inductionHypothesis =>
        rcases Option.map_eq_some_iff.mp isRead with ⟨others, restRead, isDecoded⟩
        subst isDecoded
        have spelled := inductionHypothesis restRead
        rcases (codePoint?_eq_some_iff rfl).mp isCode with
          ⟨digits, isValue, ⟨four, areDigits⟩ | ⟨three, areDigits⟩⟩
        · have item : StringItem ('\\' :: 'u' :: digits.map Text.HexDigit.char) c :=
            .codePoint four isValue
          rw [areDigits] at item
          exact .cons (.inl item) spelled
        · have item : LooseItem ('\\' :: 'u' :: '+' :: digits.map Text.HexDigit.char) c :=
            .signedCodePoint three isValue
          rw [areDigits] at item
          exact .cons (.inr item) spelled
    | case3 => cases isRead
    | case4 letter rest _ c isEscape inductionHypothesis =>
        rcases Option.map_eq_some_iff.mp isRead with ⟨others, restRead, isDecoded⟩
        subst isDecoded
        exact .cons (.inl (.escape (escapedChar?_eq_some_iff.mp isEscape)))
          (inductionHypothesis restRead)
    | case5 => cases isRead
    | case6 => cases isRead
    | case7 c rest _ notEscape notLast inductionHypothesis =>
        rcases Option.map_eq_some_iff.mp isRead with ⟨others, restRead, isDecoded⟩
        subst isDecoded
        have notBackslash : c ≠ '\\' := by
          intro isBackslash
          cases rest with
          | nil => exact notLast isBackslash rfl
          | cons letter rest => exact notEscape letter rest isBackslash rfl
        exact .cons (.of_ne_backslash notBackslash) (inductionHypothesis restRead)
  · intro spelled
    induction spelled with
    | nil => rfl
    | cons first rest inductionHypothesis =>
        rw [ReadItem.unescape?_append first, inductionHypothesis, Option.map_some]

/-! ## Literals -/

theorem stringLiteral?_eq_some_iff {text decoded : List Char} :
    stringLiteral? text = some decoded <-> IsLiteral ReadItem text decoded := by
  constructor
  · intro isRead
    unfold stringLiteral? at isRead
    split at isRead
    case h_1 rest =>
      by_cases endsInQuote : rest.getLast? = some '"'
      · rcases List.getLast?_eq_some_iff.mp endsInQuote with ⟨body, isRest⟩
        subst isRest
        rw [if_pos endsInQuote, List.dropLast_concat] at isRead
        exact ⟨body, rfl, unescape?_eq_some_iff.mp isRead⟩
      · rw [if_neg endsInQuote] at isRead
        cases isRead
    case h_2 => cases isRead
  · rintro ⟨body, isText, spelled⟩
    rw [isText, stringLiteral?, List.getLast?_concat, if_pos rfl, List.dropLast_concat]
    exact unescape?_eq_some_iff.mpr spelled

/-- A text that starts with a quote is a string or malformed, whatever the opcode. -/
theorem readOperands_quoted (opcode : Opcode) {text : List Char}
    (isQuoted : text.head? = some '"') :
    readOperands opcode [text] =
      match stringLiteral? text with
      | some decoded => .ok [.string (String.ofList decoded)]
      | none => .error (.badOperand (String.ofList text) .malformedString) := by
  cases text with
  | nil => cases isQuoted
  | cons first rest =>
      cases isQuoted
      have isOperand : readOperand opcode ('"' :: rest) =
          (readConstant opcode ('"' :: rest)).map (fun operand => [operand]) := rfl
      rw [readOperands, isOperand, readConstant]
      cases stringLiteral? ('"' :: rest) with
      | none => rfl
      | some decoded => rfl

/-! ## Literals of the grammar -/

/-- Of two items at the start of one text, none is longer than the other. -/
theorem StringItem.text_unique {first second rest others : List Char} {c other : Char}
    (item : StringItem first c) (otherItem : StringItem second other)
    (same : first ++ rest = second ++ others) : first = second := by
  have notCodePoint : forall {letter c : Char}, (letter, c) ∈ escapeLetters -> letter ≠ 'u' := by
    intro letter c isEscape isLetter
    subst isLetter
    cases escapedChar?_eq_some_iff.mpr isEscape
  cases item with
  | itself notQuote notBackslash =>
      cases otherItem with
      | itself => exact congrArg (fun c => [c]) (List.cons.inj same).1
      | escape => exact absurd (List.cons.inj same).1 notBackslash
      | codePoint => exact absurd (List.cons.inj same).1 notBackslash
  | escape isEscape =>
      cases otherItem with
      | itself notQuote notBackslash => exact absurd (List.cons.inj same).1.symm notBackslash
      | escape =>
          have sameLetter := (List.cons.inj (List.cons.inj same).2).1
          exact congrArg (fun letter => ['\\', letter]) sameLetter
      | codePoint =>
          exact absurd (List.cons.inj (List.cons.inj same).2).1 (notCodePoint isEscape)
  | codePoint four =>
      cases otherItem with
      | itself notQuote notBackslash => exact absurd (List.cons.inj same).1.symm notBackslash
      | escape isEscape =>
          exact absurd (List.cons.inj (List.cons.inj same).2).1.symm (notCodePoint isEscape)
      | codePoint otherFour =>
          have sameLength := four.trans otherFour.symm
          rw [← List.length_map Text.HexDigit.char, ← List.length_map Text.HexDigit.char]
            at sameLength
          rw [(List.append_inj (List.cons.inj (List.cons.inj same).2).2 sameLength).1]

/-- What is not in the grammar does not start with an item of the grammar. -/
theorem LooseItem.not_stringItem {loose text after rest : List Char} {c other : Char}
    (isLoose : LooseItem loose c) (same : loose ++ after = text ++ rest) :
    ¬ StringItem text other := by
  intro item
  cases isLoose with
  | quote =>
      cases item with
      | itself notQuote => exact notQuote (List.cons.inj same).1.symm
      | escape => cases (List.cons.inj same).1
      | codePoint => cases (List.cons.inj same).1
  | signedCodePoint =>
      cases item with
      | itself _ notBackslash => exact notBackslash (List.cons.inj same).1.symm
      | escape isEscape =>
          rw [← (List.cons.inj (List.cons.inj same).2).1] at isEscape
          cases escapedChar?_eq_some_iff.mpr isEscape
      | @codePoint digits _ four =>
          cases digits with
          | nil => cases four
          | cons digit digits =>
              have areSame := (List.cons.inj (List.cons.inj same).2).2
              exact digit.char_ne_plus (List.cons.inj areSame).1.symm

/-- In the text, items of the grammar are followed by one that is not in it. -/
def LeavesGrammar (text : List Char) : Prop :=
  Exists fun before => Exists fun loose => Exists fun after => Exists fun decoded =>
    Exists fun c => text = before ++ (loose ++ after) ∧ Spells StringItem before decoded ∧
      LooseItem loose c

theorem Spells.not_leavesGrammar {text decoded : List Char}
    (spelled : Spells StringItem text decoded) : ¬ LeavesGrammar text := by
  rintro ⟨before, loose, after, front, c, isText, beforeSpelled, isLoose⟩
  -- The items of the text are taken off together with those in front of the loose one.
  induction beforeSpelled generalizing text decoded with
  | nil =>
      cases spelled with
      | nil =>
          cases isLoose with
          | quote => cases isText
          | signedCodePoint => cases isText
      | cons item rest => exact isLoose.not_stringItem isText.symm item
  | cons first rest inductionHypothesis =>
      rw [List.append_assoc] at isText
      cases spelled with
      | nil =>
          cases first <;> cases isText
      | cons item others =>
          have same := first.text_unique item isText.symm
          subst same
          exact inductionHypothesis others (List.append_cancel_left isText)

/-- What is read stays in the grammar, or leaves it somewhere. -/
theorem Spells.grammatical_or_leaves {text decoded : List Char}
    (spelled : Spells ReadItem text decoded) :
    Spells StringItem text decoded ∨ LeavesGrammar text := by
  induction spelled with
  | nil => exact .inl .nil
  | @cons first others decoded c item rest inductionHypothesis =>
      rcases item with item | isLoose
      · rcases inductionHypothesis with
          grammatical | ⟨before, loose, after, front, other, isText, beforeSpelled, isLoose⟩
        · exact .inl (.cons item grammatical)
        · refine .inr ⟨first ++ before, loose, after, c :: front, other, ?_,
            .cons item beforeSpelled, isLoose⟩
          rw [isText, List.append_assoc]
      · exact .inr ⟨[], first, others, [], c, rfl, .nil, isLoose⟩

/-- A string literal that is read, but is not in the grammar. -/
def IsLooseLiteral (text : List Char) : Prop :=
  Exists fun body => Exists fun decoded => text = '"' :: (body ++ ['"']) ∧
    Spells ReadItem body decoded ∧ LeavesGrammar body

/-- Among the texts that are read as strings, the literals of the grammar are
those that never leave it. -/
theorem isLiteral_stringItem_iff {text decoded : List Char} :
    IsLiteral StringItem text decoded <->
      IsLiteral ReadItem text decoded ∧ ¬ IsLooseLiteral text := by
  constructor
  · rintro ⟨body, isText, spelled⟩
    refine ⟨⟨body, isText, spelled.mono (fun _ _ => .inl)⟩, ?_⟩
    rintro ⟨other, _, isOther, _, leaves⟩
    rw [isText] at isOther
    have sameBody := List.append_cancel_right (List.cons.inj isOther).2
    exact spelled.not_leavesGrammar (sameBody ▸ leaves)
  · rintro ⟨⟨body, isText, spelled⟩, notLoose⟩
    rcases spelled.grammatical_or_leaves with grammatical | leaves
    · exact ⟨body, isText, grammatical⟩
    · exact absurd ⟨body, decoded, isText, spelled, leaves⟩ notLoose

/-- The text is read as a string exactly if it is a literal of these items, and
is malformed otherwise. -/
structure ReadExactly (Item : List Char -> Char -> Prop) (opcode : Opcode) (text : List Char) :
    Prop where
  string : forall decoded : String, readOperands opcode [text] = .ok [.string decoded] <->
    IsLiteral Item text decoded.toList
  malformed : (forall decoded, ¬ IsLiteral Item text decoded) ->
    readOperands opcode [text] = .error (.badOperand (String.ofList text) .malformedString)

private theorem readExactly_readItem (opcode : Opcode) {text : List Char}
    (isQuoted : text.head? = some '"') : ReadExactly ReadItem opcode text := by
  have reading := readOperands_quoted opcode isQuoted
  constructor
  · intro decoded
    rw [← stringLiteral?_eq_some_iff, reading]
    cases stringLiteral? text with
    | none => simp
    | some characters => simp [← String.toList_inj]
  · intro notLiteral
    cases isRead : stringLiteral? text with
    | none => rw [reading, isRead]
    | some decoded => exact absurd (stringLiteral?_eq_some_iff.mp isRead) (notLiteral decoded)

/-- A text that starts with a quote is read as the string that it is a literal
of, with two items more than the grammar has.  The grammar itself describes
exactly what is read, unless the text is a literal with one of these two. -/
theorem quoted_readExactly (opcode : Opcode) {text : List Char}
    (isQuoted : text.head? = some '"') :
    ReadExactly ReadItem opcode text ∧
      (ReadExactly StringItem opcode text <-> ¬ IsLooseLiteral text) := by
  have readsItems := readExactly_readItem opcode isQuoted
  refine ⟨readsItems, ?_, ?_⟩
  · rintro grammatical ⟨body, decoded, isText, spelled, leaves⟩
    have isRead : readOperands opcode [text] = .ok [.string (String.ofList decoded)] := by
      rw [readsItems.string, String.toList_ofList]
      exact ⟨body, isText, spelled⟩
    rw [grammatical.string, isLiteral_stringItem_iff] at isRead
    exact isRead.2 ⟨body, decoded, isText, spelled, leaves⟩
  · intro notLoose
    have same : forall decoded,
        IsLiteral ReadItem text decoded <-> IsLiteral StringItem text decoded := by
      intro decoded
      rw [isLiteral_stringItem_iff]
      exact (and_iff_left notLoose).symm
    constructor
    · intro decoded
      rw [readsItems.string, same]
    · intro notLiteral
      apply readsItems.malformed
      intro decoded isLiteral
      exact notLiteral decoded ((same decoded).mp isLiteral)

/-- A literal with an escaped quote, a number sign and a code point. -/
def quoteAndCodePoint : List Char :=
  ['"', '\\', '"', '#', '\\', 'u', '0', '0', 'E', '9', '"']

theorem quoted_readExactly_quoteAndCodePoint :
    quoteAndCodePoint.head? = some '"' ∧ ¬ IsLooseLiteral quoteAndCodePoint ∧
      IsLiteral StringItem quoteAndCodePoint ['"', '#', '\u00e9'] ∧
      readOperands (.constant .string) [quoteAndCodePoint] = .ok [.string "\"#\u00e9"] := by
  have isQuoted : quoteAndCodePoint.head? = some '"' := rfl
  have digits : Text.HexDigit.placeValue [⟨0, false⟩, ⟨0, false⟩, ⟨14, true⟩, ⟨9, false⟩] =
      '\u00e9'.toNat := by
    decide
  have isLiteral : IsLiteral StringItem quoteAndCodePoint ['"', '#', '\u00e9'] :=
    ⟨_, rfl, .cons (.escape (by decide)) (.cons (.itself (by decide) (by decide))
      (.cons (.codePoint rfl digits) .nil))⟩
  have notLoose := (isLiteral_stringItem_iff.mp isLiteral).2
  have grammatical := (quoted_readExactly (.constant .string) isQuoted).2.mpr notLoose
  refine ⟨isQuoted, notLoose, isLiteral, (grammatical.string _).mpr ?_⟩
  rw [String.toList_ofList]
  exact isLiteral

/-- A code point that starts with a plus sign. -/
def signedLiteral : List Char :=
  ['"', '\\', 'u', '+', '0', '4', '1', '"']

/-- The grammar does not describe what is read: a sign is taken for a digit. -/
theorem signedLiteral_not_readExactly :
    signedLiteral.head? = some '"' ∧
      readOperands (.constant .string) [signedLiteral] = .ok [.string "A"] ∧
      ¬ ReadExactly StringItem (.constant .string) signedLiteral := by
  have digits : Text.HexDigit.placeValue [⟨0, false⟩, ⟨4, false⟩, ⟨1, false⟩] = 'A'.toNat := by
    decide
  have leaves : LeavesGrammar ['\\', 'u', '+', '0', '4', '1'] :=
    ⟨[], _, [], [], 'A', rfl, .nil, .signedCodePoint rfl digits⟩
  have read : readOperands (.constant .string) [signedLiteral] = .ok [.string "A"] := by
    decide
  refine ⟨rfl, read, fun grammatical => ?_⟩
  rcases (grammatical.string "A").mp read with ⟨body, isText, spelled⟩
  have isBody : body = ['\\', 'u', '+', '0', '4', '1'] :=
    (List.append_cancel_right (List.cons.inj isText).2).symm
  exact spelled.not_leavesGrammar (isBody ▸ leaves)

end Listing
end DalvikFold
