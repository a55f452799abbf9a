import DalvikFold.Proofs.Numerals
import DalvikFold.Proofs.SeparatingCommas

namespace DalvikFold

/-!
# Lists and ranges of registers

Registers are named one after the other, or the first and the last of them are
named.  Each way of writing them has its own reader, which recognises the names
and reads their numbers in its own order and finds fault with them in its own
words.  The readers agree on the numbers: every one of them is a register, or
one is too large.
-/

namespace Text

/-! ## Blanks around a text -/

/-- The text with blanks before and behind it. -/
inductive Padded (text : List Char) : List Char -> Prop where
  | intro {left right : List Char} (leftBlank : Blank left) (rightBlank : Blank right) :
      Padded text (left ++ (text ++ right))

theorem Padded.trim_eq {text padded : List Char} (isPadded : Padded text padded) :
    trim padded = trim text := by
  cases isPadded with
  | intro leftBlank rightBlank =>
      rw [trim_blank_append leftBlank, trim_append_blank rightBlank]

theorem padded_iff {text padded : List Char} (trimmed : Trimmed text) :
    Padded text padded <-> trim padded = text := by
  constructor
  · intro isPadded
    rw [isPadded.trim_eq, trimmed.trim_eq]
  · intro isText
    rcases exists_trim padded with ⟨left, right, isWhole, leftBlank, rightBlank⟩
    rw [isWhole, isText]
    exact .intro leftBlank rightBlank

theorem Padded.mem {text padded : List Char} (isPadded : Padded text padded) {c : Char}
    (member : c ∈ padded) : c ∈ text ∨ isBlank c = true := by
  cases isPadded with
  | intro leftBlank rightBlank =>
      rcases List.mem_append.mp member with inLeft | inRest
      · exact .inr (leftBlank c inLeft)
      · exact (List.mem_append.mp inRest).imp id (rightBlank c)

theorem trimLeft_blank_append {blanks text : List Char} (blankness : Blank blanks)
    (atLeft : forall c, text.head? = some c -> isBlank c = false) :
    trimLeft (blanks ++ text) = text := by
  rw [trimLeft, List.dropWhile_append_of_pos blankness]
  cases text with
  | nil => rfl
  | cons c text =>
      apply List.dropWhile_cons_of_neg
      rw [atLeft c rfl]
      exact Bool.false_ne_true

/-- Marks with blanks around them are found behind the blanks. -/
theorem Padded.exists_trimLeft_append {mark : Char} {marks padded : List Char}
    (isPadded : Padded (mark :: marks) padded) (notBlank : isBlank mark = false)
    (rest : List Char) :
    Exists fun right => Blank right ∧
      trimLeft (padded ++ rest) = mark :: (marks ++ (right ++ rest)) := by
  cases isPadded with
  | @intro left right leftBlank rightBlank =>
      refine ⟨right, rightBlank, ?_⟩
      rw [List.append_assoc left, trimLeft_blank_append leftBlank]
      · exact congrArg (mark :: ·) (List.append_assoc marks right rest)
      · intro c isFirst
        cases isFirst
        exact notBlank

theorem Trimmed.singleton {c : Char} (notBlank : isBlank c = false) : Trimmed [c] :=
  .of_unbroken (fun _ member => List.mem_singleton.mp member ▸ notBlank)

theorem Trimmed.append {first last : List Char} (firstTrimmed : Trimmed first)
    (firstNonempty : first ≠ []) (lastTrimmed : Trimmed last) (lastNonempty : last ≠ [])
    (middle : List Char) : Trimmed (first ++ (middle ++ last)) where
  atLeft c isFirst := by
    rw [List.head?_append, List.head?_eq_some_head firstNonempty, Option.some_or,
      ← List.head?_eq_some_head] at isFirst
    exact firstTrimmed.atLeft c isFirst
  atRight c isLast := by
    rw [← List.append_assoc, List.getLast?_append, List.getLast?_eq_some_getLast lastNonempty,
      Option.some_or, ← List.getLast?_eq_some_getLast] at isLast
    exact lastTrimmed.atRight c isLast

/-! ## The end of a number -/

/-- No blank is a digit of any script. -/
theorem isDecimalDigit_of_isBlank {c : Char} (blankness : isBlank c = true) :
    isDecimalDigit c = false := by
  have noBlanks : digitZeros.all (fun first =>
      (List.range 10).all (fun digit => !isBlank (Char.ofNat (first + digit)))) = true := by
    decide +kernel
  cases isDigit : isDecimalDigit c with
  | false => rfl
  | true =>
      rcases List.any_eq_true.mp isDigit with ⟨first, isZero, inRun⟩
      rw [Bool.and_eq_true, decide_eq_true_iff, decide_eq_true_iff] at inRun
      have small : c.toNat - first < 10 := by omega
      have ofRun := List.all_eq_true.mp noBlanks first isZero
      have notBlank := List.all_eq_true.mp ofRun (c.toNat - first) (List.mem_range.mpr small)
      rw [Nat.add_sub_cancel' inRun.1, Char.ofNat_toNat, blankness] at notBlank
      cases notBlank

/-- A run of digits ends where the digits end. -/
theorem takeWhile_isDecimalDigit_append {digits rest : List Char}
    (areDigits : forall c, c ∈ digits -> c.isDigit = true)
    (stops : forall c, rest.head? = some c -> isDecimalDigit c = false) :
    (digits ++ rest).takeWhile isDecimalDigit = digits ∧
      (digits ++ rest).dropWhile isDecimalDigit = rest := by
  have areDigits : forall c, c ∈ digits -> isDecimalDigit c = true :=
    fun c member => isDecimalDigit_of_isDigit (areDigits c member)
  rw [List.takeWhile_append_of_pos areDigits, List.dropWhile_append_of_pos areDigits]
  cases rest with
  | nil => exact ⟨List.append_nil digits, rfl⟩
  | cons c rest =>
      have notDigit : ¬ isDecimalDigit c = true := by
        rw [stops c rfl]
        exact Bool.false_ne_true
      rw [List.takeWhile_cons_of_neg notDigit, List.dropWhile_cons_of_neg notDigit]
      exact ⟨List.append_nil digits, rfl⟩

/-- What follows a number is no digit, if it is a mark with blanks around it. -/
theorem Padded.stops {mark : Char} {marks padded : List Char}
    (isPadded : Padded (mark :: marks) padded) (notDigit : isDecimalDigit mark = false)
    (rest : List Char) :
    forall c, (padded ++ rest).head? = some c -> isDecimalDigit c = false := by
  cases isPadded with
  | @intro left right leftBlank rightBlank =>
      intro c isFirst
      cases left with
      | nil =>
          cases isFirst
          exact notDigit
      | cons blank left =>
          cases isFirst
          exact isDecimalDigit_of_isBlank (leftBlank _ List.mem_cons_self)

end Text

namespace Listing

/-! ## Lists and ranges -/

/-- Names with commas between them, and blanks around the commas. -/
inductive ListsNames : List Nat -> List Char -> Prop where
  | single {number : Nat} {name : List Char} (names : Names number name) :
      ListsNames [number] name
  | cons {number : Nat} {numbers : List Nat} {name comma others : List Char}
      (names : Names number name) (isComma : Text.Padded [','] comma)
      (rest : ListsNames numbers others) :
      ListsNames (number :: numbers) (name ++ (comma ++ others))

/-- Two names with two dots between them, and blanks around the dots. -/
inductive SpansNames (first last : Nat) : List Char -> Prop where
  | intro {firstName dots lastName : List Char} (namesFirst : Names first firstName)
      (areDots : Text.Padded ['.', '.'] dots) (namesLast : Names last lastName) :
      SpansNames first last (firstName ++ (dots ++ lastName))

/-- What stands between the braces of a group, without the blanks around it. -/
inductive Holds : List Nat -> List Char -> Prop where
  | nothing : Holds [] []
  | list {numbers : List Nat} {text : List Char} (lists : ListsNames numbers text) :
      Holds numbers text
  | range {first last : Nat} {text : List Char} (spans : SpansNames first last text)
      (ascending : first ≤ last) : Holds (List.range' first (last + 1 - first)) text

/-! ## Numbers that are read -/

def registers (numbers : List Nat) : List Operand :=
  numbers.map (fun number => .register (UInt16.ofNat number))

/-- The numbers are read as registers, unless one of them is too large. -/
inductive ReadsNumbers {Failure : Type} (numbers : List Nat) :
    Except Failure (List Operand) -> Prop where
  | registers (fit : forall number, number ∈ numbers -> number < UInt16.size) :
      ReadsNumbers numbers (.ok (registers numbers))
  | tooLarge {number : Nat} (member : number ∈ numbers) (large : UInt16.size ≤ number)
      (failure : Failure) : ReadsNumbers numbers (.error failure)

namespace ReadsNumbers

variable {Failure : Type} {numbers : List Nat} {result : Except Failure (List Operand)}

theorem eq_registers (reads : ReadsNumbers numbers result)
    (fit : forall number, number ∈ numbers -> number < UInt16.size) :
    result = .ok (Listing.registers numbers) := by
  cases reads with
  | registers _ => rfl
  | tooLarge member large _ => exact absurd large (Nat.not_le_of_lt (fit _ member))

theorem exists_error (reads : ReadsNumbers numbers result) {number : Nat}
    (member : number ∈ numbers) (large : UInt16.size ≤ number) :
    Exists fun failure => result = .error failure := by
  cases reads with
  | registers fit => exact absurd large (Nat.not_le_of_lt (fit _ member))
  | tooLarge _ _ failure => exact ⟨failure, rfl⟩

theorem cons {number : Nat} {first : Operand} {others : Except Failure (List Operand)}
    (small : number < UInt16.size) (isFirst : first = .register (UInt16.ofNat number))
    (rest : ReadsNumbers numbers others) :
    ReadsNumbers (number :: numbers) (others.map (first :: ·)) := by
  subst isFirst
  cases rest with
  | registers fit => exact .registers (List.forall_mem_cons.mpr ⟨small, fit⟩)
  | tooLarge member large failure =>
      exact .tooLarge (List.mem_cons_of_mem number member) large failure

end ReadsNumbers

/-! ## Names one by one -/

theorem readOperands_names {numbers : List Nat} {names : List (List Char)}
    (areNames : List.Forall₂ Names numbers names) (opcode : Opcode) :
    ReadsNumbers numbers (readOperands opcode names) := by
  induction areNames with
  | nil => exact .registers (fun _ member => nomatch member)
  | @cons number name numbers names isName _ inductionHypothesis =>
      rw [readOperands, isName.readOperand_eq]
      by_cases small : number < UInt16.size
      · rw [if_pos small]
        exact inductionHypothesis.cons small rfl
      · rw [if_neg small]
        exact .tooLarge List.mem_cons_self (Nat.le_of_not_lt small) _

/-! ## Lists between braces -/

theorem readRegisters_cons {number : Nat} {numbers : List Nat} {name piece : List Char}
    {pieces : List (List Char)} (names : Names number name) (padded : Text.Padded name piece)
    (rest : ReadsNumbers numbers (readRegisters pieces)) :
    ReadsNumbers (number :: numbers) (readRegisters (piece :: pieces)) := by
  rcases names.exists_hasDigits with ⟨digits, hasDigits⟩
  rw [readRegisters, padded.trim_eq, names.isWord.trimmed.trim_eq, hasDigits.recognised,
    Option.bind_some, hasDigits.isNumber]
  by_cases small : number < UInt16.size
  · rw [if_pos small]
    exact rest.cons small rfl
  · rw [if_neg small]
    exact .tooLarge List.mem_cons_self (Nat.le_of_not_lt small) _

namespace ListsNames

variable {numbers : List Nat} {text : List Char} (lists : ListsNames numbers text)
include lists

theorem readsNumbers {blanks : List Char} (blankness : Text.Blank blanks) :
    ReadsNumbers numbers (readRegisters ((blanks ++ text).splitOn ',')) := by
  have noComma : forall {number : Nat} {name piece : List Char}, Names number name ->
      Text.Padded name piece -> ',' ∉ piece := by
    intro number name piece names padded member
    rcases padded.mem member with inName | isBlank
    · cases names.isWord.plain ',' inName
    · cases isBlank
  have nothing : ReadsNumbers [] (readRegisters []) :=
    .registers (fun _ member => nomatch member)
  -- The blanks behind a comma stand in front of the next name when the text is split.
  induction lists generalizing blanks with
  | @single number name names =>
      have padded : Text.Padded name (blanks ++ (name ++ [])) := .intro blankness .nil
      rw [List.append_nil] at padded
      rw [List.splitOn_eq_singleton (noComma names padded)]
      exact readRegisters_cons names padded nothing
  | @cons number numbers name comma others names isComma _ inductionHypothesis =>
      cases isComma with
      | @intro left right leftBlank rightBlank =>
          have padded : Text.Padded name (blanks ++ (name ++ left)) := .intro blankness leftBlank
          have isCut : blanks ++ (name ++ ((left ++ ([','] ++ right)) ++ others)) =
              (blanks ++ (name ++ left)) ++ ',' :: (right ++ others) := by
            simp only [List.append_assoc, List.cons_append, List.nil_append]
          rw [isCut, List.splitOn_append_cons_self_of_not_mem (noComma names padded)]
          exact readRegisters_cons names padded (inductionHypothesis rightBlank)

/-- The first name of a list ends at its comma, and no dots follow. -/
theorem exists_cons : Exists fun number => Exists fun name => Exists fun rest =>
    Names number name ∧ text = name ++ rest ∧
      (forall c, rest.head? = some c -> Text.isDecimalDigit c = false) ∧
        (forall more, Text.trimLeft rest ≠ '.' :: more) := by
  cases lists with
  | single names =>
      refine ⟨_, _, [], names, (List.append_nil _).symm, fun c isFirst => ?_, ?_⟩
      · cases isFirst
      · intro more areDots
        cases areDots
  | @cons number numbers name comma others names isComma rest =>
      refine ⟨number, name, comma ++ others, names, rfl, isComma.stops (by decide) others, ?_⟩
      intro more areDots
      rcases isComma.exists_trimLeft_append (by decide) others with ⟨right, _, pastBlanks⟩
      rw [pastBlanks] at areDots
      cases areDots

private theorem rangeDigits?_eq : rangeDigits? text = none := by
  rcases lists.exists_cons with ⟨number, name, rest, names, isText, stops, noDots⟩
  rcases names.exists_hasDigits with ⟨digits, isName, _, areDigits, _⟩
  rw [isText, isName, List.cons_append, rangeDigits?,
    (Text.takeWhile_isDecimalDigit_append areDigits stops).2]
  split
  · exact absurd ‹_› (noDots _)
  · rfl

end ListsNames

/-! ## Ranges between braces -/

namespace SpansNames

variable {first last : Nat} {text : List Char} (spans : SpansNames first last text)
include spans

private theorem exists_rangeDigits? :
    Exists fun firstDigits => Exists fun lastDigits =>
      rangeDigits? text = some (firstDigits, lastDigits) ∧
      registerNumber? firstDigits =
        (if first < UInt16.size then some (UInt16.ofNat first) else none) ∧
      registerNumber? lastDigits =
        (if last < UInt16.size then some (UInt16.ofNat last) else none) := by
  cases spans with
  | @intro firstName dots lastName namesFirst areDots namesLast =>
      rcases namesFirst.exists_hasDigits with ⟨firstDigits, isName, nonempty, areDigits, isNumber⟩
      rcases namesLast.exists_hasDigits with ⟨lastDigits, ofLast⟩
      refine ⟨firstDigits, lastDigits, ?_, isNumber, ofLast.isNumber⟩
      have ofRun := Text.takeWhile_isDecimalDigit_append areDigits
        (areDots.stops (by decide) lastName)
      rcases areDots.exists_trimLeft_append (by decide) lastName with
        ⟨right, rightBlank, pastBlanks⟩
      have pastDots : Text.trimLeft (right ++ lastName) = lastName :=
        Text.trimLeft_blank_append rightBlank namesLast.isWord.trimmed.atLeft
      rw [isName, List.cons_append, rangeDigits?, ofRun.1, ofRun.2, pastBlanks,
        List.singleton_append]
      simp only [pastDots, ofLast.recognised, List.isEmpty_eq_false_iff.mpr nonempty]
      rfl

theorem nonempty : text ≠ [] := by
  cases spans with
  | intro namesFirst areDots namesLast =>
      exact List.append_ne_nil_of_left_ne_nil namesFirst.isWord.nonempty _

/-- A range is empty, or it has the registers from its first to its last number. -/
theorem readGroup_eq :
    readGroup text =
      if first < UInt16.size ∧ last < UInt16.size then
        if last < first then .error .emptyRange
        else .ok (registers (List.range' first (last + 1 - first)))
      else .error .registerTooLarge := by
  rcases spans.exists_rangeDigits? with ⟨firstDigits, lastDigits, isRange, isFirst, isLast⟩
  rw [readGroup, List.isEmpty_eq_false_iff.mpr spans.nonempty, if_neg Bool.false_ne_true, isRange]
  by_cases firstSmall : first < UInt16.size
  · rw [if_pos firstSmall] at isFirst
    by_cases lastSmall : last < UInt16.size
    · rw [if_pos lastSmall] at isLast
      rw [if_pos ⟨firstSmall, lastSmall⟩, registers]
      simp only [isFirst, isLast, UInt16.lt_iff_toNat_lt, registerRange,
        UInt16.toNat_ofNat_of_lt' firstSmall, UInt16.toNat_ofNat_of_lt' lastSmall]
    · rw [if_neg lastSmall] at isLast
      rw [if_neg (fun small => lastSmall small.2)]
      simp only [isFirst, isLast]
  · rw [if_neg firstSmall] at isFirst
    rw [if_neg (fun small => firstSmall small.1)]
    simp only [isFirst]

theorem readsNumbers (ascending : first ≤ last) :
    ReadsNumbers (List.range' first (last + 1 - first)) (readGroup text) := by
  rw [spans.readGroup_eq, if_neg (Nat.not_lt_of_le ascending)]
  by_cases small : last < UInt16.size
  · rw [if_pos ⟨Nat.lt_of_le_of_lt ascending small, small⟩]
    apply ReadsNumbers.registers
    intro number member
    rw [List.mem_range'_1] at member
    omega
  · have member : last ∈ List.range' first (last + 1 - first) := by
      rw [List.mem_range'_1]
      omega
    rw [if_neg (fun bothSmall => small bothSmall.2)]
    exact .tooLarge member (Nat.le_of_not_lt small) _

theorem exists_error (descending : last < first) :
    Exists fun fault => readGroup text = .error fault := by
  rw [spans.readGroup_eq, if_pos descending]
  split
  · exact ⟨_, rfl⟩
  · exact ⟨_, rfl⟩

end SpansNames

/-! ## What stands between braces -/

theorem ListsNames.nonempty {numbers : List Nat} {text : List Char}
    (lists : ListsNames numbers text) : text ≠ [] := by
  cases lists with
  | single names => exact names.isWord.nonempty
  | cons names _ _ => exact List.append_ne_nil_of_left_ne_nil names.isWord.nonempty _

theorem ListsNames.trimmed {numbers : List Nat} {text : List Char}
    (lists : ListsNames numbers text) : Text.Trimmed text := by
  induction lists with
  | single names => exact names.isWord.trimmed
  | cons names _ rest inductionHypothesis =>
      exact names.isWord.trimmed.append names.isWord.nonempty inductionHypothesis rest.nonempty _

theorem SpansNames.trimmed {first last : Nat} {text : List Char}
    (spans : SpansNames first last text) : Text.Trimmed text := by
  cases spans with
  | intro namesFirst _ namesLast =>
      exact namesFirst.isWord.trimmed.append namesFirst.isWord.nonempty namesLast.isWord.trimmed
        namesLast.isWord.nonempty _

/-- Commas are the only characters in the text that a scan may look for. -/
def Ordinary (text : List Char) : Prop :=
  forall c, c ∈ text -> c = ',' ∨ isSpecial c = false

theorem Ordinary.append {first last : List Char} (ofFirst : Ordinary first)
    (ofLast : Ordinary last) : Ordinary (first ++ last) :=
  fun c member => (List.mem_append.mp member).elim (ofFirst c) (ofLast c)

theorem Ordinary.of_plain {text : List Char} (plain : forall c, c ∈ text -> isSpecial c = false) :
    Ordinary text :=
  fun c member => .inr (plain c member)

theorem Ordinary.padded {text padded : List Char} (ofText : Ordinary text)
    (isPadded : Text.Padded text padded) : Ordinary padded :=
  fun c member => (isPadded.mem member).elim (ofText c) (fun blankness =>
    .inr (isSpecial_of_isBlank blankness))

theorem ListsNames.ordinary {numbers : List Nat} {text : List Char}
    (lists : ListsNames numbers text) : Ordinary text := by
  have ofComma : Ordinary [','] := fun c member => .inl (List.mem_singleton.mp member)
  induction lists with
  | single names => exact .of_plain names.isWord.plain
  | cons names isComma _ inductionHypothesis =>
      exact .append (.of_plain names.isWord.plain)
        (.append (ofComma.padded isComma) inductionHypothesis)

theorem SpansNames.ordinary {first last : Nat} {text : List Char}
    (spans : SpansNames first last text) : Ordinary text := by
  have dotWord : IsWord ['.', '.'] := .of_all (by decide) (by decide)
  cases spans with
  | intro namesFirst areDots namesLast =>
      exact .append (.of_plain namesFirst.isWord.plain)
        (.append (.padded (.of_plain dotWord.plain) areDots) (.of_plain namesLast.isWord.plain))

theorem Holds.trimmed {numbers : List Nat} {text : List Char} (holds : Holds numbers text) :
    Text.Trimmed text := by
  cases holds with
  | nothing => exact .of_unbroken (fun _ member => nomatch member)
  | list lists => exact lists.trimmed
  | range spans _ => exact spans.trimmed

theorem Holds.ordinary {numbers : List Nat} {text : List Char} (holds : Holds numbers text) :
    Ordinary text := by
  cases holds with
  | nothing => exact fun _ member => nomatch member
  | list lists => exact lists.ordinary
  | range spans _ => exact spans.ordinary

theorem Holds.readsNumbers {numbers : List Nat} {text : List Char} (holds : Holds numbers text) :
    ReadsNumbers numbers (readGroup text) := by
  cases holds with
  | nothing => exact .registers (fun _ member => nomatch member)
  | list lists =>
      rw [readGroup, List.isEmpty_eq_false_iff.mpr lists.nonempty, if_neg Bool.false_ne_true,
        lists.rangeDigits?_eq]
      exact lists.readsNumbers .nil
  | range spans ascending => exact spans.readsNumbers ascending

end Listing
end DalvikFold
