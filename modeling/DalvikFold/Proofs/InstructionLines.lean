import DalvikFold.Proofs.Computations
import DalvikFold.Proofs.Scanning
import DalvikFold.Proofs.SeparatingCommas

namespace DalvikFold

/-!
# Lines of instructions

An instruction line is a mnemonic and an operand part, with blanks between them
and around them and perhaps a comment behind them.  Its operands are read from
the segments of that part, one segment after the other, so what a line means is
settled by its mnemonic and its segments.  The first line of a listing that
cannot be read is the one that is reported.
-/

namespace Text

private theorem not_isBlank_of_getLast?_trimRight {text : List Char} {c : Char}
    (isLast : (trimRight text).getLast? = some c) : isBlank c = false := by
  rw [trimRight, List.getLast?_reverse] at isLast
  exact not_isBlank_of_head?_dropWhile isLast

end Text

namespace Listing

/-! ## Segments one after the other -/

theorem readOperands_append (opcode : Opcode) (first second : List (List Char)) :
    readOperands opcode (first ++ second) =
      (readOperands opcode first).bind (fun operands =>
        (readOperands opcode second).map (operands ++ ·)) := by
  induction first with
  | nil =>
      change readOperands opcode second = (readOperands opcode second).map ([] ++ ·)
      cases readOperands opcode second <;> rfl
  | cons text first inductionHypothesis =>
      rw [List.cons_append, readOperands, readOperands, inductionHypothesis]
      cases readOperand opcode text with
      | error fault => rfl
      | ok operands =>
          cases readOperands opcode first with
          | error fault => rfl
          | ok others =>
              cases readOperands opcode second with
              | error fault => rfl
              | ok more => exact congrArg Except.ok (List.append_assoc operands others more).symm

/-- A fault of an operand. -/
inductive Fault.IsBadOperand : Fault -> Prop where
  | intro (operand : String) (fault : OperandFault) : IsBadOperand (.badOperand operand fault)

private theorem isBadOperand_of_readOperands {opcode : Opcode} {texts : List (List Char)}
    {fault : Fault} (refused : readOperands opcode texts = .error fault) : fault.IsBadOperand := by
  induction texts with
  | nil => cases refused
  | cons text texts inductionHypothesis =>
      rw [readOperands] at refused
      split at refused
      · cases refused
        exact .intro _ _
      · exact inductionHypothesis (Except.eq_error_of_map refused)

/-- A line is at fault if some of its segments cannot be read. -/
theorem exists_error_of_append {opcode : Opcode} {texts : List (List Char)} {fault : Fault}
    (refused : readOperands opcode texts = .error fault) (before behind : List (List Char)) :
    Exists fun earlier => readOperands opcode (before ++ (texts ++ behind)) = .error earlier := by
  rw [readOperands_append, readOperands_append, refused]
  cases readOperands opcode before with
  | error earlier => exact ⟨earlier, rfl⟩
  | ok operands => exact ⟨fault, rfl⟩

/-! ## Mnemonics and operand parts -/

def Line.ofOperands (opcode : Opcode) (operands : Except Fault (List Operand)) :
    Except Fault Line :=
  (operands.bind (encodeHigh opcode)).map (fun encoded => .code ⟨opcode, encoded⟩)

private theorem Line.ofInstruction_eq {mnemonic : List Char} {opcode : Opcode}
    (isOpcode : Opcode.ofMnemonic? (String.ofList mnemonic) = some opcode) (part : List Char) :
    ofInstruction mnemonic part = ofOperands opcode (readOperands opcode (segments part)) := by
  rw [ofInstruction, isOpcode]
  dsimp only
  cases readOperands opcode (segments part) <;> rfl

theorem Line.ofInstruction_of_unknown {mnemonic : List Char}
    (isUnknown : Opcode.ofMnemonic? (String.ofList mnemonic) = none) (part : List Char) :
    ofInstruction mnemonic part = .error (.unknownMnemonic (String.ofList mnemonic)) := by
  rw [ofInstruction, isUnknown]

/-- What an instruction says is settled by its mnemonic and its segments. -/
theorem Line.ofInstruction_congr {mnemonic first second : List Char}
    (same : segments first = segments second) :
    ofInstruction mnemonic first = ofInstruction mnemonic second := by
  rw [ofInstruction, ofInstruction, same]

/-- Without its comment and its outer blanks, the line is the mnemonic of the
opcode and, behind blanks, the operand part. -/
def Line.IsInstruction (line : List Char) (opcode : Opcode) (part : List Char) : Prop :=
  Exists fun mnemonic => Exists fun rest =>
    Text.cutAtBlank (Text.trim (stripComment line)) = (mnemonic, rest) ∧
      Opcode.ofMnemonic? (String.ofList mnemonic) = some opcode ∧
        Text.trim (rest.getD []) = part

theorem Line.IsInstruction.ofText_eq {line part : List Char} {opcode : Opcode}
    (isInstruction : IsInstruction line opcode part) :
    Line.ofText line = ofOperands opcode (readOperands opcode (segments part)) := by
  rcases isInstruction with ⟨mnemonic, rest, isCut, isOpcode, isPart⟩
  have isMnemonic := isMnemonic_of_ofMnemonic? isOpcode
  have startsText : Exists fun more => Text.trim (stripComment line) = mnemonic ++ more := by
    rcases Text.cutAtBlank_cases (Text.trim (stripComment line)) with
      whole | ⟨word, blank, others, _, isText, cutToo⟩
    · rw [whole] at isCut
      exact ⟨[], by rw [List.append_nil, (Prod.mk.inj isCut).1]⟩
    · rw [cutToo] at isCut
      exact ⟨blank :: others, by rw [isText, (Prod.mk.inj isCut).1]⟩
  rcases startsText with ⟨more, isText⟩
  have nonempty : mnemonic ++ more ≠ [] := List.append_ne_nil_of_left_ne_nil
    isMnemonic.isWord.nonempty more
  have unmarked : forall c, (mnemonic ++ more).head? = some c -> c ≠ ':' ∧ c ≠ '.' := by
    rw [List.head?_append, List.head?_eq_some_head isMnemonic.isWord.nonempty, Option.some_or,
      ← List.head?_eq_some_head]
    exact isMnemonic.unmarked
  rw [ofText, ofTrimmed_of_unmarked (isText ▸ nonempty) (isText ▸ unmarked), isCut]
  change ofInstruction mnemonic (Text.trim (rest.getD [])) = _
  rw [isPart, ofInstruction_eq isOpcode]

/-- A word that can be a mnemonic: it neither starts a comment nor marks another
kind of line.  Whether it is a mnemonic does not matter. -/
structure IsInstructionWord (text : List Char) : Prop where
  nonempty : text ≠ []
  unbroken : forall c, c ∈ text -> Text.isBlank c = false
  uncommented : stripComment text = text
  unmarked : forall c, text.head? = some c -> c ≠ ':' ∧ c ≠ '.'

namespace IsInstructionWord

variable {word : List Char} (isWord : IsInstructionWord word)
include isWord

theorem trimmed_append {rest : List Char}
    (atRight : forall c, rest.getLast? = some c -> Text.isBlank c = false) :
    Text.Trimmed (word ++ rest) where
  atLeft c isFirst := by
    rw [List.head?_append, List.head?_eq_some_head isWord.nonempty, Option.some_or] at isFirst
    exact Option.some.inj isFirst ▸ isWord.unbroken _ (List.head_mem isWord.nonempty)
  atRight c isLast := by
    rw [List.getLast?_append] at isLast
    cases restLast : rest.getLast? with
    | none =>
        rw [restLast, Option.none_or] at isLast
        exact isWord.unbroken c (List.mem_of_getLast? isLast)
    | some last =>
        rw [restLast, Option.some_or] at isLast
        exact atRight c (restLast.trans isLast)

private theorem unmarked_append (rest : List Char) :
    forall c, (word ++ rest).head? = some c -> c ≠ ':' ∧ c ≠ '.' := by
  rw [List.head?_append, List.head?_eq_some_head isWord.nonempty, Option.some_or,
    ← List.head?_eq_some_head]
  exact isWord.unmarked

/-- A trimmed line that starts with a word and a blank. -/
theorem ofTrimmed_trim {blank : Char} (blankness : Text.isBlank blank = true)
    (rest : List Char) :
    Line.ofTrimmed (Text.trim (word ++ blank :: rest)) = Line.ofInstruction word rest := by
  rcases Text.exists_trimRight rest with ⟨right, isRest, rightBlank⟩
  have sameSegments : segments (Text.trim (Text.trimRight rest)) = segments rest := by
    rw [segments_trim]
    conv => rhs; rw [isRest]
    exact segments_congr (trimmedSegments_append_blank rightBlank _).symm
  by_cases isEmpty : Text.trimRight rest = []
  · -- Nothing but blanks follows the word, and trimming takes all of them.
    rw [isEmpty, List.nil_append] at isRest
    have allBlank : Text.Blank (blank :: rest) := by
      intro c member
      cases member with
      | head => exact blankness
      | tail _ member => exact rightBlank c (isRest ▸ member)
    have trimmed : Text.Trimmed (word ++ []) :=
      isWord.trimmed_append (fun c isLast => nomatch isLast)
    rw [List.append_nil] at trimmed
    rw [Text.trim_append_blank allBlank, trimmed.trim_eq,
      Line.ofTrimmed_of_unmarked isWord.nonempty isWord.unmarked,
      Text.cutAtBlank_of_unbroken isWord.unbroken]
    apply Line.ofInstruction_congr
    rw [isEmpty] at sameSegments
    exact sameSegments
  · have atRight : forall c, (blank :: Text.trimRight rest).getLast? = some c ->
        Text.isBlank c = false := by
      intro c isLast
      rw [List.getLast?_cons, List.getLast?_eq_some_getLast isEmpty, Option.getD_some] at isLast
      exact Text.not_isBlank_of_getLast?_trimRight
        ((List.getLast?_eq_some_getLast isEmpty).trans isLast)
    have trimmed := isWord.trimmed_append atRight
    have isTrimmed : Text.trim (word ++ blank :: rest) = word ++ blank :: Text.trimRight rest := by
      conv => lhs; rw [isRest]
      rw [← List.cons_append, ← List.append_assoc, Text.trim_append_blank rightBlank,
        trimmed.trim_eq]
    have nonempty := List.append_ne_nil_of_left_ne_nil isWord.nonempty
      (blank :: Text.trimRight rest)
    rw [isTrimmed, Line.ofTrimmed_of_unmarked nonempty (isWord.unmarked_append _),
      Text.cutAtBlank_append isWord.unbroken blankness]
    exact Line.ofInstruction_congr sameSegments

/-- Blanks before and behind the word do not matter, as long as there are some
behind it. -/
theorem ofText_append {indent gap : List Char} (indentBlank : Text.Blank indent)
    (gapBlank : Text.Blank gap) (gapNonempty : gap ≠ []) (part : List Char) :
    Line.ofText (indent ++ (word ++ (gap ++ part))) =
      Line.ofInstruction word (stripComment part) := by
  have indentClosed := Closed.of_blank indentBlank
  have stripped : stripComment (indent ++ (word ++ (gap ++ part))) =
      indent ++ (word ++ stripCommentFrom (Quotation.outside.after word) (gap ++ part)) := by
    rw [indentClosed.stripComment_append]
    exact congrArg (indent ++ ·) (stripCommentFrom_append isWord.uncommented (gap ++ part))
  rw [Line.ofText, stripped, Text.trim_blank_append indentBlank]
  cases gap with
  | nil => exact absurd rfl gapNonempty
  | cons blank gap =>
      have blankness := gapBlank blank List.mem_cons_self
      have notSign : ¬ (blank = '#' ∧ Quotation.outside.after word = .outside) := by
        intro isSign
        rw [isSign.1] at blankness
        cases blankness
      rw [List.cons_append, stripCommentFrom, if_neg notSign, isWord.ofTrimmed_trim blankness]
      cases isOpcode : Opcode.ofMnemonic? (String.ofList word) with
      | none =>
          rw [Line.ofInstruction_of_unknown isOpcode, Line.ofInstruction_of_unknown isOpcode]
      | some opcode =>
          -- A mnemonic holds no quotes, so the operand part is scanned from the start.
          have closed := (isMnemonic_of_ofMnemonic? isOpcode).isWord.closed
          have isOutside : Quotation.outside.after word = .outside := by
            have atStart := congrArg ScanState.quotation (Passage.after_eq closed)
            rwa [ScanState.quotation_after] at atStart
          have stays : Quotation.outside.step blank = .outside :=
            if_neg (ne_of_not_special (isSpecial_of_isBlank blankness) (by decide))
          have restBlank : Text.Blank gap :=
            fun c member => gapBlank c (List.mem_cons_of_mem blank member)
          have pastGap : stripCommentFrom .outside (gap ++ part) = gap ++ stripComment part :=
            (Closed.of_blank restBlank).stripComment_append part
          rw [isOutside, stays, pastGap]
          exact Line.ofInstruction_congr
            (segments_congr (trimmedSegments_blank_append restBlank (stripComment part)))

end IsInstructionWord

/-! ## Listings -/

/-- The first line that cannot be read is reported with its number. -/
theorem instructionsFrom_of_error {earlier later : List (List Char)} {line : List Char}
    {fault : Fault}
    (readable : forall text, text ∈ earlier -> Exists fun read => Line.ofText text = .ok read)
    (refused : Line.ofText line = .error fault) (number : Nat) :
    instructionsFrom number (earlier ++ line :: later) =
      .error ⟨number + earlier.length, fault⟩ := by
  induction earlier generalizing number with
  | nil =>
      rw [List.nil_append, instructionsFrom, refused]
      rfl
  | cons text earlier inductionHypothesis =>
      rcases readable text List.mem_cons_self with ⟨read, isRead⟩
      have ofRest := inductionHypothesis
        (fun other member => readable other (List.mem_cons_of_mem text member)) (number + 1)
      rw [List.cons_append, instructionsFrom, isRead, ofRest, List.length_cons, Nat.add_assoc,
        Nat.add_comm 1]
      rfl

/-- Every listing that can be read up to this line is refused for the fault, with
the number of the line. -/
def IsReported (line : List Char) (fault : Fault) : Prop :=
  forall (source : String) (earlier later : List (List Char)),
    Text.lines source.toList = earlier ++ line :: later ->
    (forall text, text ∈ earlier -> Exists fun read => Line.ofText text = .ok read) ->
    instructions source = .error ⟨earlier.length + 1, fault⟩

private theorem isReported_of_error {line : List Char} {fault : Fault}
    (refused : Line.ofText line = .error fault) : IsReported line fault := by
  intro source earlier later areLines readable
  rw [instructions, areLines, instructionsFrom_of_error readable refused, Nat.add_comm]

/-- One of the operands cannot be read, and this is what is reported. -/
def IsRefused (line : List Char) : Prop :=
  Exists fun fault : Fault => fault.IsBadOperand ∧ Line.ofText line = .error fault ∧
    IsReported line fault

theorem Line.IsInstruction.isRefused {line part : List Char} {opcode : Opcode}
    (isInstruction : IsInstruction line opcode part) {fault : Fault}
    (refused : readOperands opcode (segments part) = .error fault) : IsRefused line := by
  have isRead := isInstruction.ofText_eq
  rw [refused] at isRead
  exact ⟨fault, isBadOperand_of_readOperands refused, isRead, isReported_of_error isRead⟩

end Listing

end DalvikFold
