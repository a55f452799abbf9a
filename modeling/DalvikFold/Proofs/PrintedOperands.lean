import DalvikFold.Proofs.Computations
import DalvikFold.Proofs.QuotedStrings
import DalvikFold.Proofs.Spellings

namespace DalvikFold

/-!
# Operands are read back

Most operands are printed as the text that they were read from.  That text may
be odd.  It may hold spaces and quotes, and brackets that nobody closes, as long
as nothing follows it.  Such a text is read again because it stands where it
stood before: every operand but the last is closed, in the text that was read
and so in the one that is printed.  Registers, literals and strings are printed
in a way of their own, and always closed.
-/

/-- Whether the operand is printed without the code points of characters. -/
def Operand.isShort : Operand -> Bool
  | .string text => Text.isShort text
  | _ => true

namespace Listing

/-! ## What an operand is read as -/

/-- What the text of a segment can be read as. -/
inductive ReadAs (text : List Char) : List Operand -> Prop where
  /-- The registers of a group, or a single one. -/
  | registers (numbers : List UInt16) : ReadAs text (numbers.map .register)
  | literal (value : Int64) : ReadAs text [.literal value]
  | string (decoded : String) : ReadAs text [.string decoded]
  /-- An operand that is the text itself. -/
  | verbatim {operand : Operand} (isText : operand.render.toList = text) : ReadAs text [operand]

private theorem exists_registers_of_readRegisters {texts : List (List Char)}
    {operands : List Operand} (read : readRegisters texts = .ok operands) :
    Exists fun numbers : List UInt16 => numbers.map .register = operands := by
  induction texts generalizing operands with
  | nil =>
      cases read
      exact ⟨[], rfl⟩
  | cons text texts inductionHypothesis =>
      rw [readRegisters] at read
      cases isNumber : (registerDigits? (Text.trim text)).bind registerNumber? with
      | none =>
          rw [isNumber] at read
          cases read
      | some number =>
          rw [isNumber] at read
          rcases Except.exists_of_map read with ⟨others, restRead, isCons⟩
          rcases inductionHypothesis restRead with ⟨numbers, areOthers⟩
          exact ⟨number :: numbers, by rw [List.map_cons, areOthers, isCons]⟩

theorem exists_registers_of_readGroup {text : List Char} {operands : List Operand}
    (read : readGroup text = .ok operands) :
    Exists fun numbers : List UInt16 => numbers.map .register = operands := by
  unfold readGroup at read
  split at read
  · cases read
    exact ⟨[], rfl⟩
  · split at read
    · split at read
      · split at read
        · cases read
        · cases read
          exact ⟨_, List.map_map⟩
      · cases read
    · exact exists_registers_of_readRegisters read

private theorem readAs_of_readReference {opcode : Opcode} {text : List Char} {operand : Operand}
    (read : readReference opcode text = .ok operand) : ReadAs text [operand] := by
  unfold readReference at read
  split at read
  · cases read
    exact .verbatim String.toList_ofList
  · cases read
    exact .verbatim String.toList_ofList
  · split at read
    · cases read
      exact .verbatim String.toList_ofList
    · split at read
      · unfold readMember at read
        split at read
        · split at read
          · cases read
            exact .verbatim String.toList_ofList
          · cases read
            exact .verbatim String.toList_ofList
        · cases read
      · split at read
        · cases read
          exact .verbatim String.toList_ofList
        · cases read

private theorem readAs_of_readConstant {opcode : Opcode} {text : List Char} {operand : Operand}
    (read : readConstant opcode text = .ok operand) : ReadAs text [operand] := by
  unfold readConstant at read
  split at read
  · cases read
    apply ReadAs.verbatim
    rw [Operand.render, String.toList_append, String.toList_ofList, String.toList_ofList]
    rfl
  · split at read
    · cases read
      exact .string _
    · cases read
  · split at read
    · split at read
      · cases read
        exact .literal _
      · cases read
    · exact readAs_of_readReference read

theorem readAs_of_readOperand {opcode : Opcode} {text : List Char} {operands : List Operand}
    (read : readOperand opcode text = .ok operands) : ReadAs text operands := by
  unfold readOperand at read
  split at read
  · split at read
    · rcases exists_registers_of_readGroup read with ⟨numbers, areOperands⟩
      exact areOperands ▸ .registers numbers
    · cases read
  · split at read
    · cases read
    · split at read
      · split at read
        · cases read
          exact .registers [_]
        · cases read
      · rcases Except.exists_of_map read with ⟨operand, isOperand, areOperands⟩
        exact areOperands ▸ readAs_of_readConstant isOperand

/-! ## Operands -/

theorem isWord_literal (value : Int64) : IsWord (Operand.literal value).render.toList := by
  rcases Spelling.exists_text_eq_signedHexadecimal value.toInt with ⟨spelling, isText, _⟩
  rw [Operand.render, ← isText]
  exact spelling.isWord_text

private theorem readOperand_literal (opcode : Opcode) (value : Int64) :
    readOperand opcode (Operand.literal value).render.toList = .ok [.literal value] := by
  rcases Spelling.exists_text_eq_signedHexadecimal value.toInt with ⟨spelling, isText, isValue⟩
  have fits : FitsLong value.toInt := ⟨value.le_toInt, value.toInt_lt⟩
  rw [Operand.render, ← isText, readOperand_spelling, isValue, if_pos fits, Int64.ofInt_toInt]

private theorem readOperand_quote (opcode : Opcode) {text : String}
    (short : Text.isShort text = true) :
    readOperand opcode (Text.quote text).toList = .ok [.string text] := by
  have decoded := Text.stringLiteral?_quote short
  rw [Text.toList_quote] at decoded ⊢
  have isString : readConstant opcode ('"' :: (text.toList.flatMap Text.quoteChar ++ ['"'])) =
      .ok (.string text) := by
    rw [readConstant, decoded]
    exact congrArg (fun text => Except.ok (Operand.string text)) String.ofList_toList
  change (readConstant opcode _).map _ = _
  rw [isString]
  rfl

/-- The printed operand is read as this operand and nothing else. -/
structure ReadsBack (opcode : Opcode) (operand : Operand) : Prop where
  read : readOperand opcode operand.render.toList = .ok [operand]
  trimmed : Text.Trimmed operand.render.toList
  unbroken : '\n' ∉ operand.render.toList

namespace ReadsBack

variable {opcode : Opcode}

theorem of_isWord {operand : Operand} (isWord : IsWord operand.render.toList)
    (read : readOperand opcode operand.render.toList = .ok [operand]) :
    ReadsBack opcode operand where
  read := read
  trimmed := isWord.trimmed
  unbroken := isWord.notMem_of_isBlank (by decide)

theorem register (number : UInt16) : ReadsBack opcode (.register number) :=
  of_isWord (isWord_registerName number) (readOperand_registerName opcode number)

theorem literal (value : Int64) : ReadsBack opcode (.literal value) :=
  of_isWord (isWord_literal value) (readOperand_literal opcode value)

theorem string {text : String} (short : Text.isShort text = true) :
    ReadsBack opcode (.string text) where
  read := readOperand_quote opcode short
  trimmed := Text.trimmed_quote text
  unbroken := Text.lineFeed_notMem_quote short

theorem verbatim {operand : Operand} {text : List Char} (isText : operand.render.toList = text)
    (read : readOperand opcode text = .ok [operand]) (trimmed : Text.Trimmed text)
    (unbroken : '\n' ∉ text) : ReadsBack opcode operand := by
  subst isText
  exact ⟨read, trimmed, unbroken⟩

end ReadsBack

private theorem readsBack_of_readOperand {opcode : Opcode} {text : List Char}
    {operands : List Operand}
    (read : readOperand opcode text = .ok operands) (trimmed : Text.Trimmed text)
    (unbroken : '\n' ∉ text) {operand : Operand} (member : operand ∈ operands)
    (short : operand.isShort = true) : ReadsBack opcode operand := by
  cases readAs_of_readOperand read with
  | registers numbers =>
      rcases List.mem_map.mp member with ⟨number, _, isRegister⟩
      exact isRegister ▸ .register number
  | literal value =>
      rw [List.mem_singleton.mp member]
      exact .literal value
  | string decoded =>
      rw [List.mem_singleton.mp member] at short ⊢
      exact .string short
  | verbatim isText =>
      rw [List.mem_singleton.mp member]
      exact .verbatim isText read trimmed unbroken

def renderings (operands : List Operand) : List (List Char) :=
  operands.map (fun operand => operand.render.toList)

/-- What was read as several operands is printed as closed texts.  What was
read as one operand may also be printed as it was. -/
theorem closed_or_verbatim {opcode : Opcode} {text : List Char} {operands : List Operand}
    (read : readOperand opcode text = .ok operands)
    (short : forall operand, operand ∈ operands -> operand.isShort = true) :
    (forall rendering, rendering ∈ renderings operands -> Closed rendering) ∨
      renderings operands = [text] := by
  cases readAs_of_readOperand read with
  | registers numbers =>
      refine .inl (fun rendering member => ?_)
      rw [renderings, List.map_map] at member
      rcases List.mem_map.mp member with ⟨number, _, isRendering⟩
      exact isRendering ▸ (isWord_registerName number).closed
  | literal value =>
      refine .inl (fun rendering member => ?_)
      rw [List.mem_singleton.mp member]
      exact (isWord_literal value).closed
  | string decoded =>
      refine .inl (fun rendering member => ?_)
      rw [List.mem_singleton.mp member]
      exact Text.closed_quote (short _ List.mem_cons_self)
  | verbatim isText => exact .inr (congrArg (fun text => [text]) isText)

section Operands

variable {opcode : Opcode} {texts : List (List Char)} {operands : List Operand}

theorem exists_of_readOperands_cons {text : List Char}
    (read : readOperands opcode (text :: texts) = .ok operands) :
    Exists fun first => Exists fun others => readOperand opcode text = .ok first ∧
      readOperands opcode texts = .ok others ∧ first ++ others = operands := by
  rw [readOperands] at read
  cases firstRead : readOperand opcode text with
  | error fault =>
      rw [firstRead] at read
      cases read
  | ok first =>
      rw [firstRead] at read
      rcases Except.exists_of_map read with ⟨others, othersRead, areOperands⟩
      exact ⟨first, others, rfl, othersRead, areOperands⟩

/-- Operands that could be told apart in a line can be told apart where they are
printed. -/
theorem separable_renderings (separable : Separable texts)
    (read : readOperands opcode texts = .ok operands)
    (short : forall operand, operand ∈ operands -> operand.isShort = true) :
    Separable (renderings operands) := by
  induction separable generalizing operands with
  | nil =>
      cases read
      exact .nil
  | last passage =>
      -- Nothing follows this segment, and nothing follows what is printed of it.
      rcases exists_of_readOperands_cons read with ⟨first, others, firstRead, noMore, areOperands⟩
      cases noMore
      rw [List.append_nil] at areOperands
      subst areOperands
      rcases closed_or_verbatim firstRead short with areClosed | isVerbatim
      · have separable := Separable.append areClosed .nil
        rwa [List.append_nil] at separable
      · rw [isVerbatim]
        exact .last passage
  | cons closed rest inductionHypothesis =>
      rcases exists_of_readOperands_cons read with
        ⟨first, others, firstRead, othersRead, areOperands⟩
      subst areOperands
      have firstClosed : forall rendering, rendering ∈ renderings first -> Closed rendering := by
        rcases closed_or_verbatim firstRead
          (fun operand member => short operand (List.mem_append_left others member))
          with areClosed | isVerbatim
        · exact areClosed
        · intro rendering member
          rw [isVerbatim] at member
          exact List.mem_singleton.mp member ▸ closed
      have ofOthers := inductionHypothesis othersRead
        (fun operand member => short operand (List.mem_append_right first member))
      rw [renderings, List.map_append]
      exact .append firstClosed ofOthers

theorem readsBack_of_readOperands (read : readOperands opcode texts = .ok operands)
    (trimmed : forall text, text ∈ texts -> Text.Trimmed text)
    (unbroken : forall text, text ∈ texts -> '\n' ∉ text)
    (short : forall operand, operand ∈ operands -> operand.isShort = true) :
    forall operand, operand ∈ operands -> ReadsBack opcode operand := by
  induction texts generalizing operands with
  | nil =>
      cases read
      exact fun operand member => absurd member List.not_mem_nil
  | cons text texts inductionHypothesis =>
      rcases exists_of_readOperands_cons read with
        ⟨first, others, firstRead, othersRead, areOperands⟩
      subst areOperands
      intro operand member
      rcases List.mem_append.mp member with inFirst | inOthers
      · exact readsBack_of_readOperand firstRead (trimmed text List.mem_cons_self)
          (unbroken text List.mem_cons_self) inFirst (short operand member)
      · exact inductionHypothesis othersRead
          (fun other isOther => trimmed other (List.mem_cons_of_mem text isOther))
          (fun other isOther => unbroken other (List.mem_cons_of_mem text isOther))
          (fun other isOther => short other (List.mem_append_right first isOther))
          operand inOthers

theorem readOperands_renderings
    (readBack : forall operand, operand ∈ operands -> ReadsBack opcode operand) :
    readOperands opcode (renderings operands) = .ok operands := by
  induction operands with
  | nil => rfl
  | cons operand operands inductionHypothesis =>
      have ofRest := inductionHypothesis
        (fun other member => readBack other (List.mem_cons_of_mem operand member))
      rw [renderings] at ofRest ⊢
      rw [List.map_cons, readOperands, (readBack operand List.mem_cons_self).read, ofRest]
      rfl

/-- Only a call site is printed as nothing. -/
theorem ReadsBack.eq_callSite {operand : Operand} (readBack : ReadsBack opcode operand)
    (isEmpty : operand.render.toList = []) : operand = .callSite "" := by
  have read := readBack.read
  rw [isEmpty] at read
  change (readReference opcode []).map _ = _ at read
  rcases Except.exists_of_map read with ⟨reference, isReference, areOperands⟩
  cases areOperands
  unfold readReference at isReference
  split at isReference
  · contradiction
  · cases isReference
    rfl
  · cases isReference

theorem writable_renderings (separable : Separable (renderings operands))
    (readBack : forall operand, operand ∈ operands -> ReadsBack opcode operand)
    (endsInText : operands.getLast? ≠ some (.callSite "")) : Writable (renderings operands) where
  separable := separable
  trimmed := by
    intro rendering member
    rcases List.mem_map.mp member with ⟨operand, isOperand, isRendering⟩
    exact isRendering ▸ (readBack operand isOperand).trimmed
  endsInText := by
    intro isLast
    rw [renderings, List.getLast?_map] at isLast
    rcases Option.map_eq_some_iff.mp isLast with ⟨operand, isOperand, isEmpty⟩
    have isCallSite := (readBack operand (List.mem_of_getLast? isOperand)).eq_callSite isEmpty
    exact endsInText (isCallSite ▸ isOperand)

end Operands

end Listing

end DalvikFold
