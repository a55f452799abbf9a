import DalvikFold.Proofs.Passages

namespace DalvikFold

/-!
# Lines of a mnemonic and operands

An instruction is written as its mnemonic and, after a space, its operands with
commas between them.  Such a line is read as it was written: the scans find no
comment, the line is cut after the mnemonic, and the segments of what follows
are the operands.

The simplest operands are words, which hold no blanks and no character that a
scan looks for.
-/

namespace Text

theorem lines_of_single {text : List Char} (single : '\n' ∉ text) (nonempty : text ≠ []) :
    lines text = [text] := by
  rw [lines, List.splitOn_eq_singleton single, endedLines, List.isEmpty_eq_false_iff.mpr nonempty,
    if_neg Bool.false_ne_true]

theorem notMem_of_mem_splitOn {separator : Char} {text piece : List Char}
    (isPiece : piece ∈ text.splitOn separator) : separator ∉ piece := by
  induction text generalizing piece with
  | nil =>
      rw [List.splitOn_nil, List.mem_singleton] at isPiece
      exact isPiece ▸ List.not_mem_nil
  | cons c text inductionHypothesis =>
      rw [List.splitOn_cons_eq_if_modifyHead] at isPiece
      by_cases isSeparator : (c == separator) = true
      · rw [if_pos isSeparator] at isPiece
        rcases List.mem_cons.mp isPiece with isEmpty | inRest
        · exact isEmpty ▸ List.not_mem_nil
        · exact inductionHypothesis inRest
      · rw [if_neg isSeparator] at isPiece
        rw [beq_iff_eq] at isSeparator
        cases arePieces : text.splitOn separator with
        | nil =>
            rw [arePieces] at isPiece
            cases isPiece
        | cons next others =>
            rw [arePieces] at isPiece inductionHypothesis
            rcases List.mem_cons.mp isPiece with isNext | isOther
            · have notInNext := inductionHypothesis List.mem_cons_self
              rw [isNext, List.mem_cons, not_or]
              exact ⟨fun same => isSeparator same.symm, notInNext⟩
            · exact inductionHypothesis (List.mem_cons_of_mem next isOther)

theorem dropReturn_subset (line : List Char) : dropReturn line ⊆ line := by
  unfold dropReturn
  split
  · exact List.dropLast_subset line
  · exact List.Subset.refl line

theorem exists_of_mem_endedLines {pieces : List (List Char)} {line : List Char}
    (isLine : line ∈ endedLines pieces) :
    Exists fun piece => piece ∈ pieces ∧ line ⊆ piece := by
  induction pieces with
  | nil => cases isLine
  | cons piece pieces inductionHypothesis =>
      cases pieces with
      | nil =>
          rw [endedLines] at isLine
          split at isLine
          · cases isLine
          · exact ⟨piece, List.mem_cons_self, List.mem_singleton.mp isLine ▸ List.Subset.refl _⟩
      | cons next pieces =>
          rcases List.mem_cons.mp isLine with isFirst | inRest
          · exact ⟨piece, List.mem_cons_self, isFirst ▸ dropReturn_subset piece⟩
          · rcases inductionHypothesis inRest with ⟨other, isPiece, inPiece⟩
            exact ⟨other, List.mem_cons_of_mem piece isPiece, inPiece⟩

theorem lineFeed_notMem_of_mem_lines {text line : List Char} (isLine : line ∈ lines text) :
    '\n' ∉ line := by
  rcases exists_of_mem_endedLines isLine with ⟨piece, isPiece, inPiece⟩
  exact fun member => notMem_of_mem_splitOn isPiece (inPiece member)

theorem dropReturn_of_trimmed {line : List Char} (trimmed : Trimmed line) :
    dropReturn line = line := by
  apply if_neg
  intro isReturn
  cases trimmed.atRight _ isReturn

/-- Lines that are ended by line feeds are the lines of the whole. -/
theorem lines_flatMap {texts : List (List Char)}
    (unbroken : forall text, text ∈ texts -> '\n' ∉ text)
    (trimmed : forall text, text ∈ texts -> Trimmed text) :
    lines (texts.flatMap (fun text => text ++ ['\n'])) = texts := by
  unfold lines
  induction texts with
  | nil => rfl
  | cons text texts inductionHypothesis =>
      have ofRest := inductionHypothesis
        (fun other member => unbroken other (List.mem_cons_of_mem text member))
        (fun other member => trimmed other (List.mem_cons_of_mem text member))
      rw [List.flatMap_cons, List.append_assoc, List.singleton_append,
        List.splitOn_append_cons_self_of_not_mem (unbroken text List.mem_cons_self)]
      cases arePieces : (texts.flatMap (fun text => text ++ ['\n'])).splitOn '\n' with
      | nil => exact absurd arePieces (List.splitOn_ne_nil _ _)
      | cons next pieces =>
          rw [arePieces] at ofRest
          rw [endedLines, ofRest, dropReturn_of_trimmed (trimmed text List.mem_cons_self)]
          exact List.cons_ne_nil next pieces

end Text

namespace Listing

/-! ## Words -/

/-- A word of a line: it holds neither blanks nor anything special. -/
structure IsWord (text : List Char) : Prop where
  nonempty : text ≠ []
  unbroken : forall c, c ∈ text -> Text.isBlank c = false
  plain : forall c, c ∈ text -> isSpecial c = false

namespace IsWord

variable {text : List Char}

theorem of_all (nonempty : text ≠ [])
    (areOrdinary : text.all (fun c => !Text.isBlank c && !isSpecial c) = true) : IsWord text := by
  have ordinary : forall c, c ∈ text -> Text.isBlank c = false ∧ isSpecial c = false := by
    intro c member
    simpa using List.all_eq_true.mp areOrdinary c member
  exact
    { nonempty := nonempty
      unbroken := fun c member => (ordinary c member).1
      plain := fun c member => (ordinary c member).2 }

theorem closed (isWord : IsWord text) : Closed text :=
  .of_plain isWord.plain

theorem trimmed (isWord : IsWord text) : Text.Trimmed text :=
  .of_unbroken isWord.unbroken

theorem notMem_of_isBlank (isWord : IsWord text) {blank : Char}
    (blankness : Text.isBlank blank = true) : blank ∉ text := by
  intro member
  have notBlank := isWord.unbroken blank member
  rw [blankness] at notBlank
  cases notBlank

end IsWord

theorem Writable.of_words {words : List (List Char)}
    (areWords : forall word, word ∈ words -> IsWord word) : Writable words where
  separable := by
    have separable := Separable.append (fun word member => (areWords word member).closed) .nil
    rwa [List.append_nil] at separable
  trimmed word member := (areWords word member).trimmed
  endsInText := by
    intro isLast
    exact (areWords [] (List.mem_of_getLast? isLast)).nonempty rfl

/-! ## Mnemonics -/

/-- A word that starts with none of the marks of lines without instructions. -/
structure IsMnemonic (text : List Char) : Prop where
  isWord : IsWord text
  unmarked : forall c, text.head? = some c -> c ≠ ':' ∧ c ≠ '.'

/-- The characters of a text in which every byte is a character. -/
def byteChars (text : String) : List Char :=
  text.toByteArray.data.toList.map (fun byte => Char.ofNat byte.toNat)

/-- Whether the bytes of a mnemonic spell it, and have what a mnemonic needs.
Bytes are looked at because they can be looked up, while characters have to be
decoded. -/
def mnemonicFits (opcode : Opcode) : Bool :=
  let chars := byteChars opcode.mnemonic
  String.ofList chars == opcode.mnemonic && !chars.isEmpty &&
    chars.all (fun c => !Text.isBlank c && !isSpecial c) &&
    chars.head?.all (fun c => c != ':' && c != '.')

theorem mnemonicsFit : Opcode.all.all mnemonicFits = true := by
  decide +kernel

/-- What is found as the mnemonic of an opcode can start a line. -/
theorem isMnemonic_of_ofMnemonic? {text : List Char} {opcode : Opcode}
    (isOpcode : Opcode.ofMnemonic? (String.ofList text) = some opcode) : IsMnemonic text := by
  have found := List.find?_some isOpcode
  rw [beq_iff_eq] at found
  have fits := List.all_eq_true.mp mnemonicsFit opcode (List.mem_of_find?_eq_some isOpcode)
  simp only [mnemonicFits, found, Bool.and_eq_true] at fits
  rcases fits with ⟨⟨⟨spelled, nonempty⟩, areOrdinary⟩, unmarked⟩
  have isText : byteChars (String.ofList text) = text :=
    String.ofList_injective (beq_iff_eq.mp spelled)
  rw [isText] at nonempty areOrdinary unmarked
  constructor
  · apply IsWord.of_all _ areOrdinary
    intro isEmpty
    rw [isEmpty] at nonempty
    cases nonempty
  · intro c isFirst
    rw [isFirst] at unmarked
    simpa using unmarked

/-! ## Lines -/

/-- A line of a mnemonic and operands. -/
def lineOf (mnemonic : List Char) : List (List Char) -> List Char
  | [] => mnemonic
  | operand :: operands => mnemonic ++ ' ' :: joined (operand :: operands)

theorem notMem_joined {c : Char} (notComma : c ≠ ',') (notSpace : c ≠ ' ')
    {texts : List (List Char)} (absent : forall text, text ∈ texts -> c ∉ text) :
    c ∉ joined texts := by
  induction texts with
  | nil => exact List.not_mem_nil
  | cons text others inductionHypothesis =>
      have notInText := absent text List.mem_cons_self
      have notInOthers := inductionHypothesis
        (fun other member => absent other (List.mem_cons_of_mem text member))
      cases others with
      | nil => rwa [joined_singleton]
      | cons next others =>
          rw [joined_cons_cons]
          simp [notInText, notComma, notSpace, notInOthers]

theorem notMem_lineOf {c : Char} (notComma : c ≠ ',') (notSpace : c ≠ ' ') {mnemonic : List Char}
    (notInMnemonic : c ∉ mnemonic) {operands : List (List Char)}
    (absent : forall operand, operand ∈ operands -> c ∉ operand) :
    c ∉ lineOf mnemonic operands := by
  cases operands with
  | nil => exact notInMnemonic
  | cons operand operands =>
      have notInOperands := notMem_joined notComma notSpace absent
      simp [lineOf, notInMnemonic, notSpace, notInOperands]

section Lines

variable {mnemonic : List Char} {operands : List (List Char)}

theorem stripComment_lineOf (isMnemonic : IsWord mnemonic) (writable : Writable operands) :
    stripComment (lineOf mnemonic operands) = lineOf mnemonic operands := by
  cases operands with
  | nil =>
      have whole := isMnemonic.closed.stripComment_append []
      rw [List.append_nil] at whole
      rw [lineOf, whole]
      exact List.append_nil mnemonic
  | cons operand operands =>
      have isSpace : Closed [' '] := .of_isBlank (by decide)
      have pastSpace := isSpace.stripComment_append (joined (operand :: operands))
      rw [writable.separable.stripComment_joined] at pastSpace
      rw [lineOf, isMnemonic.closed.stripComment_append]
      exact congrArg _ pastSpace

theorem trimmed_lineOf (isMnemonic : IsWord mnemonic) (writable : Writable operands) :
    Text.Trimmed (lineOf mnemonic operands) := by
  cases operands with
  | nil => exact isMnemonic.trimmed
  | cons operand operands =>
      rcases writable.exists_getLast?_joined (List.cons_ne_nil operand operands) with
        ⟨last, isLast, lastNotBlank⟩
      constructor
      · intro c isFirst
        cases mnemonic with
        | nil => exact absurd rfl isMnemonic.nonempty
        | cons first rest =>
            exact Option.some.inj isFirst ▸ isMnemonic.unbroken first List.mem_cons_self
      · intro c isLastToo
        rw [lineOf, List.getLast?_append, List.getLast?_cons, isLast, Option.getD_some,
          Option.some_or] at isLastToo
        exact Option.some.inj isLastToo ▸ lastNotBlank

theorem cutAtBlank_lineOf (isMnemonic : IsWord mnemonic) (operands : List (List Char)) :
    Exists fun rest => Text.cutAtBlank (lineOf mnemonic operands) = (mnemonic, rest) ∧
      rest.getD [] = joined operands := by
  cases operands with
  | nil => exact ⟨none, Text.cutAtBlank_of_unbroken isMnemonic.unbroken, rfl⟩
  | cons operand operands =>
      exact ⟨_, Text.cutAtBlank_append isMnemonic.unbroken (by decide) _, rfl⟩

theorem Line.ofWords_ne_code {words : List (List Char)} {instruction : Instruction} :
    ofWords words ≠ .code instruction := by
  unfold ofWords
  split
  · exact Line.noConfusion
  · split
    · exact Line.noConfusion
    · exact Line.noConfusion
    · split <;> exact Line.noConfusion
    · exact Line.noConfusion

/-- A text that starts with no mark is an instruction. -/
theorem Line.ofTrimmed_of_unmarked {text : List Char} (nonempty : text ≠ [])
    (unmarked : forall c, text.head? = some c -> c ≠ ':' ∧ c ≠ '.') :
    ofTrimmed text =
      ofInstruction (Text.cutAtBlank text).1 (Text.trim ((Text.cutAtBlank text).2.getD [])) := by
  unfold ofTrimmed
  split
  · exact absurd rfl nonempty
  · exact absurd rfl (unmarked ':' rfl).1
  · exact absurd rfl (unmarked '.' rfl).2
  · rfl

theorem head?_lineOf (isMnemonic : IsWord mnemonic) (operands : List (List Char)) :
    (lineOf mnemonic operands).head? = mnemonic.head? := by
  cases operands with
  | nil => rfl
  | cons operand operands =>
      rw [lineOf, List.head?_append, List.head?_eq_some_head isMnemonic.nonempty, Option.some_or]

theorem lineOf_ne_nil (isMnemonic : IsWord mnemonic) (operands : List (List Char)) :
    lineOf mnemonic operands ≠ [] := by
  intro isEmpty
  have noFirst := head?_lineOf isMnemonic operands
  rw [isEmpty, List.head?_nil, eq_comm, List.head?_eq_none_iff] at noFirst
  exact isMnemonic.nonempty noFirst

/-- A line of a mnemonic and operands is read as the instruction with them,
unless an operand cannot be read or encoded. -/
theorem Line.ofText_lineOf {opcode : Opcode}
    (isOpcode : Opcode.ofMnemonic? (String.ofList mnemonic) = some opcode)
    (writable : Writable operands) :
    ofText (lineOf mnemonic operands) =
      ((readOperands opcode operands).bind (encodeHigh opcode)).map
        (fun encoded => .code ⟨opcode, encoded⟩) := by
  have isMnemonic := isMnemonic_of_ofMnemonic? isOpcode
  have nonempty := lineOf_ne_nil isMnemonic.isWord operands
  have unmarked : forall c, (lineOf mnemonic operands).head? = some c -> c ≠ ':' ∧ c ≠ '.' := by
    rw [head?_lineOf isMnemonic.isWord]
    exact isMnemonic.unmarked
  rcases cutAtBlank_lineOf isMnemonic.isWord operands with ⟨rest, isCut, areOperands⟩
  rw [ofText, stripComment_lineOf isMnemonic.isWord writable,
    (trimmed_lineOf isMnemonic.isWord writable).trim_eq, ofTrimmed_of_unmarked nonempty unmarked,
    isCut]
  change ofInstruction mnemonic (Text.trim (rest.getD [])) = _
  rw [areOperands, writable.trimmed_joined.trim_eq, ofInstruction, isOpcode]
  simp only [writable.segments_joined]
  cases readOperands opcode operands with
  | error fault => rfl
  | ok operands => rfl

end Lines

theorem instructions_of_single {line : List Char} (single : '\n' ∉ line) (nonempty : line ≠ []) :
    instructions (String.ofList line) =
      match Line.ofText line with
      | .error fault => .error ⟨1, fault⟩
      | .ok line => .ok line.instruction?.toList := by
  rw [instructions, String.toList_ofList, Text.lines_of_single single nonempty, instructionsFrom]
  cases Line.ofText line with
  | error fault => rfl
  | ok line => simp [instructionsFrom, Except.map]

/-- A listing of one line of words holds the instruction that the words make,
unless an operand cannot be read or encoded. -/
theorem instructions_lineOf {mnemonic : List Char} {words : List (List Char)} {opcode : Opcode}
    (isOpcode : Opcode.ofMnemonic? (String.ofList mnemonic) = some opcode)
    (areWords : forall word, word ∈ words -> IsWord word) :
    instructions (String.ofList (lineOf mnemonic words)) =
      match (readOperands opcode words).bind (encodeHigh opcode) with
      | .error fault => .error ⟨1, fault⟩
      | .ok operands => .ok [⟨opcode, operands⟩] := by
  have isMnemonic := isMnemonic_of_ofMnemonic? isOpcode
  have single : '\n' ∉ lineOf mnemonic words := by
    apply notMem_lineOf (by decide) (by decide)
    · exact isMnemonic.isWord.notMem_of_isBlank (by decide)
    · intro word member
      exact (areWords word member).notMem_of_isBlank (by decide)
  rw [instructions_of_single single (lineOf_ne_nil isMnemonic.isWord words),
    Line.ofText_lineOf isOpcode (Writable.of_words areWords)]
  cases (readOperands opcode words).bind (encodeHigh opcode) with
  | error fault => rfl
  | ok encoded => rfl

end Listing

end DalvikFold
