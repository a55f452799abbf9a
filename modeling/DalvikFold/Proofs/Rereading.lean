import DalvikFold.Proofs.PrintedOperands

namespace DalvikFold

/-!
# Instructions are read back

What a listing says is more than what its instructions say: comments, labels and
directives are gone once it has been read, a range of registers has become the
registers in it, and a literal may have been spelled in any way.  Printing the
instructions and reading them once more changes nothing further, apart from
three things that are not printed as they would be read.
-/

/-! ## Instructions -/

/-- The instructions that are printed as they are read. -/
structure Instruction.IsReprintable (instruction : Instruction) : Prop where
  /-- The high forms of constants are printed with their field and read with
  their value. -/
  notEncoded :
    instruction.opcode = .constant (.narrow .high16) ∨
        instruction.opcode = .constant (.wide .high16) ->
      instruction.literal? 1 = none
  /-- Code points are printed between braces and read without them. -/
  short : forall operand, operand ∈ instruction.operands -> operand.isShort = true
  /-- A comma at the end of a line separates nothing. -/
  endsInText : instruction.operands.getLast? ≠ some (.callSite "")

instance (instruction : Instruction) : Decidable instruction.IsReprintable :=
  decidable_of_iff
    ((instruction.opcode = .constant (.narrow .high16) ∨
          instruction.opcode = .constant (.wide .high16) ->
        instruction.literal? 1 = none) ∧
      (forall operand, operand ∈ instruction.operands -> operand.isShort = true) ∧
      instruction.operands.getLast? ≠ some (.callSite ""))
    ⟨fun parts => ⟨parts.1, parts.2.1, parts.2.2⟩,
      fun reprintable => ⟨reprintable.notEncoded, reprintable.short, reprintable.endsInText⟩⟩

namespace Listing

/-- The text of an instruction is a line of its mnemonic and its printed operands. -/
theorem toList_render (instruction : Instruction) :
    instruction.render.toList =
      lineOf instruction.opcode.mnemonic.toList (renderings instruction.operands) := by
  rcases instruction with ⟨opcode, operands⟩
  cases operands with
  | nil => rfl
  | cons operand operands =>
      change (opcode.mnemonic ++ " " ++
        ", ".intercalate ((operand :: operands).map Operand.render)).toList = _
      rw [String.toList_append, String.toList_append, String.toList_intercalate, List.map_map,
        List.append_assoc]
      rfl

/-- Without a literal in the place of the constant there is nothing to encode. -/
theorem eq_of_encodeHigh {opcode : Opcode} {operands encoded : List Operand}
    (isEncoded : encodeHigh opcode operands = .ok encoded)
    (reprintable : Instruction.IsReprintable ⟨opcode, encoded⟩) : encoded = operands := by
  unfold encodeHigh at isEncoded
  split at isEncoded
  case h_1 shift first value rest hasShift =>
    have isHigh : opcode = .constant (.narrow .high16) ∨ opcode = .constant (.wide .high16) := by
      unfold highShift? at hasShift
      split at hasShift
      · exact .inl rfl
      · exact .inr rfl
      · cases hasShift
    have noLiteral := reprintable.notEncoded isHigh
    dsimp only at isEncoded
    split at isEncoded
    · cases isEncoded
      cases noLiteral
    · cases isEncoded
  case h_2 => exact (Except.ok.inj isEncoded).symm

/-- How an instruction was read from a line.  The part with the operands has no
comment any more, and its segments are read. -/
inductive ReadFrom (line : List Char) : Instruction -> Prop where
  | intro {opcode : Opcode} {part : List Char} {operands encoded : List Operand}
      (isOpcode : Opcode.ofMnemonic? opcode.mnemonic = some opcode)
      (noComment : stripComment part = part) (inLine : forall c, c ∈ part -> c ∈ line)
      (read : readOperands opcode (segments part) = .ok operands)
      (isEncoded : encodeHigh opcode operands = .ok encoded) : ReadFrom line ⟨opcode, encoded⟩

theorem readFrom_of_ofInstruction {line mnemonic part : List Char} {instruction : Instruction}
    (read : Line.ofInstruction mnemonic part = .ok (.code instruction))
    (noComment : IsMnemonic mnemonic -> stripComment part = part)
    (inLine : forall c, c ∈ part -> c ∈ line) : ReadFrom line instruction := by
  unfold Line.ofInstruction at read
  cases isOpcode : Opcode.ofMnemonic? (String.ofList mnemonic) with
  | none =>
      rw [isOpcode] at read
      cases read
  | some opcode =>
      simp only [isOpcode] at read
      have isMnemonic := isMnemonic_of_ofMnemonic? isOpcode
      have found := List.find?_some isOpcode
      rw [beq_iff_eq] at found
      rw [← found] at isOpcode
      cases operandsRead : readOperands opcode (segments part) with
      | error fault =>
          rw [operandsRead] at read
          cases read
      | ok operands =>
          rw [operandsRead] at read
          rcases Except.exists_of_map read with ⟨encoded, isEncoded, isInstruction⟩
          cases isInstruction
          exact .intro isOpcode (noComment isMnemonic) inLine operandsRead isEncoded

private theorem readFrom_of_ofText {line : List Char} {instruction : Instruction}
    (read : Line.ofText line = .ok (.code instruction)) : ReadFrom line instruction := by
  have noComment : stripComment (Text.trim (stripComment line)) =
      Text.trim (stripComment line) :=
    stripComment_trim (stripCommentFrom_stripCommentFrom .outside line)
  have inLine : forall c, c ∈ Text.trim (stripComment line) -> c ∈ line := by
    intro c member
    exact stripCommentFrom_subset .outside line (Text.mem_of_mem_trim member)
  unfold Line.ofText Line.ofTrimmed at read
  split at read
  · cases read
  · cases read
  · cases Line.ofWords_ne_code (Except.ok.inj read)
  · rcases Text.cutAtBlank_cases (Text.trim (stripComment line)) with
      isCut | ⟨word, blank, rest, isBlank, isText, isCut⟩
    · rw [isCut] at read
      exact readFrom_of_ofInstruction read (fun _ => rfl)
        (fun c member => absurd member List.not_mem_nil)
    · rw [isCut] at read
      rw [isText] at noComment inLine
      have blankClosed : Closed [blank] := .of_isBlank isBlank
      apply readFrom_of_ofInstruction read
      · intro isMnemonic
        exact stripComment_trim (blankClosed.stripComment_of_append
          (isMnemonic.isWord.closed.stripComment_of_append noComment))
      · intro c member
        exact inLine c (List.mem_append_right word
          (List.mem_cons_of_mem blank (Text.mem_of_mem_trim member)))

/-- The text of an instruction is a line, and the instruction is what it says. -/
structure IsReread (instruction : Instruction) : Prop where
  read : Line.ofText instruction.render.toList = .ok (.code instruction)
  unbroken : '\n' ∉ instruction.render.toList
  trimmed : Text.Trimmed instruction.render.toList

private theorem ReadFrom.isReread {line : List Char} {instruction : Instruction}
    (readFrom : ReadFrom line instruction) (unbroken : '\n' ∉ line)
    (reprintable : instruction.IsReprintable) : IsReread instruction := by
  cases readFrom with
  | @intro opcode part operands encoded isOpcode noComment inLine read isEncoded =>
      have areOperands := eq_of_encodeHigh isEncoded reprintable
      subst areOperands
      have isOpcode : Opcode.ofMnemonic? (String.ofList opcode.mnemonic.toList) = some opcode := by
        rw [String.ofList_toList, isOpcode]
      have isMnemonic := isMnemonic_of_ofMnemonic? isOpcode
      have readBack : forall operand, operand ∈ encoded -> ReadsBack opcode operand := by
        apply readsBack_of_readOperands read
        · exact fun segment member => trimmed_of_mem_segments member
        · intro segment isSegment member
          exact unbroken (inLine _ (mem_of_mem_segments isSegment member))
        · exact reprintable.short
      have writable : Writable (renderings encoded) :=
        writable_renderings
          (separable_renderings (separable_segments noComment) read reprintable.short)
          readBack reprintable.endsInText
      constructor
      · rw [toList_render, Line.ofText_lineOf isOpcode writable, readOperands_renderings readBack,
          Except.bind, isEncoded]
        rfl
      · rw [toList_render]
        apply notMem_lineOf (by decide) (by decide)
        · exact isMnemonic.isWord.notMem_of_isBlank (by decide)
        · intro rendering member
          rcases List.mem_map.mp member with ⟨operand, isOperand, isRendering⟩
          exact isRendering ▸ (readBack operand isOperand).unbroken
      · rw [toList_render]
        exact trimmed_lineOf isMnemonic.isWord writable

end Listing

/-! ## Listings -/

namespace Listing

/-- A listing of the given instructions, each on a line of its own. -/
def print (instructions : List Instruction) : String :=
  String.join (instructions.map (fun instruction => instruction.render ++ "\n"))

private theorem toList_print (instructions : List Instruction) :
    (print instructions).toList =
      (instructions.map (fun instruction => instruction.render.toList)).flatMap
        (fun text => text ++ ['\n']) := by
  have endedByLineFeed : forall text : String, (text ++ "\n").toList = text.toList ++ ['\n'] := by
    intro text
    rw [String.toList_append]
    rfl
  rw [print, String.toList_join, List.flatMap_map, List.flatMap_map]
  simp only [endedByLineFeed]

private theorem exists_line_of_mem {number : Nat} {lines : List (List Char)}
    {instructions : List Instruction} (read : instructionsFrom number lines = .ok instructions)
    {instruction : Instruction} (member : instruction ∈ instructions) :
    Exists fun line => line ∈ lines ∧ Line.ofText line = .ok (.code instruction) := by
  induction lines generalizing number instructions with
  | nil =>
      cases read
      cases member
  | cons text lines inductionHypothesis =>
      rw [instructionsFrom] at read
      cases lineRead : Line.ofText text with
      | error fault =>
          rw [lineRead] at read
          cases read
      | ok line =>
          rw [lineRead] at read
          rcases Except.exists_of_map read with ⟨others, othersRead, areInstructions⟩
          subst areInstructions
          rcases List.mem_append.mp member with inLine | inOthers
          · cases line with
            | code code =>
                cases List.mem_singleton.mp inLine
                exact ⟨text, List.mem_cons_self, lineRead⟩
            | _ => cases inLine
          · rcases inductionHypothesis othersRead inOthers with ⟨other, isLine, isCode⟩
            exact ⟨other, List.mem_cons_of_mem text isLine, isCode⟩

theorem instructionsFrom_renders {instructions : List Instruction}
    (reread : forall instruction, instruction ∈ instructions -> IsReread instruction)
    (number : Nat) :
    instructionsFrom number (instructions.map (fun instruction => instruction.render.toList)) =
      .ok instructions := by
  induction instructions generalizing number with
  | nil => rfl
  | cons instruction instructions inductionHypothesis =>
      have ofRest := inductionHypothesis
        (fun other member => reread other (List.mem_cons_of_mem instruction member)) (number + 1)
      rw [List.map_cons, instructionsFrom, (reread instruction List.mem_cons_self).read]
      simp only [ofRest]
      rfl

/-- Instructions that were read from a listing are read again from their own
texts. -/
theorem instructions_print {source : String} {instructions : List Instruction}
    (read : Listing.instructions source = .ok instructions)
    (reprintable : forall instruction, instruction ∈ instructions -> instruction.IsReprintable) :
    Listing.instructions (print instructions) = .ok instructions := by
  have reread : forall instruction, instruction ∈ instructions -> IsReread instruction := by
    intro instruction member
    rcases exists_line_of_mem read member with ⟨line, isLine, isCode⟩
    exact (readFrom_of_ofText isCode).isReread (Text.lineFeed_notMem_of_mem_lines isLine)
      (reprintable instruction member)
  have areLines : Text.lines (print instructions).toList =
      instructions.map (fun instruction => instruction.render.toList) := by
    rw [toList_print]
    apply Text.lines_flatMap
    · intro text isText
      rcases List.mem_map.mp isText with ⟨instruction, member, isRender⟩
      exact isRender ▸ (reread instruction member).unbroken
    · intro text isText
      rcases List.mem_map.mp isText with ⟨instruction, member, isRender⟩
      exact isRender ▸ (reread instruction member).trimmed
  rw [Listing.instructions, areLines]
  exact instructionsFrom_renders reread 1

/-- A listing with comments, a label, a directive, a range of registers, literals
in several spellings, and a call site that opens a bracket and a quote. -/
def oddListing : String :=
  ".method f()V # signs
    const-wide v00, -0X8000000000000000l
  :loop
    const-string v1, \"a#b, \\u007b\\\"\\\\'\\n\" # text
    invoke-virtual/range \x7bv2 .. v4\x7d, LA;->g(I[J)V\r
    if-eqz v0, :the #end
    const/high16 v5
    invoke-custom \x7bv0, v1\x7d,, s(1, \"# open
    return-void
  .end method"

/-- The instructions of this listing. -/
def oddInstructions : List Instruction := [
  ⟨.constant (.wide .full), [.register 0, .literal (-9223372036854775808)]⟩,
  ⟨.constant .string, [.register 1, .string "a#b, \x7b\"\\'\n"]⟩,
  ⟨.invoke .virtual .range,
    [.register 2, .register 3, .register 4, .method "LA;->g(I[J)V"]⟩,
  ⟨.branchZero .eq, [.register 0, .label "the"]⟩,
  ⟨.constant (.narrow .high16), [.register 5]⟩,
  ⟨.invokeCustom .listed,
    [.register 0, .register 1, .callSite "", .callSite "s(1, \"# open"]⟩,
  ⟨.returnVoid, []⟩]

theorem instructions_print_oddInstructions :
    Listing.instructions oddListing = .ok oddInstructions ∧
      (forall instruction, instruction ∈ oddInstructions -> instruction.IsReprintable) ∧
      print oddInstructions =
        "const-wide v0, -0x8000000000000000\n" ++
        "const-string v1, \"a#b, \x7b\\\"\\\\'\\n\"\n" ++
        "invoke-virtual/range v2, v3, v4, LA;->g(I[J)V\n" ++
        "if-eqz v0, :the\nconst/high16 v5\n" ++
        "invoke-custom v0, v1, , s(1, \"# open\nreturn-void\n" ∧
      Listing.instructions (print oddInstructions) = .ok oddInstructions := by
  have read : Listing.instructions oddListing = .ok oddInstructions := by
    rw [Listing.instructions, oddListing, String.toList_ofList]
    decide +kernel
  have reprintable : forall instruction, instruction ∈ oddInstructions ->
      instruction.IsReprintable := by
    decide +kernel
  exact ⟨read, reprintable, by decide +kernel, instructions_print read reprintable⟩

end Listing

end DalvikFold
