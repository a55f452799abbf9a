import DalvikFold.Proofs.InstructionLines
import DalvikFold.Proofs.WrittenRegisters

namespace DalvikFold
namespace Listing

/-!
# Three ways of writing registers

Registers are written one by one, as a list between braces, or as a range
between braces.  The three ways agree: a line has the same operands whichever of
them is taken, and it is refused if a number is too large or a range goes down.

Where the registers stand does not matter.  What a text contributes to a line is
the same at every place where commas separate it from what is around it.
-/

/-- The text between braces, with blanks inside of them and around them. -/
inductive Braced (text : List Char) : List Char -> Prop where
  | intro {inner group : List Char} (inside : Text.Padded text inner)
      (around : Text.Padded ('\x7b' :: (inner ++ ['\x7d'])) group) : Braced text group

/-- The ways of writing registers. -/
inductive Writes : List Nat -> List Char -> Prop where
  | flat {numbers : List Nat} {names text : List Char} (lists : ListsNames numbers names)
      (around : Text.Padded names text) : Writes numbers text
  | group {numbers : List Nat} {inside text : List Char} (holds : Holds numbers inside)
      (braced : Braced inside text) : Writes numbers text

/-! ## Groups -/

/-- Between braces a comma separates nothing. -/
theorem Ordinary.closed {text : List Char} (ordinary : Ordinary text) :
    Closed ('\x7b' :: (text ++ ['\x7d'])) := by
  -- The text leaves the depth at one, where the scan takes no comma for a separator.
  have onText : Passage ⟨.outside, 1⟩ text ⟨.outside, 1⟩ := by
    induction text with
    | nil => exact .nil _
    | cons c text inductionHypothesis =>
        have ofRest := inductionHypothesis
          (fun other member => ordinary other (List.mem_cons_of_mem c member))
        rcases ordinary c List.mem_cons_self with isComma | plain
        · subst isComma
          exact .cons (by decide) (by decide) ofRest
        · have notSign : c ≠ '#' := ne_of_not_special plain (by decide)
          refine .cons (fun isSign => notSign isSign.1) (fun isComma => nomatch isComma.2.2) ?_
          rw [ScanState.step_of_plain plain rfl]
          exact ofRest
  have onBrace : Passage ⟨.outside, 1⟩ ['\x7d'] .start := .cons (by decide) (by decide) (.nil _)
  exact .cons (by decide) (by decide) (onText.append onBrace)

private theorem readOperand_group (opcode : Opcode) (inner : List Char) :
    readOperand opcode ('\x7b' :: (inner ++ ['\x7d'])) = readGroup (Text.trim inner) := by
  rw [readOperand, List.getLast?_concat, if_pos rfl, List.dropLast_concat]

/-! ## Places among other operands -/

/-- The segments that a text contributes to an operand part. -/
structure Contributes (text : List Char) (texts : List (List Char)) : Prop where
  separates : Separates text
  areSegments : trimmedSegments text = texts
  endsInText : texts.getLast? ≠ some []

namespace Contributes

variable {text other : List Char} {texts others : List (List Char)}

theorem of_closed (closed : Closed text) (trimmed : Text.Trimmed text) (nonempty : text ≠ []) :
    Contributes text [text] where
  separates := closed.after_eq
  areSegments := by
    have atEnd : segmentsFrom .outside 0 [] = [[]] := rfl
    have whole := closed.segmentsFrom_append atEnd
    rw [List.append_nil] at whole
    change (segmentsFrom .outside 0 text).map Text.trim = _
    exact (congrArg _ whole).trans (congrArg (fun text => [text]) trimmed.trim_eq)
  endsInText isLast := nonempty (Option.some.inj isLast)

theorem padded {padded : List Char} (contributes : Contributes text texts)
    (isPadded : Text.Padded text padded) : Contributes padded texts := by
  cases isPadded with
  | intro leftBlank rightBlank =>
      refine ⟨?_, ?_, contributes.endsInText⟩
      · exact (contributes.separates.append_blank rightBlank).blank_append leftBlank
      · rw [trimmedSegments_blank_append leftBlank, trimmedSegments_append_blank rightBlank,
          contributes.areSegments]

theorem comma (first : Contributes text texts) (second : Contributes other others) :
    Contributes (text ++ ',' :: other) (texts ++ others) where
  separates := first.separates.append_comma second.separates
  areSegments := by
    rw [first.separates.trimmedSegments_append, first.areSegments, second.areSegments]
  endsInText := by
    have nonempty := trimmedSegments_ne_nil other
    rw [second.areSegments] at nonempty
    rw [List.getLast?_append, List.getLast?_eq_some_getLast nonempty, Option.some_or,
      ← List.getLast?_eq_some_getLast]
    exact second.endsInText

end Contributes

/-- What stands in front of a text: nothing, or operands and a comma behind them. -/
inductive EndsAtComma : List Char -> List (List Char) -> Prop where
  | nothing : EndsAtComma [] []
  | operands {text : List Char} (separates : Separates text) :
      EndsAtComma (text ++ [',']) (trimmedSegments text)

/-- What stands behind a text: nothing, or a comma and operands behind it. -/
inductive StartsAtComma : List Char -> List (List Char) -> Prop where
  | nothing : StartsAtComma [] []
  | operands (text : List Char) : StartsAtComma (',' :: text) (segments text)

theorem Contributes.segments_eq {text front back : List Char}
    {texts before behind : List (List Char)} (contributes : Contributes text texts)
    (isFront : EndsAtComma front before) (isBack : StartsAtComma back behind) :
    segments (front ++ (text ++ back)) = before ++ (texts ++ behind) := by
  have ofBack : segments (text ++ back) = texts ++ behind := by
    cases isBack with
    | nothing =>
        rw [List.append_nil, Listing.segments_eq, contributes.areSegments,
          if_neg contributes.endsInText, List.append_nil]
    | operands rest => rw [contributes.separates.segments_append, contributes.areSegments]
  cases isFront with
  | nothing => exact ofBack
  | operands separates =>
      rw [List.append_assoc, List.singleton_append, separates.segments_append, ofBack]

theorem ReadsNumbers.single {numbers : List Nat} {opcode : Opcode} {text : List Char}
    (reads : ReadsNumbers numbers (readOperand opcode text)) :
    ReadsNumbers numbers (readOperands opcode [text]) := by
  rw [readOperands, readOperands]
  generalize readOperand opcode text = result at reads
  cases reads with
  | registers fit =>
      change ReadsNumbers numbers (.ok (Listing.registers numbers ++ []))
      rw [List.append_nil]
      exact .registers fit
  | tooLarge member large failure => exact .tooLarge member large _

theorem ListsNames.exists_contributes {numbers : List Nat} {text : List Char}
    (lists : ListsNames numbers text) :
    Exists fun names => List.Forall₂ Names numbers names ∧ Contributes text names := by
  have ofName : forall {number : Nat} {name : List Char}, Names number name ->
      Contributes name [name] :=
    fun names => .of_closed names.isWord.closed names.isWord.trimmed names.isWord.nonempty
  induction lists with
  | single names => exact ⟨_, .cons names .nil, ofName names⟩
  | @cons number numbers name comma others names isComma _ inductionHypothesis =>
      rcases inductionHypothesis with ⟨otherNames, areNames, contributes⟩
      cases isComma with
      | @intro left right leftBlank rightBlank =>
          have isName : Text.Padded name ([] ++ (name ++ left)) := .intro .nil leftBlank
          have areOthers : Text.Padded others (right ++ (others ++ [])) := .intro rightBlank .nil
          have isText : name ++ ((left ++ ([','] ++ right)) ++ others) =
              ([] ++ (name ++ left)) ++ ',' :: (right ++ (others ++ [])) := by
            simp only [List.append_assoc, List.cons_append, List.nil_append, List.append_nil]
          rw [isText]
          exact ⟨name :: otherNames, .cons names areNames,
            ((ofName names).padded isName).comma (contributes.padded areOthers)⟩

/-- A group is one segment. -/
theorem Braced.exists_contributes {text group : List Char} (braced : Braced text group)
    (ordinary : Ordinary text) (trimmed : Text.Trimmed text) :
    Exists fun whole => Contributes group [whole] ∧
      forall opcode, readOperand opcode whole = readGroup text := by
  cases braced with
  | @intro inner group inside around =>
      have isClosed := (ordinary.padded inside).closed
      have isTrimmed : Text.Trimmed (['\x7b'] ++ (inner ++ ['\x7d'])) :=
        .append (.singleton (by decide)) (by decide) (.singleton (by decide)) (by decide) inner
      have contributes := Contributes.of_closed isClosed isTrimmed (List.cons_ne_nil _ _)
      refine ⟨_, contributes.padded around, ?_⟩
      intro opcode
      rw [readOperand_group, inside.trim_eq, trimmed.trim_eq]

/-- However registers are written, the segments are read as these registers. -/
theorem Writes.exists_contributes {numbers : List Nat} {text : List Char}
    (writes : Writes numbers text) (opcode : Opcode) :
    Exists fun texts => Contributes text texts ∧
      ReadsNumbers numbers (readOperands opcode texts) := by
  cases writes with
  | flat lists around =>
      rcases lists.exists_contributes with ⟨names, areNames, contributes⟩
      exact ⟨names, contributes.padded around, readOperands_names areNames opcode⟩
  | group holds braced =>
      rcases braced.exists_contributes holds.ordinary holds.trimmed with
        ⟨whole, contributes, isRead⟩
      refine ⟨[whole], contributes, ReadsNumbers.single ?_⟩
      rw [isRead]
      exact holds.readsNumbers

/-! ## Instructions with registers -/

theorem length_eq_of_encodeHigh {opcode : Opcode} {operands encoded : List Operand}
    (isEncoded : encodeHigh opcode operands = .ok encoded) :
    encoded.length = operands.length := by
  unfold encodeHigh at isEncoded
  split at isEncoded
  · dsimp only at isEncoded
    split at isEncoded
    · cases isEncoded
      rfl
    · cases isEncoded
  · cases isEncoded
    rfl

/-- Encoding changes a literal and no register. -/
theorem getElem?_of_encodeHigh {opcode : Opcode} {operands encoded : List Operand}
    (isEncoded : encodeHigh opcode operands = .ok encoded) {index : Nat} {number : UInt16}
    (isRegister : operands[index]? = some (.register number)) :
    encoded[index]? = some (.register number) := by
  unfold encodeHigh at isEncoded
  split at isEncoded
  · dsimp only at isEncoded
    split at isEncoded
    · cases isEncoded
      rcases index with _ | _ | index
      · exact isRegister
      · cases isRegister
      · exact isRegister
    · cases isEncoded
  · cases isEncoded
    exact isRegister

/-- The instruction has the registers at this place: behind the operands that
are read in front of it, and in front of those that are read behind it. -/
def HasRegisters (opcode : Opcode) (before behind : List (List Char)) (numbers : List Nat)
    (instruction : Instruction) : Prop :=
  Exists fun first => Exists fun last =>
    readOperands opcode before = .ok first ∧ readOperands opcode behind = .ok last ∧
      instruction.operands.length = first.length + (numbers.length + last.length) ∧
        (instruction.operands.drop first.length).take numbers.length = registers numbers

private theorem hasRegisters_of_encodeHigh {opcode : Opcode} {before behind : List (List Char)}
    {first last : List Operand} {numbers : List Nat} {instruction : Instruction}
    (firstRead : readOperands opcode before = .ok first)
    (lastRead : readOperands opcode behind = .ok last)
    (isEncoded : encodeHigh opcode (first ++ (registers numbers ++ last)) =
      .ok instruction.operands) :
    HasRegisters opcode before behind numbers instruction := by
  have sameLength : (registers numbers).length = numbers.length := List.length_map _
  have isLength := length_eq_of_encodeHigh isEncoded
  rw [List.length_append, List.length_append, sameLength] at isLength
  refine ⟨first, last, firstRead, lastRead, isLength, List.ext_getElem? fun index => ?_⟩
  by_cases inside : index < numbers.length
  · have isRegister : (registers numbers)[index]? =
        some (.register (UInt16.ofNat numbers[index])) := by
      rw [registers, List.getElem?_map, List.getElem?_eq_getElem inside, Option.map_some]
    have atPlace : (first ++ (registers numbers ++ last))[first.length + index]? =
        some (.register (UInt16.ofNat numbers[index])) := by
      rw [List.getElem?_append_right (Nat.le_add_right _ _), Nat.add_sub_cancel_left,
        List.getElem?_append_left (sameLength ▸ inside), isRegister]
    rw [List.getElem?_take_of_lt inside, List.getElem?_drop,
      getElem?_of_encodeHigh isEncoded atPlace, isRegister]
  · have outside := Nat.le_of_not_lt inside
    have pastTaken :
        ((instruction.operands.drop first.length).take numbers.length).length ≤ index :=
      Nat.le_trans (List.length_take_le _ _) outside
    have pastRegisters : (registers numbers).length ≤ index := Nat.le_trans sameLength.le outside
    rw [List.getElem?_eq_none pastTaken, List.getElem?_eq_none pastRegisters]

/-- The line is read with these registers in their place, whatever is read around
them. -/
structure ReadsRegisters (line : List Char) (opcode : Opcode) (before behind : List (List Char))
    (numbers : List Nat) : Prop where
  isRead : Line.ofText line = Line.ofOperands opcode
    ((readOperands opcode before).bind fun first =>
      (readOperands opcode behind).map fun last => first ++ (registers numbers ++ last))
  inPlace : forall instruction, Line.ofText line = .ok (.code instruction) ->
    instruction.opcode = opcode ∧ HasRegisters opcode before behind numbers instruction

private theorem readsRegisters_of_ofText {line : List Char} {opcode : Opcode}
    {before behind : List (List Char)} {numbers : List Nat}
    (isRead : Line.ofText line = Line.ofOperands opcode
      ((readOperands opcode before).bind fun first =>
        (readOperands opcode behind).map fun last => first ++ (registers numbers ++ last))) :
    ReadsRegisters line opcode before behind numbers := by
  refine ⟨isRead, fun instruction accepted => ?_⟩
  rw [isRead] at accepted
  rcases Except.exists_of_map accepted with ⟨encoded, isEncoded, isCode⟩
  cases isCode
  rcases Except.exists_of_bind isEncoded with ⟨operands, areOperands, isEncoded⟩
  rcases Except.exists_of_bind areOperands with ⟨first, firstRead, areOperands⟩
  rcases Except.exists_of_map areOperands with ⟨last, lastRead, areOperands⟩
  subst areOperands
  exact ⟨rfl, hasRegisters_of_encodeHigh firstRead lastRead isEncoded⟩

/-- However registers are written, and whatever stands around them, the line is
read with exactly these registers in their place.  If a number is too large, or
a range goes down, the line is refused. -/
theorem registers_agree {line front text back : List Char} {opcode : Opcode}
    {before behind : List (List Char)} (isFront : EndsAtComma front before)
    (isBack : StartsAtComma back behind)
    (isInstruction : Line.IsInstruction line opcode (front ++ (text ++ back))) :
    (forall numbers, Writes numbers text ->
      (forall number, number ∈ numbers -> number < UInt16.size) ->
        ReadsRegisters line opcode before behind numbers) ∧
    (forall numbers, Writes numbers text ->
      (Exists fun number => number ∈ numbers ∧ UInt16.size ≤ number) -> IsRefused line) ∧
    (forall inside first last, SpansNames first last inside -> Braced inside text ->
      last < first -> IsRefused line) := by
  refine ⟨?_, ?_, ?_⟩
  · intro numbers writes fit
    rcases writes.exists_contributes opcode with ⟨texts, contributes, reads⟩
    apply readsRegisters_of_ofText
    rw [isInstruction.ofText_eq, contributes.segments_eq isFront isBack, readOperands_append,
      readOperands_append, reads.eq_registers fit]
    cases readOperands opcode before with
    | error fault => rfl
    | ok first => cases readOperands opcode behind <;> rfl
  · rintro numbers writes ⟨number, member, large⟩
    rcases writes.exists_contributes opcode with ⟨texts, contributes, reads⟩
    rcases reads.exists_error member large with ⟨fault, refused⟩
    rcases exists_error_of_append refused before behind with ⟨earlier, refused⟩
    apply isInstruction.isRefused
    rw [contributes.segments_eq isFront isBack]
    exact refused
  · intro inside first last spans braced descending
    rcases braced.exists_contributes spans.ordinary spans.trimmed with
      ⟨whole, contributes, isRead⟩
    rcases spans.exists_error descending with ⟨fault, refused⟩
    have wholeRefused : readOperands opcode [whole] =
        .error (.badOperand (String.ofList whole) fault) := by
      rw [readOperands, isRead, refused]
    rcases exists_error_of_append wholeRefused before behind with ⟨earlier, refused⟩
    apply isInstruction.isRefused
    rw [contributes.segments_eq isFront isBack]
    exact refused

/-- A line with a register and a range. -/
def rangeLine : List Char :=
  ['m', 'o', 'v', 'e', ' ', 'v', '1', ',', '\x7b', 'v', '7', ' ', '.', '.', 'v', '8', '\x7d']

/-- A line with a number that is too large by one. -/
def largeLine : List Char :=
  ['m', 'o', 'v', 'e', ' ', 'v', '6', '5', '5', '3', '6']

/-- A line with a range that goes down. -/
def descendingLine : List Char :=
  ['m', 'o', 'v', 'e', ' ', '\x7b', 'v', '8', '.', '.', 'v', '7', '\x7d']

theorem registers_agree_threeLines :
    ReadsRegisters rangeLine (.move .single .near) [['v', '1']] [] [7, 8] ∧
      IsRefused largeLine ∧ IsRefused descendingLine := by
  have mnemonic : Opcode.ofMnemonic? (String.ofList ['m', 'o', 'v', 'e']) =
      some (.move .single .near) := by
    decide
  have seven : Names 7 ['v', '7'] := @Names.intro [7] (by decide)
  have eight : Names 8 ['v', '8'] := @Names.intro [8] (by decide)
  have tooLarge : Names 65536 ['v', '6', '5', '5', '3', '6'] :=
    @Names.intro [6, 5, 5, 3, 6] (by decide)
  have unpadded : forall text, Text.Padded text text := by
    intro text
    have isPadded : Text.Padded text ([] ++ (text ++ [])) := .intro .nil .nil
    rwa [List.append_nil] at isPadded
  have dots : Text.Padded ['.', '.'] [' ', '.', '.'] := by
    have space : Text.Blank [' '] := fun c member => List.mem_singleton.mp member ▸ rfl
    exact .intro space .nil
  have upwards : SpansNames 7 8 ['v', '7', ' ', '.', '.', 'v', '8'] := .intro seven dots eight
  have downwards : SpansNames 8 7 ['v', '8', '.', '.', 'v', '7'] :=
    .intro eight (unpadded _) seven
  have behindOne : EndsAtComma (['v', '1'] ++ [',']) [['v', '1']] := .operands rfl
  refine ⟨?_, ?_, ?_⟩
  · have isInstruction : Line.IsInstruction rangeLine (.move .single .near)
        ((['v', '1'] ++ [',']) ++
          (['\x7b', 'v', '7', ' ', '.', '.', 'v', '8', '\x7d'] ++ [])) :=
      ⟨_, some ['v', '1', ',', '\x7b', 'v', '7', ' ', '.', '.', 'v', '8', '\x7d'], by decide,
        mnemonic, by decide⟩
    exact (registers_agree behindOne .nothing isInstruction).1 [7, 8]
      (.group (.range upwards (by decide)) (.intro (unpadded _) (unpadded _))) (by decide)
  · have isInstruction : Line.IsInstruction largeLine (.move .single .near)
        ([] ++ (['v', '6', '5', '5', '3', '6'] ++ [])) :=
      ⟨_, some ['v', '6', '5', '5', '3', '6'], by decide, mnemonic, by decide⟩
    exact (registers_agree .nothing .nothing isInstruction).2.1 [65536]
      (.flat (.single tooLarge) (unpadded _)) ⟨65536, by decide, by decide⟩
  · have isInstruction : Line.IsInstruction descendingLine (.move .single .near)
        ([] ++ (['\x7b', 'v', '8', '.', '.', 'v', '7', '\x7d'] ++ [])) :=
      ⟨_, some ['\x7b', 'v', '8', '.', '.', 'v', '7', '\x7d'], by decide, mnemonic, by decide⟩
    exact (registers_agree .nothing .nothing isInstruction).2.2 _ 8 7 downwards
      (.intro (unpadded _) (unpadded _)) (by decide)

end Listing
end DalvikFold
