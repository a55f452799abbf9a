import DalvikFold.Listing.Basic
import DalvikFold.Proofs.Layout

namespace DalvikFold

/-!
# Listings in two parts

Two listings make one listing if a line feed is put between them.  The lines of
the whole are the lines of its parts, but for the end of the first part.  There
the line feed ends what was the last line, so a carriage return in front of it
is no longer part of that line, and a line feed that the part ended with is now
followed by a line without text.  Neither can be noticed in what the lines say,
because a carriage return is a blank, and blanks at the end of a line say
nothing.

So the whole is read as its parts are, one after the other.  A line of the
second part is further on by the number of lines that the first part and the
line feed behind it make.
-/

namespace Text

private theorem length_splitOn_lineFeed (text : List Char) :
    (text.splitOn '\n').length = text.count '\n' + 1 := by
  induction text with
  | nil => rfl
  | cons c text inductionHypothesis =>
      rw [List.splitOn_cons_eq_if_modifyHead, List.count_cons]
      split
      · rw [List.length_cons, inductionHypothesis]
      · rw [List.length_modifyHead, inductionHypothesis, Nat.add_zero]

/-- Pieces with others behind them are ended by line feeds. -/
theorem endedLines_append (first : List (List Char)) {second : List (List Char)}
    (nonempty : second ≠ []) :
    endedLines (first ++ second) = first.map dropReturn ++ endedLines second := by
  induction first with
  | nil => rfl
  | cons piece first inductionHypothesis =>
      rw [List.cons_append, endedLines, inductionHypothesis]
      · rfl
      · exact List.append_ne_nil_of_right_ne_nil first nonempty

/-- A line feed ends every line of the text in front of it. -/
theorem lines_append (first second : List Char) :
    lines (first ++ '\n' :: second) = (first.splitOn '\n').map dropReturn ++ lines second := by
  have nonempty : second.splitOn '\n' ≠ [] := List.splitOn_ne_nil _ _
  rw [lines, List.splitOn_append_cons_self, endedLines_append _ nonempty, ← lines]

end Text

namespace Listing

/-! ## Line ends -/

theorem stripCommentFrom_of_blank (state : Quotation) {blanks : List Char}
    (blankness : Text.Blank blanks) : stripCommentFrom state blanks = blanks := by
  apply stripCommentFrom_of_noComment
  intro before comment areBlanks
  have isBlank := blankness '#' (areBlanks ▸ List.mem_append_right before List.mem_cons_self)
  cases isBlank

/-- Blanks behind a line say nothing, be it a comment or an open string literal
that they stand in. -/
theorem ofText_append_blank {blanks : List Char} (blankness : Text.Blank blanks)
    (line : List Char) : Line.ofText (line ++ blanks) = Line.ofText line := by
  rw [Line.ofText, Line.ofText]
  by_cases unchanged : stripComment line = line
  · -- The scan may stand inside of a string literal behind the line.
    have pastLine : stripComment (line ++ blanks) = line ++ blanks := by
      rw [stripComment, stripCommentFrom_append unchanged, stripCommentFrom_of_blank _ blankness]
    rw [pastLine, Text.trim_append_blank blankness, unchanged]
  · -- The comment of the line goes on to its end.
    have hidden : stripComment (line ++ blanks) = stripComment line :=
      stripCommentFrom_append_of_comment unchanged blanks
    rw [hidden]

private theorem ofText_dropReturn (line : List Char) :
    Line.ofText (Text.dropReturn line) = Line.ofText line := by
  unfold Text.dropReturn
  by_cases isReturn : line.getLast? = some '\r'
  · rw [if_pos isReturn]
    have isLine : line.dropLast ++ ['\r'] = line := List.dropLast_append_getLast? _ isReturn
    have returnBlank : Text.Blank ['\r'] := .singleton rfl
    rw [← ofText_append_blank returnBlank, isLine]
  · rw [if_neg isReturn]

/-- The lines of a text say the same if another line feed ends the last one. -/
theorem instructionsFrom_endedLines (number : Nat) (pieces : List (List Char)) :
    instructionsFrom number (pieces.map Text.dropReturn) =
      instructionsFrom number (Text.endedLines pieces) := by
  induction pieces generalizing number with
  | nil => rfl
  | cons piece pieces inductionHypothesis =>
      cases pieces with
      | nil =>
          -- An empty last piece is a line now, but one that says nothing.
          cases piece with
          | nil => rfl
          | cons c piece =>
              exact instructionsFrom_congr (.cons (ofText_dropReturn (c :: piece)) .nil) number
      | cons next pieces =>
          rw [List.map_cons, Text.endedLines, instructionsFrom, instructionsFrom,
            inductionHypothesis]
          exact List.cons_ne_nil next pieces

/-! ## Lines further on -/

/-- The same fault, so many lines further on. -/
def Error.shift (offset : Nat) (error : Error) : Error :=
  { error with line := error.line + offset }

theorem instructionsFrom_shift (number offset : Nat) (lines : List (List Char)) :
    instructionsFrom (number + offset) lines =
      (instructionsFrom number lines).mapError (Error.shift offset) := by
  induction lines generalizing number with
  | nil => rfl
  | cons text lines inductionHypothesis =>
      rw [instructionsFrom, instructionsFrom]
      cases Line.ofText text with
      | error fault => rfl
      | ok line =>
          rw [Nat.add_right_comm, inductionHypothesis]
          cases instructionsFrom (number + 1) lines <;> rfl

theorem instructionsFrom_append (number : Nat) (first second : List (List Char)) :
    instructionsFrom number (first ++ second) =
      (instructionsFrom number first).bind (fun read =>
        (instructionsFrom (number + first.length) second).map (read ++ ·)) := by
  induction first generalizing number with
  | nil =>
      change instructionsFrom number second = (instructionsFrom number second).map ([] ++ ·)
      cases instructionsFrom number second <;> rfl
  | cons text first inductionHypothesis =>
      rw [List.cons_append, instructionsFrom, instructionsFrom, List.length_cons,
        inductionHypothesis, Nat.add_right_comm, Nat.add_assoc]
      cases Line.ofText text with
      | error fault => rfl
      | ok line =>
          cases instructionsFrom (number + 1) first with
          | error error => rfl
          | ok read =>
              cases instructionsFrom (number + (first.length + 1)) second with
              | error error => rfl
              | ok others => exact congrArg Except.ok (List.append_assoc _ read others).symm

/-! ## Listings -/

/-- The error is about the first of the lines that cannot be read. -/
def IsFirstFault (lines : List (List Char)) (error : Error) : Prop :=
  Exists fun earlier => Exists fun text => Exists fun later =>
    lines = earlier ++ text :: later ∧
      (forall other, other ∈ earlier -> Exists fun line => Line.ofText other = .ok line) ∧
        Line.ofText text = .error error.fault ∧ error.line = earlier.length + 1

private theorem IsFirstFault.of_error {text : List Char} {fault : Fault}
    (refused : Line.ofText text = .error fault) (lines : List (List Char)) :
    IsFirstFault (text :: lines) ⟨1, fault⟩ :=
  ⟨[], text, lines, rfl, fun _ member => absurd member List.not_mem_nil, refused, rfl⟩

theorem IsFirstFault.cons {text : List Char} {line : Line} {lines : List (List Char)}
    {error : Error} (isFirst : IsFirstFault lines error) (isLine : Line.ofText text = .ok line) :
    IsFirstFault (text :: lines) (error.shift 1) := by
  rcases isFirst with ⟨earlier, faulty, later, areLines, readable, isFault, isNumber⟩
  refine ⟨text :: earlier, faulty, later, congrArg (text :: ·) areLines, ?_, isFault,
    congrArg (· + 1) isNumber⟩
  intro other member
  rcases List.mem_cons.mp member with isText | inEarlier
  · exact ⟨line, isText ▸ isLine⟩
  · exact readable other inEarlier

private theorem isFirstFault_of_instructionsFrom {lines : List (List Char)} {error : Error}
    (refused : instructionsFrom 1 lines = .error error) : IsFirstFault lines error := by
  induction lines generalizing error with
  | nil => cases refused
  | cons text lines inductionHypothesis =>
      rw [instructionsFrom] at refused
      cases isLine : Line.ofText text with
      | error fault =>
          rw [isLine] at refused
          cases refused
          exact .of_error isLine lines
      | ok line =>
          -- The lines behind this one count from one in the induction hypothesis.
          rw [isLine] at refused
          have behind := Except.eq_error_of_map refused
          rw [instructionsFrom_shift] at behind
          cases ofRest : instructionsFrom 1 lines with
          | ok read =>
              rw [ofRest] at behind
              cases behind
          | error other =>
              rw [ofRest] at behind
              cases behind
              exact (inductionHypothesis ofRest).cons isLine

theorem instructions_eq_error_iff (source : String) (error : Error) :
    instructions source = .error error <->
      IsFirstFault (Text.lines source.toList) error := by
  constructor
  · exact isFirstFault_of_instructionsFrom
  · rintro ⟨earlier, text, later, areLines, readable, isFault, isNumber⟩
    rw [instructions, areLines, instructionsFrom_of_error readable isFault, Nat.add_comm,
      ← isNumber]

/-- Two listings with a line feed between them are read one after the other. -/
theorem instructions_lineFeed (first second : String) :
    instructions (first ++ "\n" ++ second) =
      (instructions first).bind (fun read =>
        ((instructions second).mapError (Error.shift (first.toList.count '\n' + 1))).map
          (read ++ ·)) := by
  have isWhole : (first ++ "\n" ++ second).toList = first.toList ++ '\n' :: second.toList := by
    rw [String.toList_append, String.toList_append, List.append_assoc]
    rfl
  have lineCount : ((first.toList.splitOn '\n').map Text.dropReturn).length =
      first.toList.count '\n' + 1 := by
    rw [List.length_map, Text.length_splitOn_lineFeed]
  rw [instructions, isWhole, Text.lines_append, instructionsFrom_append, lineCount,
    instructionsFrom_endedLines, instructionsFrom_shift]
  rfl

/-- Listings can be put together, and errors are about the first line at fault.
With a line feed between them, two listings are read one after the other: a fault
of the first one is reported as it is, and a fault of the second one at a line
that is further on by one and by the number of line feeds in the first one.  The
line that is reported is always the first one of the listing that cannot be
read. -/
theorem instructions_append :
    (forall first second : String,
      instructions (first ++ "\n" ++ second) =
        match instructions first, instructions second with
        | .error error, _ => .error error
        | .ok _, .error error => .error ⟨error.line + 1 + first.toList.count '\n', error.fault⟩
        | .ok read, .ok others => .ok (read ++ others)) ∧
    (forall (source : String) (error : Error),
      instructions source = .error error <->
        IsFirstFault (Text.lines source.toList) error) := by
  refine ⟨?_, instructions_eq_error_iff⟩
  intro first second
  rw [instructions_lineFeed]
  cases instructions first with
  | error error => rfl
  | ok read =>
      cases instructions second with
      | error error =>
          dsimp only
          rw [Nat.add_right_comm error.line 1]
          rfl
      | ok others => rfl

/-- An instruction with a comment, and a line without text that a carriage
return ends. -/
def endsInReturn : String :=
  "nop # one\r\n\r"

/-- A line without text, and one that cannot be read. -/
def endsInFault : String :=
  "\nnap\r"

theorem instructions_append_returnAndFault :
    instructions (endsInReturn ++ "\n" ++ endsInFault) = .error ⟨4, .unknownMnemonic "nap"⟩ ∧
      instructions (endsInFault ++ "\n" ++ endsInReturn) = .error ⟨2, .unknownMnemonic "nap"⟩ ∧
      instructions (endsInReturn ++ "\n" ++ endsInReturn) = .ok [⟨.nop, []⟩, ⟨.nop, []⟩] := by
  have read : instructions endsInReturn = .ok [⟨.nop, []⟩] := rfl
  have refused : instructions endsInFault = .error ⟨2, .unknownMnemonic "nap"⟩ := rfl
  refine ⟨?_, ?_, ?_⟩
  · rw [instructions_append.1, read, refused]
    rfl
  · rw [instructions_append.1, refused]
  · rw [instructions_append.1, read]
    rfl

end Listing
end DalvikFold
