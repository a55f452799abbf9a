import Mathlib.Data.List.Forall2
import DalvikFold.Report.Method

namespace DalvikFold

/-!
# The lines of a report

The report on a method consists of whole lines.  Its table has a title, a row
for each position and a line for each note.  What a run has left is a line for
the position at which it stopped, if it stopped, and a line for each register
that is known, in ascending order of the numbers.
-/

/-- The text of lines, each with its line end. -/
def textOfLines (lines : List String) : String :=
  String.join (lines.map (fun line => line ++ "\n"))

theorem textOfLines_append (first second : List String) :
    textOfLines (first ++ second) = textOfLines first ++ textOfLines second := by
  rw [textOfLines, List.map_append, String.join_append]
  rfl

theorem textOfLines_cons (line : String) (lines : List String) :
    textOfLines (line :: lines) = line ++ "\n" ++ textOfLines lines :=
  String.join_cons

/-! ## The table -/

/-- The text that fills a field up is as many blanks as the text leaves free; a
text that is too long for the field leaves none. -/
def Fills (width : Nat) (text blanks : String) : Prop :=
  blanks.toList = List.replicate (width - text.toList.length) ' '

/-- What a table says about an instruction: whether it has a handler of its own,
falls back, or has none. -/
inductive Dispatch.HasOutcome : Dispatch -> String -> Prop where
  | handler {handler : Handler} (ownEffect : handler.effect ≠ .fallback) :
      HasOutcome (.handled handler) "handler"
  | fallback {handler : Handler} (fallsBack : handler.effect = .fallback) :
      HasOutcome (.handled handler) "fallback"
  | notWired (opcode : Opcode) (index : Nat) : HasOutcome (.notWired opcode index) "not wired"

/-- The row of an instruction at a position, which stands at the right end of its
field.  The mnemonic and the category stand at the left ends of theirs. -/
inductive Dispatch.IsRow (dispatch : Dispatch) (position : Nat) : String -> Prop where
  | intro {beforeNumber behindMnemonic behindCategory outcome : String}
      (number : Fills 5 (Text.decimal position) beforeNumber)
      (mnemonic : Fills 26 dispatch.opcode.mnemonic behindMnemonic)
      (category : Fills 20 dispatch.category.name behindCategory)
      (hasOutcome : dispatch.HasOutcome outcome) :
      IsRow dispatch position (beforeNumber ++ Text.decimal position ++ "  " ++
        (dispatch.opcode.mnemonic ++ behindMnemonic) ++ " " ++
        (dispatch.category.name ++ behindCategory) ++ " " ++ outcome)

/-- The lines of a table: the title, a row for each position, and a line for
each note. -/
inductive PreparedMethod.HasTable (method : PreparedMethod) : List String -> Prop where
  | intro {rows notes : List String}
      (areRows : List.Forall₂ (fun entry row => entry.1.IsRow entry.2 row)
        method.dispatches.zipIdx rows)
      (areNotes : List.Forall₂ (fun diagnostic note => note = "  note: " ++ diagnostic.message)
        method.diagnostics notes) :
      HasTable method (("method " ++ method.descriptor) :: (rows ++ notes))

private theorem alignedRight_eq (width : Nat) (text : String) :
    Exists fun blanks => Fills width text blanks ∧ alignedRight width text = blanks ++ text := by
  refine ⟨String.ofList (List.replicate (width - text.toList.length) ' '), String.toList_ofList, ?_⟩
  rw [alignedRight, List.leftpad, String.ofList_append, String.ofList_toList]

theorem alignedLeft_eq (width : Nat) (text : String) :
    Exists fun blanks => Fills width text blanks ∧ alignedLeft width text = text ++ blanks := by
  refine ⟨String.ofList (List.replicate (width - text.toList.length) ' '), String.toList_ofList, ?_⟩
  rw [alignedLeft, List.rightpad, String.ofList_append, String.ofList_toList]

theorem Dispatch.hasOutcome_outcome (dispatch : Dispatch) :
    dispatch.HasOutcome dispatch.outcome := by
  cases dispatch with
  | notWired opcode index => exact .notWired opcode index
  | handled handler =>
      change HasOutcome _ (if handler.effect == .fallback then "fallback" else "handler")
      by_cases fallsBack : handler.effect = .fallback
      · rw [fallsBack]
        exact .fallback fallsBack
      · rw [if_neg (mt beq_iff_eq.mp fallsBack)]
        exact .handler fallsBack

private theorem Dispatch.exists_row (dispatch : Dispatch) (position : Nat) :
    Exists fun row => dispatch.IsRow position row ∧ dispatch.row position = row ++ "\n" := by
  rcases alignedRight_eq 5 (Text.decimal position) with ⟨beforeNumber, number, numberText⟩
  rcases alignedLeft_eq 26 dispatch.opcode.mnemonic with ⟨behindMnemonic, mnemonic, mnemonicText⟩
  rcases alignedLeft_eq 20 dispatch.category.name with ⟨behindCategory, category, categoryText⟩
  refine ⟨_, .intro number mnemonic category dispatch.hasOutcome_outcome, ?_⟩
  rw [row, numberText, mnemonicText, categoryText]

private theorem exists_rows (dispatches : List Dispatch) (start : Nat) :
    Exists fun rows =>
      List.Forall₂ (fun entry row => entry.1.IsRow entry.2 row) (dispatches.zipIdx start) rows ∧
        rowsFrom start dispatches = textOfLines rows := by
  induction dispatches generalizing start with
  | nil => exact ⟨[], .nil, rfl⟩
  | cons dispatch dispatches inductionHypothesis =>
      rcases dispatch.exists_row start with ⟨row, isRow, rowText⟩
      rcases inductionHypothesis (start + 1) with ⟨rows, areRows, restText⟩
      refine ⟨row :: rows, .cons isRow areRows, ?_⟩
      rw [rowsFrom, rowText, restText, textOfLines_cons]

private theorem exists_notes (diagnostics : List Diagnostic) :
    Exists fun notes =>
      List.Forall₂ (fun (diagnostic : Diagnostic) note => note = "  note: " ++ diagnostic.message)
        diagnostics notes ∧
        String.join (diagnostics.map Diagnostic.line) = textOfLines notes := by
  refine ⟨diagnostics.map (fun diagnostic => "  note: " ++ diagnostic.message), ?_, ?_⟩
  · rw [List.forall₂_map_right_iff]
    exact List.forall₂_same.mpr (fun diagnostic member => rfl)
  · rw [textOfLines, List.map_map]
    rfl

/-- The table of a method consists of its lines. -/
theorem PreparedMethod.exists_table (method : PreparedMethod) :
    Exists fun lines => method.HasTable lines ∧ method.table = textOfLines lines := by
  rcases exists_rows method.dispatches 0 with ⟨rows, areRows, rowsText⟩
  rcases exists_notes method.diagnostics with ⟨notes, areNotes, notesText⟩
  refine ⟨_, .intro areRows areNotes, ?_⟩
  rw [table, rowsText, notesText, textOfLines_cons, textOfLines_append, String.append_assoc]

/-! ## What a run has left -/

/-- The lines about the end of a run: one if it stopped, and none otherwise. -/
inductive RunSummary.HasStop (summary : RunSummary) : List String -> Prop where
  | stopped {index : Nat} (isIndex : summary.stoppedAt = some index) :
      HasStop summary ["  stopped at index " ++ Text.decimal index]
  | completed (notStopped : summary.stoppedAt = none) : HasStop summary []

theorem RunSummary.exists_stop (summary : RunSummary) :
    Exists fun lines => summary.HasStop lines ∧ summary.stopLine = textOfLines lines := by
  unfold stopLine
  cases isStopped : summary.stoppedAt with
  | none => exact ⟨[], .completed isStopped, rfl⟩
  | some index =>
      refine ⟨_, .stopped isStopped, ?_⟩
      rw [textOfLines_cons]
      exact String.append_empty.symm

/-- The registers that are known, with their values, in ascending order. -/
structure RegisterFile.Knows (registers : RegisterFile) (entries : List (Nat × Value)) :
    Prop where
  ascending : entries.Pairwise (fun first second => first.1 < second.1)
  mem_iff : forall number value,
    (number, value) ∈ entries <-> registers.values[number]? = some value ∧ value ≠ .unknown

theorem Value.isKnown_iff {value : Value} : value.isKnown = true <-> value ≠ .unknown := by
  cases value with
  | unknown => exact iff_of_false Bool.false_ne_true (fun different => different rfl)
  | _ => exact iff_of_true rfl Value.noConfusion

theorem RegisterFile.knows_known (registers : RegisterFile) :
    registers.Knows registers.known where
  ascending := by
    rw [known, List.pairwise_map]
    apply List.Pairwise.filter
    -- The numbers are those of the positions, before any of them is left out.
    have numbers : (registers.values.toList.zipIdx.map Prod.snd).Pairwise (· < ·) := by
      rw [List.zipIdx_map_snd]
      exact List.pairwise_lt_range' 1
    exact List.pairwise_map.mp numbers
  mem_iff number value := by
    rw [known, List.mem_map]
    constructor
    · rintro ⟨⟨found, position⟩, member, isEntry⟩
      cases isEntry
      rcases List.mem_filter.mp member with ⟨isThere, isKnown⟩
      refine ⟨?_, Value.isKnown_iff.mp isKnown⟩
      rw [← Array.getElem?_toList]
      exact List.mem_zipIdx_iff_getElem?.mp isThere
    · rintro ⟨isThere, isKnown⟩
      rw [← Array.getElem?_toList] at isThere
      exact ⟨(value, number), List.mem_filter.mpr
        ⟨List.mem_zipIdx_iff_getElem?.mpr isThere, Value.isKnown_iff.mpr isKnown⟩, rfl⟩

/-- The lines of the known registers. -/
inductive RegisterFile.HasLines (registers : RegisterFile) : List String -> Prop where
  | intro {entries : List (Nat × Value)} (knows : registers.Knows entries) :
      HasLines registers
        (entries.map (fun entry => "  v" ++ Text.decimal entry.1 ++ " = " ++ entry.2.render))

theorem RegisterFile.exists_lines (registers : RegisterFile) :
    Exists fun texts => registers.HasLines texts ∧ registers.lines = textOfLines texts := by
  refine ⟨_, .intro registers.knows_known, ?_⟩
  rw [lines, textOfLines, List.map_map]
  rfl

end DalvikFold
