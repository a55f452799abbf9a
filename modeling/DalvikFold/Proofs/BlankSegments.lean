import Mathlib.Data.List.Forall2
import DalvikFold.Proofs.InstructionLines
import DalvikFold.Proofs.PrintedOperands

namespace DalvikFold
namespace Listing

/-!
# Blank segments

Every segment of an instruction line stands for something: it is one operand, or
the registers of a group.  A blank segment stands for nothing.  In front of a
comma it is refused, unless the opcode takes any text for a call site.  Behind
the last comma it is not a segment at all, so that a comma may end a line.
-/

/-- What a segment can stand for. -/
inductive SegmentReading (opcode : Opcode) (segment : List Char) : List Operand -> Prop where
  | operand {operand : Operand}
      (read : readOperand opcode (Text.trim segment) = .ok [operand]) :
      SegmentReading opcode segment [operand]
  | group {numbers : List UInt16} (isGroup : (Text.trim segment).head? = some '\x7b')
      (read : readOperand opcode (Text.trim segment) = .ok (numbers.map .register)) :
      SegmentReading opcode segment (numbers.map .register)

private theorem segmentReading_of_readOperand {opcode : Opcode} {segment : List Char}
    {operands : List Operand} (read : readOperand opcode (Text.trim segment) = .ok operands) :
    SegmentReading opcode segment operands := by
  have opened := read
  unfold readOperand at opened
  split at opened
  case h_1 group isText =>
    split at opened
    · rcases exists_registers_of_readGroup opened with ⟨numbers, areOperands⟩
      subst areOperands
      exact .group (by rw [isText]; rfl) read
    · cases opened
  case h_2 =>
    split at opened
    · cases opened
    · split at opened
      · split at opened
        · cases opened
          exact .operand read
        · cases opened
      · rcases Except.exists_of_map opened with ⟨operand, _, isOperand⟩
        subst isOperand
        exact .operand read

def withoutBlankEnd (segments : List (List Char)) : List (List Char) :=
  if segments.getLast?.map Text.trim = some [] then segments.dropLast else segments

theorem CutAtCommas.segments_eq {part : List Char} {cuts : List (List Char)}
    (cut : CutAtCommas part cuts) : segments part = (withoutBlankEnd cuts).map Text.trim := by
  rw [segments, cut.segmentsFrom_eq, withoutBlankEnd, List.getLast?_map]
  split
  · exact List.map_dropLast.symm
  · rfl

private theorem dropLast_subset_withoutBlankEnd (segments : List (List Char)) :
    segments.dropLast ⊆ withoutBlankEnd segments := by
  unfold withoutBlankEnd
  split
  · exact List.Subset.refl _
  · exact List.dropLast_subset segments

private theorem exists_groups_of_readOperands {opcode : Opcode} {segments : List (List Char)}
    {operands : List Operand}
    (read : readOperands opcode (segments.map Text.trim) = .ok operands) :
    Exists fun groups => List.Forall₂ (SegmentReading opcode) segments groups ∧
      groups.flatten = operands := by
  induction segments generalizing operands with
  | nil =>
      cases read
      exact ⟨[], .nil, rfl⟩
  | cons segment segments inductionHypothesis =>
      rcases exists_of_readOperands_cons read with ⟨first, others, firstRead, restRead, areOperands⟩
      rcases inductionHypothesis restRead with ⟨groups, areGroups, areOthers⟩
      refine ⟨first :: groups, .cons (segmentReading_of_readOperand firstRead) areGroups, ?_⟩
      rw [List.flatten_cons, areOthers, areOperands]

/-- Only a call site can be nothing. -/
theorem readOperands_nil {opcode : Opcode}
    (noCallSite : forall list, opcode ≠ .invokeCustom list) :
    readOperands opcode [[]] = .error (.badOperand "" .unrecognized) := by
  have isReference : readReference opcode [] = .error .unrecognized := by
    unfold readReference
    split
    · contradiction
    · exact absurd rfl (noCallSite _)
    · rfl
  have refused : readOperand opcode [] = .error .unrecognized := by
    change (readReference opcode []).map _ = _
    rw [isReference]
    rfl
  rw [readOperands, refused]

/-- A line is refused if a blank segment stands in front of a comma, unless it
may be a call site. -/
theorem isRefused_of_blank {line part segment : List Char} {opcode : Opcode}
    {cuts : List (List Char)} (isInstruction : Line.IsInstruction line opcode part)
    (cut : CutAtCommas part cuts) (noCallSite : forall list, opcode ≠ .invokeCustom list)
    (isSegment : segment ∈ cuts.dropLast) (blankness : Text.Blank segment) : IsRefused line := by
  have member : [] ∈ (withoutBlankEnd cuts).map Text.trim :=
    List.mem_map.mpr ⟨segment, dropLast_subset_withoutBlankEnd cuts isSegment,
      Text.trim_eq_nil_of_blank blankness⟩
  rcases List.append_of_mem member with ⟨before, behind, areSegments⟩
  rcases exists_error_of_append (readOperands_nil noCallSite) before behind with ⟨fault, refused⟩
  apply isInstruction.isRefused
  rw [cut.segments_eq, areSegments]
  exact refused

/-- An instruction line is read from its segments without a blank one behind the
last comma.  A blank segment in front of a comma is refused, unless the opcode
takes any text for a call site and so reads an empty one.  A line that is
accepted has one operand or one group for each segment, apart from a blank one
behind the last comma. -/
theorem blankSegments_refused {line part : List Char} {opcode : Opcode}
    {cuts : List (List Char)} (isInstruction : Line.IsInstruction line opcode part)
    (cut : CutAtCommas part cuts) :
    Line.ofText line =
        Line.ofOperands opcode (readOperands opcode ((withoutBlankEnd cuts).map Text.trim)) ∧
    ((forall list, opcode ≠ .invokeCustom list) ->
      (Exists fun segment => segment ∈ cuts.dropLast ∧ Text.Blank segment) ->
      IsRefused line) ∧
    (forall list, opcode = .invokeCustom list ->
      readOperands opcode [[]] = .ok [.callSite ""]) ∧
    (forall instruction, Line.ofText line = .ok (.code instruction) ->
      instruction.opcode = opcode ∧
      Exists fun groups =>
        List.Forall₂ (SegmentReading opcode) (withoutBlankEnd cuts) groups ∧
          encodeHigh opcode groups.flatten = .ok instruction.operands) := by
  have reading := isInstruction.ofText_eq
  rw [cut.segments_eq] at reading
  refine ⟨reading, ?_, ?_, ?_⟩
  · rintro noCallSite ⟨segment, isSegment, blankness⟩
    exact isRefused_of_blank isInstruction cut noCallSite isSegment blankness
  · rintro list rfl
    rfl
  · intro instruction accepted
    rw [reading] at accepted
    rcases Except.exists_of_map accepted with ⟨encoded, isEncoded, isCode⟩
    cases isCode
    rcases Except.exists_of_bind isEncoded with ⟨operands, operandsRead, isEncoded⟩
    rcases exists_groups_of_readOperands operandsRead with ⟨groups, areGroups, areOperands⟩
    exact ⟨rfl, groups, areGroups, areOperands ▸ isEncoded⟩

/-- The line `move , v1`. -/
def blankFirst : List Char :=
  ['m', 'o', 'v', 'e', ' ', ',', ' ', 'v', '1']

/-- The line `return v0,`. -/
def blankLast : List Char :=
  ['r', 'e', 't', 'u', 'r', 'n', ' ', 'v', '0', ',']

theorem isInstruction_blankLast :
    Line.IsInstruction blankLast (.returnValue .single) ['v', '0', ','] :=
  ⟨['r', 'e', 't', 'u', 'r', 'n'], some ['v', '0', ','], by decide, by decide, by decide⟩

theorem cutAtCommas_blankLast : CutAtCommas ['v', '0', ','] [['v', '0'], []] :=
  cutAtCommas_iff.mpr (by decide)

theorem ofText_blankLast :
    Line.ofText blankLast = .ok (.code ⟨.returnValue .single, [.register 0]⟩) := by
  decide

theorem blankSegments_refused_firstAndLast :
    IsRefused blankFirst ∧
    Line.ofText blankLast = .ok (.code ⟨.returnValue .single, [.register 0]⟩) ∧
    Exists fun groups =>
      List.Forall₂ (SegmentReading (.returnValue .single)) [['v', '0']] groups ∧
        encodeHigh (.returnValue .single) groups.flatten = .ok [.register 0] := by
  have isInstruction : Line.IsInstruction blankFirst (.move .single .near) [',', ' ', 'v', '1'] :=
    ⟨['m', 'o', 'v', 'e'], some [',', ' ', 'v', '1'], by decide, by decide, by decide⟩
  have cut : CutAtCommas [',', ' ', 'v', '1'] [[], [' ', 'v', '1']] :=
    cutAtCommas_iff.mpr (by decide)
  have isBlank : [] ∈ [[], [' ', 'v', '1']].dropLast := List.mem_cons_self
  have last := blankSegments_refused isInstruction_blankLast cutAtCommas_blankLast
  refine ⟨?_, ?_, (last.2.2.2 _ ofText_blankLast).2⟩
  · exact (blankSegments_refused isInstruction cut).2.1 (fun _ => Opcode.noConfusion)
      ⟨[], isBlank, .nil⟩
  · rw [last.1]
    decide

/-- Wherever a segment is blank, the line is refused. -/
def RefusesBlankSegments (line : List Char) : Prop :=
  forall opcode part cuts, Line.IsInstruction line opcode part -> ¬ Text.Blank part ->
    CutAtCommas part cuts -> (Exists fun segment => segment ∈ cuts ∧ Text.Blank segment) ->
    Exists fun fault : Fault => fault.IsBadOperand ∧ Line.ofText line = .error fault

/-- The line of a call with an empty group of registers and no call site. -/
def blankCallSite : List Char :=
  ['i', 'n', 'v', 'o', 'k', 'e', '-', 'c', 'u', 's', 't', 'o', 'm', ' ', ',', '\x7b', '\x7d']

/-- A comma may end a line, and a call site may be nothing. -/
theorem blankSegments_accepted :
    ¬ RefusesBlankSegments blankLast ∧ ¬ RefusesBlankSegments blankCallSite := by
  constructor
  · intro refuses
    have notBlank : ¬ Text.Blank ['v', '0', ','] :=
      fun blankness => absurd (blankness 'v' List.mem_cons_self) (by decide)
    rcases refuses _ _ _ isInstruction_blankLast notBlank cutAtCommas_blankLast
      ⟨[], by decide, .nil⟩ with ⟨fault, _, refused⟩
    rw [ofText_blankLast] at refused
    cases refused
  · intro refuses
    have isInstruction : Line.IsInstruction blankCallSite (.invokeCustom .listed)
        [',', '\x7b', '\x7d'] :=
      ⟨['i', 'n', 'v', 'o', 'k', 'e', '-', 'c', 'u', 's', 't', 'o', 'm'],
        some [',', '\x7b', '\x7d'], by decide, by decide, by decide⟩
    have cut : CutAtCommas [',', '\x7b', '\x7d'] [[], ['\x7b', '\x7d']] :=
      cutAtCommas_iff.mpr (by decide)
    have notBlank : ¬ Text.Blank [',', '\x7b', '\x7d'] :=
      fun blankness => absurd (blankness ',' List.mem_cons_self) (by decide)
    have accepted : Line.ofText blankCallSite =
        .ok (.code ⟨.invokeCustom .listed, [.callSite ""]⟩) := by
      decide
    rcases refuses _ _ _ isInstruction notBlank cut ⟨[], by decide, .nil⟩ with
      ⟨fault, _, refused⟩
    rw [accepted] at refused
    cases refused

end Listing
end DalvikFold
