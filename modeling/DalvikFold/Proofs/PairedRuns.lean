import DalvikFold.Method.Run
import DalvikFold.Proofs.Computations

namespace DalvikFold

/-!
# Two runs side by side

Several properties of runs compare two runs of the same method that start from
different registers.  Such a comparison is carried by a relation between the
two register files, which each handler has to preserve.  A handler reads, it
computes, and it writes once, and so the relation need only be checked for one
read, one operation and one assignment.
-/

namespace RegisterFile

/-! ## Register files of one size -/

/-- The register files have one size and hold related values, position by
position. -/
structure Related (relation : Value -> Value -> Prop) (left right : RegisterFile) : Prop where
  count_eq : left.count = right.count
  values : forall (position : Nat) (value other : Value),
    left.values[position]? = some value -> right.values[position]? = some other ->
      relation value other

variable {relation : Value -> Value -> Prop} {left right : RegisterFile}

/-- A relation that every value has to itself holds between a register file and
itself. -/
theorem Related.refl (reflexive : forall value, relation value value) (registers : RegisterFile) :
    Related relation registers registers where
  count_eq := rfl
  values := by
    intro position value other first second
    rw [first] at second
    cases second
    exact reflexive value

theorem read_of_lt (registers : RegisterFile) (register : UInt16)
    (present : register.toNat < registers.count) :
    registers.read register = .ok registers.values[register.toNat] := by
  have found : registers.get? register = some registers.values[register.toNat] :=
    Array.getElem?_eq_getElem present
  rw [read, found]

theorem read_of_not_lt (registers : RegisterFile) (register : UInt16)
    (absent : ¬ register.toNat < registers.count) :
    registers.read register = .error (.invalidRegister register registers.count) := by
  have missing : registers.get? register = none :=
    Array.getElem?_eq_none (Nat.le_of_not_lt absent)
  rw [read, missing]

/-- Whether a register can be read depends on the size alone. -/
theorem Related.read (related : Related relation left right) (register : UInt16) :
    EndAlike Eq relation (left.read register) (right.read register) := by
  by_cases present : register.toNat < left.count
  · have presentRight : register.toNat < right.count := related.count_eq ▸ present
    rw [read_of_lt left register present, read_of_lt right register presentRight]
    exact .ok (related.values register.toNat _ _ (Array.getElem?_eq_getElem present)
      (Array.getElem?_eq_getElem presentRight))
  · have absentRight : ¬ register.toNat < right.count := related.count_eq ▸ present
    rw [read_of_not_lt left register present, read_of_not_lt right register absentRight,
      related.count_eq]
    exact .error rfl

theorem Related.set (related : Related relation left right) (register : UInt16)
    {value other : Value} (values : relation value other) :
    Related relation (left.set register value) (right.set register other) where
  count_eq := by rw [count_set, count_set, related.count_eq]
  values := by
    intro position first second atLeft atRight
    simp only [RegisterFile.set, Array.getElem?_setIfInBounds] at atLeft atRight
    by_cases same : register.toNat = position
    · rw [if_pos same] at atLeft atRight
      split at atLeft
      · split at atRight
        · cases atLeft
          cases atRight
          exact values
        · cases atRight
      · cases atLeft
    · rw [if_neg same] at atLeft atRight
      exact related.values position first second atLeft atRight

/-- Whether a register can be assigned depends on the size alone. -/
theorem Related.assign (related : Related relation left right) (register : UInt16)
    {value other : Value} (values : relation value other) :
    EndAlike Eq (Related relation) (left.assign register value) (right.assign register other) := by
  unfold RegisterFile.assign
  rw [related.count_eq]
  split
  · exact .ok (related.set register values)
  · exact .error rfl

/-- The steps are the same, and the register files after them are related. -/
def SameStep (relation : Value -> Value -> Prop) (first second : Step × RegisterFile) : Prop :=
  first.1 = second.1 ∧ Related relation first.2 second.2

/-- A handler ends with an assignment, and so the relation of the values that
are assigned is all that its end depends on. -/
theorem Related.assign_step (related : Related relation left right) (register : UInt16)
    {value other : Value} (values : relation value other) (step : Step) :
    EndAlike Eq (SameStep relation)
      (do let registers <- left.assign register value; return (step, registers))
      (do let registers <- right.assign register other; return (step, registers)) :=
  (related.assign register values).bind fun _ _ after => .ok ⟨rfl, after⟩

end RegisterFile

end DalvikFold
