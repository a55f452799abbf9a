import DalvikFold.Proofs.PairedRuns

namespace DalvikFold

/-!
# Registers are untyped bits

A register remembers which instruction wrote it, but no instruction asks.  An
int and a float of the same thirty-two bits are interchangeable, and so are a
long and a double of the same sixty-four: a run cannot tell register files
apart that differ only in this.

The relation is an observation of the values, not of their constructors, so the
proof never lists the combinations of types.  An operation sees a number only
through the word of its own width, and two values with the same bits show the
same words.  The one place where the type is seen is the complaint about a
value of the wrong width, which names the type that was found.
-/

/-! ## Values and complaints that cannot be told apart -/

/-- The values are both unknown, the same string or class, or numbers of the
same width and bits. -/
inductive Value.SameBits : Value -> Value -> Prop where
  | unknown : SameBits .unknown .unknown
  | string (text : String) : SameBits (.string text) (.string text)
  | classObject (descriptor : String) : SameBits (.classObject descriptor) (.classObject descriptor)
  | narrow {left right : Value} {bits : BitVec 32} (leftBits : left.narrow? = some bits)
      (rightBits : right.narrow? = some bits) : SameBits left right
  | wide {left right : Value} {bits : BitVec 64} (leftBits : left.wide? = some bits)
      (rightBits : right.wide? = some bits) : SameBits left right

/-- The errors are the same, except that a complaint about a value may name
another type as the one that was found. -/
inductive ExecutionError.SameBlame : ExecutionError -> ExecutionError -> Prop where
  | refl (error : ExecutionError) : SameBlame error error
  | typeMismatch (register : UInt16) (expected : NumericType) (got other : ValueType) :
      SameBlame (.typeMismatch register expected got) (.typeMismatch register expected other)

/-- The runs end alike and leave registers with the same bits, whether they
succeed or fail. -/
structure RunOutcome.SameBits (first second : RunOutcome) : Prop where
  results : EndAlike ExecutionError.SameBlame Eq first.result second.result
  registers : RegisterFile.Related Value.SameBits first.registers second.registers

theorem ExecutionError.SameBlame.of_eq {first second : ExecutionError} (same : first = second) :
    SameBlame first second :=
  same ▸ .refl first

namespace Value

theorem eq_of_narrow? {value : Value} {bits : BitVec 32} (narrow : value.narrow? = some bits) :
    value = .int bits ∨ value = .float bits := by
  cases value with
  | int word => exact .inl (congrArg int (Option.some.inj narrow))
  | float word => exact .inr (congrArg float (Option.some.inj narrow))
  | _ => cases narrow

theorem eq_of_wide? {value : Value} {bits : BitVec 64} (wide : value.wide? = some bits) :
    value = .long bits ∨ value = .double bits := by
  cases value with
  | long word => exact .inl (congrArg long (Option.some.inj wide))
  | double word => exact .inr (congrArg double (Option.some.inj wide))
  | _ => cases wide

namespace SameBits

theorem refl (value : Value) : SameBits value value := by
  cases value with
  | int bits => exact .narrow rfl rfl
  | long bits => exact .wide rfl rfl
  | float bits => exact .narrow rfl rfl
  | double bits => exact .wide rfl rfl
  | string text => exact .string text
  | classObject descriptor => exact .classObject descriptor
  | unknown => exact .unknown

variable {left right : Value}

theorem narrow?_eq (same : SameBits left right) : left.narrow? = right.narrow? := by
  cases same with
  | unknown => rfl
  | string text => rfl
  | classObject descriptor => rfl
  | narrow leftBits rightBits => rw [leftBits, rightBits]
  | wide leftBits rightBits =>
      rcases eq_of_wide? leftBits with rfl | rfl <;>
        rcases eq_of_wide? rightBits with rfl | rfl <;> rfl

theorem wide?_eq (same : SameBits left right) : left.wide? = right.wide? := by
  cases same with
  | unknown => rfl
  | string text => rfl
  | classObject descriptor => rfl
  | narrow leftBits rightBits =>
      rcases eq_of_narrow? leftBits with rfl | rfl <;>
        rcases eq_of_narrow? rightBits with rfl | rfl <;> rfl
  | wide leftBits rightBits => rw [leftBits, rightBits]

theorem isKnown_eq (same : SameBits left right) : left.isKnown = right.isKnown := by
  cases same with
  | unknown => rfl
  | string text => rfl
  | classObject descriptor => rfl
  | narrow leftBits rightBits =>
      rcases eq_of_narrow? leftBits with rfl | rfl <;>
        rcases eq_of_narrow? rightBits with rfl | rfl <;> rfl
  | wide leftBits rightBits =>
      rcases eq_of_wide? leftBits with rfl | rfl <;>
        rcases eq_of_wide? rightBits with rfl | rfl <;> rfl

/-! ## Operations see words only -/

theorem narrowAs_alike (same : SameBits left right) (expected : NumericType) (register : UInt16) :
    EndAlike ExecutionError.SameBlame Eq
      (left.narrowAs expected register) (right.narrowAs expected register) := by
  unfold narrowAs
  rw [same.narrow?_eq]
  cases right.narrow? with
  | some bits => exact .ok rfl
  | none => exact .error (.typeMismatch register expected _ _)

theorem wideAs_alike (same : SameBits left right) (expected : NumericType) (register : UInt16) :
    EndAlike ExecutionError.SameBlame Eq
      (left.wideAs expected register) (right.wideAs expected register) := by
  unfold wideAs
  rw [same.wide?_eq]
  cases right.wide? with
  | some bits => exact .ok rfl
  | none => exact .error (.typeMismatch register expected _ _)

end SameBits

end Value

/-- Once the words of both operands are taken, the operation has forgotten
where they came from. -/
theorem Operation.evaluate_alike [NaNResults] (operation : Operation)
    (leftRegister rightRegister : UInt16)
    {left right otherLeft otherRight : Value} (sameLeft : left.SameBits otherLeft)
    (sameRight : right.SameBits otherRight) :
    EndAlike ExecutionError.SameBlame Value.SameBits
      (operation.evaluate leftRegister rightRegister left right)
      (operation.evaluate leftRegister rightRegister otherLeft otherRight) := by
  have alike := fun computation : Except ExecutionError Value =>
    EndAlike.refl ExecutionError.SameBlame.refl Value.SameBits.refl computation
  cases operation with
  | reverseSub =>
      exact (sameLeft.narrowAs_alike .int leftRegister).bind_eq fun x =>
        (sameRight.narrowAs_alike .int rightRegister).bind_eq fun y => alike _
  | direct operation =>
      cases operation with
      | int operator =>
          exact (sameLeft.narrowAs_alike .int leftRegister).bind_eq fun x =>
            (sameRight.narrowAs_alike .int rightRegister).bind_eq fun y => alike _
      | intShift operator =>
          exact (sameLeft.narrowAs_alike .int leftRegister).bind_eq fun x =>
            (sameRight.narrowAs_alike .int rightRegister).bind_eq fun y => alike _
      | long operator =>
          exact (sameLeft.wideAs_alike .long leftRegister).bind_eq fun x =>
            (sameRight.wideAs_alike .long rightRegister).bind_eq fun y => alike _
      | longShift operator =>
          exact (sameLeft.wideAs_alike .long leftRegister).bind_eq fun x =>
            (sameRight.narrowAs_alike .int rightRegister).bind_eq fun y => alike _
      | float operator =>
          exact (sameLeft.narrowAs_alike .float leftRegister).bind_eq fun x =>
            (sameRight.narrowAs_alike .float rightRegister).bind_eq fun y => alike _
      | double operator =>
          exact (sameLeft.wideAs_alike .double leftRegister).bind_eq fun x =>
            (sameRight.wideAs_alike .double rightRegister).bind_eq fun y => alike _

section Registers

variable {left right : RegisterFile}

/-! ## Handlers and runs -/

theorem RightOperand.read_alike (operand : RightOperand)
    (related : RegisterFile.Related Value.SameBits left right) :
    EndAlike ExecutionError.SameBlame Value.SameBits (operand.read left) (operand.read right) := by
  cases operand with
  | register number => exact (related.read number).mono fun _ _ => .of_eq
  | literal bits => exact .ok (Value.SameBits.refl _)

theorem BinaryEffect.result_alike [NaNResults] (effect : BinaryEffect)
    (related : RegisterFile.Related Value.SameBits left right) :
    EndAlike ExecutionError.SameBlame Value.SameBits
      (effect.result left) (effect.result right) := by
  unfold result
  have readLeft := (related.read effect.left).mono fun _ _ => ExecutionError.SameBlame.of_eq
  refine readLeft.bind fun first otherFirst sameFirst => ?_
  refine (effect.right.read_alike related).bind fun second otherSecond sameSecond => ?_
  rw [sameFirst.isKnown_eq, sameSecond.isKnown_eq]
  split
  · exact effect.operation.evaluate_alike _ _ sameFirst sameSecond
  · exact .ok .unknown

theorem Handler.execute_alike [NaNResults] (handler : Handler)
    (related : RegisterFile.Related Value.SameBits left right) :
    EndAlike ExecutionError.SameBlame (RegisterFile.SameStep Value.SameBits)
      (handler.execute left) (handler.execute right) := by
  have assigned := fun (dest : UInt16) (first second : Value) (same : first.SameBits second)
      (step : Step) =>
    (related.assign_step dest same step).mono fun _ _ => ExecutionError.SameBlame.of_eq
  unfold execute
  cases handler.effect with
  | binary effect =>
      refine (effect.result_alike related).bind fun first second same => ?_
      exact assigned effect.dest first second same .next
  | load effect => exact assigned effect.dest _ _ (Value.SameBits.refl _) .next
  | fallback =>
      cases handler.instruction.destination? with
      | some dest => exact assigned dest _ _ .unknown .unsupported
      | none => exact .ok ⟨rfl, related⟩

/-- A failing handler leaves the registers as it found them, and so the files
stay related on every way out of the run. -/
theorem runDispatches_alike [NaNResults] (dispatches : List Dispatch)
    (related : RegisterFile.Related Value.SameBits left right) :
    (runDispatches dispatches left).SameBits (runDispatches dispatches right) := by
  induction dispatches generalizing left right with
  | nil => exact ⟨.ok rfl, related⟩
  | cons dispatch rest inductionHypothesis =>
      cases dispatch with
      | notWired opcode index => exact ⟨.ok rfl, related⟩
      | handled handler =>
          have executed := handler.execute_alike related
          rw [runDispatches, runDispatches]
          revert executed
          generalize handler.execute left = first, handler.execute right = second
          intro executed
          cases executed with
          | error sameBlame => exact ⟨.error sameBlame, related⟩
          | ok reached =>
              rcases reached with ⟨sameStep, after⟩
              have later := inductionHypothesis after
              refine ⟨later.results.map fun summary other same => ?_, later.registers⟩
              rw [same, sameStep]

/-- Runs of a method on registers with the same bits either both succeed, with
the same summary, or both fail, with the same error but for the type that a
complaint found; and they leave registers with the same bits. -/
theorem PreparedMethod.run_sameBits [NaNResults] (method : PreparedMethod)
    (related : RegisterFile.Related Value.SameBits left right) :
    (method.run left).SameBits (method.run right) :=
  runDispatches_alike method.dispatches related

end Registers

/-- An int addition on a narrow register, and then one that meets a wide
register. -/
def addNarrowThenWide : PreparedMethod where
  descriptor := "LFoo;->bar()V"
  dispatches := [
    .handled ⟨⟨.arithmetic (.registers (.int .add) .twoAddress), [.register 0, .register 0]⟩, 0,
      .binary ⟨.direct (.int .add), .twoAddress, 0, 0, .register 0⟩⟩,
    .handled ⟨⟨.arithmetic (.registers (.int .add) .twoAddress), [.register 0, .register 1]⟩, 1,
      .binary ⟨.direct (.int .add), .twoAddress, 0, 0, .register 1⟩⟩]

theorem run_sameBits_addNarrowThenWide :
    let whole : RegisterFile := ⟨#[.int 0x3fc00000, .long 5]⟩
    let floating : RegisterFile := ⟨#[.float 0x3fc00000, .double 5]⟩
    RegisterFile.Related Value.SameBits whole floating ∧
      (addNarrowThenWide.run whole).SameBits (addNarrowThenWide.run floating) ∧
      (addNarrowThenWide.run whole).result =
        .error (.typeMismatch 1 .int (.numeric .long)) ∧
      (addNarrowThenWide.run floating).result =
        .error (.typeMismatch 1 .int (.numeric .double)) := by
  intro whole floating
  have fresh := RegisterFile.Related.refl Value.SameBits.refl (.fresh 2)
  have narrow : Value.SameBits (.int 0x3fc00000) (.float 0x3fc00000) := .narrow rfl rfl
  have wide : Value.SameBits (.long 5) (.double 5) := .wide rfl rfl
  have related : RegisterFile.Related Value.SameBits whole floating :=
    (fresh.set 0 narrow).set 1 wide
  exact ⟨related, addNarrowThenWide.run_sameBits related, rfl, rfl⟩

end DalvikFold
