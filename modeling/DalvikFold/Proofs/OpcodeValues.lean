import Mathlib.Data.List.Nodup
import DalvikFold.Handler.Category
import DalvikFold.Opcode.Encoding

namespace DalvikFold

/-!
# Opcodes by their values

Every opcode has a value of its own.  The values of payloads do not fit a byte
and all others do, so that an opcode is found again by its value, payloads among
the identifiers and all others among the bytes.  The opcodes that stand only in
optimized files are the ones that nobody has classified.
-/

/-!
## The enumerations are complete

Each choice among few is listed by inspection.  A family is listed because its
choices are.
-/

@[simp]
theorem ValueKind.mem_all (kind : ValueKind) : kind ∈ all := by
  cases kind <;> simp [all]

@[simp]
theorem MoveReach.mem_all (reach : MoveReach) : reach ∈ all := by
  cases reach <;> simp [all]

@[simp]
theorem JumpReach.mem_all (reach : JumpReach) : reach ∈ all := by
  cases reach <;> simp [all]

@[simp]
theorem Comparison.mem_all (comparison : Comparison) : comparison ∈ all := by
  cases comparison <;> simp [all]

@[simp]
theorem Relation.mem_all (relation : Relation) : relation ∈ all := by
  cases relation <;> simp [all]

@[simp]
theorem Place.mem_all (place : Place) : place ∈ all := by
  cases place <;> simp [all]

@[simp]
theorem Direction.mem_all (direction : Direction) : direction ∈ all := by
  cases direction <;> simp [all]

@[simp]
theorem ElementKind.mem_all (element : ElementKind) : element ∈ all := by
  cases element <;> simp [all, words, small]

@[simp]
theorem InvokeKind.mem_all (kind : InvokeKind) : kind ∈ all := by
  cases kind <;> simp [all]

@[simp]
theorem RegisterList.mem_all (list : RegisterList) : list ∈ all := by
  cases list <;> simp [all]

@[simp]
theorem UnaryOperation.mem_all (operation : UnaryOperation) : operation ∈ all := by
  cases operation <;> simp [all]

@[simp]
theorem Conversion.mem_all (conversion : Conversion) : conversion ∈ all := by
  cases conversion <;> simp [all]

@[simp]
theorem WholeOperator.mem_all (operator : WholeOperator) : operator ∈ all := by
  cases operator <;> simp [all]

@[simp]
theorem ShiftOperator.mem_all (operator : ShiftOperator) : operator ∈ all := by
  cases operator <;> simp [all]

@[simp]
theorem FloatOperator.mem_all (operator : FloatOperator) : operator ∈ all := by
  cases operator <;> simp [all]

@[simp]
theorem Payload.mem_all (block : Payload) : block ∈ all := by
  cases block <;> simp [all]

@[simp]
theorem ConstantLoad.mem_all (load : ConstantLoad) : load ∈ all := by
  cases load with
  | narrow literal | wide literal => cases literal <;> decide
  | string | stringJumbo | classObject => decide

@[simp]
theorem RegisterOperation.mem_all (operation : RegisterOperation) : operation ∈ all := by
  cases operation <;> simp [all]

@[simp]
theorem Arithmetic.mem_all (operation : Arithmetic) : operation ∈ all := by
  cases operation with
  | registers operation form => cases form <;> simp [all]
  | literal16 operator | literal8 operator | shiftLiteral8 operator => simp [all]

namespace Opcode

theorem mem_all (opcode : Opcode) : opcode ∈ all := by
  cases opcode with
  | invoke kind list => cases list <;> simp [all, accesses, quickened]
  | quickAccess direction element =>
      cases direction <;> cases element <;>
        simp [all, accesses, quickened, ElementKind.words, ElementKind.small]
  | _ => simp [all, accesses, quickened]

theorem forall_of_all {property : Opcode -> Bool} (holds : all.all property = true)
    (opcode : Opcode) : property opcode = true :=
  List.all_eq_true.mp holds opcode opcode.mem_all

/-- The opcodes stand in the order of their values. -/
theorem isChain_value : (all.map value).IsChain (· < ·) := by
  decide +kernel

theorem eq_of_value {first second : Opcode} (same : first.value = second.value) :
    first = second := by
  have distinct : (all.map value).Nodup := isChain_value.pairwise.imp Nat.ne_of_lt
  exact List.inj_on_of_nodup_map distinct first.mem_all second.mem_all same

theorem isPayload_iff (opcode : Opcode) : opcode.isPayload = true <-> 0xff < opcode.value := by
  have decided : all.all (fun opcode => opcode.isPayload == decide (0xff < opcode.value)) = true :=
    by decide +kernel
  rw [beq_iff_eq.mp (forall_of_all decided opcode), decide_eq_true_iff]

/-- A value is found among opcodes if one of them has it. -/
theorem find?_value_eq_some_iff {opcodes : List Opcode} {number : Nat} {opcode : Opcode} :
    opcodes.find? (fun other => other.value == number) = some opcode <->
      opcode ∈ opcodes ∧ opcode.value = number := by
  constructor
  · intro found
    have holds := List.find?_some found
    exact ⟨List.mem_of_find?_eq_some found, beq_iff_eq.mp holds⟩
  · rintro ⟨member, isValue⟩
    cases found : opcodes.find? (fun other => other.value == number) with
    | none => exact absurd (beq_iff_eq.mpr isValue) (List.find?_eq_none.mp found opcode member)
    | some other =>
        have holds := List.find?_some found
        rw [eq_of_value ((beq_iff_eq.mp holds).trans isValue.symm)]

theorem ofByte?_eq_some_iff {byte : UInt8} {opcode : Opcode} :
    ofByte? byte = some opcode <-> opcode.value = byte.toNat := by
  rw [ofByte?, find?_value_eq_some_iff]
  exact and_iff_right opcode.mem_all

theorem ofPayloadIdent?_eq_some_iff {ident : UInt16} {opcode : Opcode} :
    ofPayloadIdent? ident = some opcode <->
      opcode.isPayload = true ∧ opcode.value = ident.toNat := by
  have isBlock : opcode ∈ Payload.all.map .payload <-> opcode.isPayload = true := by
    cases opcode with
    | payload block => cases block <;> decide
    | _ => exact iff_of_false (by simp) Bool.false_ne_true
  rw [ofPayloadIdent?, find?_value_eq_some_iff, isBlock]

/-- Every opcode is found again, by its byte or by its identifier. -/
theorem ofByte?_or_ofPayloadIdent? (opcode : Opcode) :
    ofByte? (UInt8.ofNat opcode.value) = some opcode ∧ opcode.isPayload = false ∨
      ofPayloadIdent? (UInt16.ofNat opcode.value) = some opcode ∧ opcode.isPayload = true := by
  rw [ofByte?_eq_some_iff, ofPayloadIdent?_eq_some_iff]
  cases isPayload : opcode.isPayload with
  | false =>
      have isByte : ¬ 0xff < opcode.value := by
        rw [← opcode.isPayload_iff, isPayload]
        exact Bool.false_ne_true
      refine .inl ⟨?_, rfl⟩
      rw [UInt8.toNat_ofNat', Nat.mod_eq_of_lt (by omega)]
  | true =>
      have decided : all.all (fun opcode => decide (opcode.value < 0x10000)) = true := by
        decide +kernel
      have fits := of_decide_eq_true (forall_of_all decided opcode)
      refine .inr ⟨⟨rfl, ?_⟩, rfl⟩
      rw [UInt16.toNat_ofNat', Nat.mod_eq_of_lt fits]

/-- An opcode of optimized files has no entry in the classification, and
therefore falls back. -/
theorem classified?_of_isOptimizedOnly {opcode : Opcode}
    (isOptimized : opcode.isOptimizedOnly = true) : opcode.classified? = none := by
  cases opcode with
  | quickAccess direction element | quickInvoke list | returnVoidNoBarrier => rfl
  | _ => cases isOptimized

end Opcode

end DalvikFold
