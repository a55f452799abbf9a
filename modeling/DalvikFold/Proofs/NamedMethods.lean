import DalvikFold.Proofs.ClassListings

namespace DalvikFold

/-!
# Methods have names

A body without a name stands for a listing without methods.  This is possible
because every method has a name: the directive that starts one says nothing
unless it has a signature, and a signature is a word.  A listing in which a
method starts therefore has named bodies only.
-/

theorem Text.ne_nil_of_mem_words {text word : List Char} (isWord : word ∈ words text) :
    word ≠ [] := by
  have nonempty := (List.mem_filter.mp isWord).2
  intro isEmpty
  rw [isEmpty] at nonempty
  cases nonempty

namespace Listing

/-! ## Lines -/

theorem Line.signature_ne_empty_of_ofWords {words : List (List Char)}
    (areWords : forall word, word ∈ words -> word ≠ []) {signature : String}
    (starts : ofWords words = .methodStart signature) : signature ≠ "" := by
  cases words with
  | nil => cases starts
  | cons first others =>
      rw [ofWords] at starts
      split at starts
      case h_1 | h_4 => cases starts
      case h_2 word _ isLast =>
        cases starts
        have isWord : word ≠ [] :=
          areWords word (List.mem_cons_of_mem _ (List.mem_of_getLast? isLast))
        exact fun isEmpty => isWord (String.ofList_eq_empty_iff.mp isEmpty)
      case h_3 => split at starts <;> cases starts

theorem Line.exists_code_of_ofInstruction {mnemonic operands : List Char} {line : Line}
    (isLine : ofInstruction mnemonic operands = .ok line) :
    Exists fun instruction => line = .code instruction := by
  unfold ofInstruction at isLine
  split at isLine
  · cases isLine
  · split at isLine
    · cases isLine
    · rcases Except.exists_of_map isLine with ⟨encoded, _, isCode⟩
      exact ⟨_, isCode.symm⟩

/-- A line that starts a method gives its signature. -/
theorem Line.signature_ne_empty {text : List Char} {signature : String}
    (starts : ofText text = .ok (.methodStart signature)) : signature ≠ "" := by
  unfold ofText ofTrimmed at starts
  split at starts
  · cases starts
  · cases starts
  · refine Line.signature_ne_empty_of_ofWords ?_ (Except.ok.inj starts)
    exact fun word isWord => Text.ne_nil_of_mem_words isWord
  · rcases Line.exists_code_of_ofInstruction starts with ⟨instruction, isCode⟩
    cases isCode

/-! ## Progress -/

namespace Progress

/-- A method has started, whether it has ended or not. -/
def HasMethod (progress : Progress) : Prop :=
  progress.current ≠ none ∨ progress.closed ≠ []

/-- All methods that have been read have names. -/
structure Named (progress : Progress) : Prop where
  current : forall method, progress.current = some method -> method.descriptor ≠ ""
  closed : forall body, body ∈ progress.closed -> body.descriptor ≠ ""

private theorem describe_ne_empty (progress : Progress) {signature : String}
    (nonempty : signature ≠ "") : progress.describe signature ≠ "" := by
  unfold describe
  split
  · intro isEmpty
    exact nonempty (String.append_eq_empty_iff.mp isEmpty).2
  · exact nonempty

variable {progress next : Progress} {number : Nat} {line : Line}

theorem Accepts.named (accepts : progress.Accepts number line next)
    (signed : forall signature, line = .methodStart signature -> signature ≠ "")
    (named : progress.Named) : next.Named := by
  cases accepts with
  | skip => exact named
  | classStart descriptor => exact ⟨named.current, named.closed⟩
  | methodStart noneOpen signature =>
      refine ⟨?_, named.closed⟩
      intro method isCurrent
      cases isCurrent
      exact progress.describe_ne_empty (signed signature rfl)
  | @methodEnd method isOpen =>
      refine ⟨fun method isCurrent => (nomatch isCurrent), ?_⟩
      intro body isClosed
      rcases List.mem_cons.mp isClosed with isLast | isEarlier
      · rw [isLast]
        exact named.current method isOpen
      · exact named.closed body isEarlier
  | @enclosed method isOpen instruction =>
      refine ⟨?_, named.closed⟩
      intro other isCurrent
      cases isCurrent
      exact named.current method isOpen
  | loose noneOpen instruction => exact ⟨named.current, named.closed⟩

theorem Accepts.hasMethod (accepts : progress.Accepts number line next)
    (started : progress.HasMethod ∨ Exists fun signature => line = .methodStart signature) :
    next.HasMethod := by
  cases accepts with
  | methodStart noneOpen signature => exact .inl (Option.some_ne_none _)
  | methodEnd isOpen => exact .inr (List.cons_ne_nil _ _)
  | enclosed isOpen instruction => exact .inl (Option.some_ne_none _)
  | _ =>
      rcases started with hasMethod | ⟨signature, isStart⟩
      · exact hasMethod
      · cases isStart

/-- Bodies that are accepted in the end have names if a method has started. -/
theorem Named.finish (named : progress.Named) (hasMethod : progress.HasMethod) {lineCount : Nat}
    {bodies : List MethodBody} (finished : progress.finish lineCount = .ok bodies)
    (body : MethodBody) (isBody : body ∈ bodies) : body.descriptor ≠ "" := by
  cases finishes_of_finish finished with
  | bare noneOpen noneClosed =>
      rcases hasMethod with isOpen | isClosed
      · exact absurd noneOpen isOpen
      · exact absurd noneClosed isClosed
  | methods => exact named.closed body (List.mem_reverse.mp isBody)

end Progress

def StartsMethod (lines : List (List Char)) : Prop :=
  Exists fun text => text ∈ lines ∧
    Exists fun signature => Line.ofText text = .ok (.methodStart signature)

private theorem named_of_acceptFrom {lines : List (List Char)} {progress final : Progress}
    {number : Nat}
    (accepted : acceptFrom progress number lines = .ok final) (named : progress.Named)
    (started : progress.HasMethod ∨ StartsMethod lines) : final.Named ∧ final.HasMethod := by
  induction lines generalizing progress number with
  | nil =>
      cases accepted
      rcases started with hasMethod | ⟨text, isLine, _⟩
      · exact ⟨named, hasMethod⟩
      · cases isLine
  | cons text lines inductionHypothesis =>
      rcases exists_of_acceptFrom_cons accepted with ⟨line, next, isLine, accepts, restAccepted⟩
      have signed : forall signature, line = .methodStart signature -> signature ≠ "" := by
        intro signature isStart
        exact Line.signature_ne_empty (isStart ▸ isLine)
      refine inductionHypothesis restAccepted (accepts.named signed named) ?_
      rcases started with hasMethod | ⟨other, isOther, signature, isStart⟩
      · exact .inl (accepts.hasMethod (.inl hasMethod))
      · rcases List.mem_cons.mp isOther with isFirst | isLater
        · rw [isFirst, isLine] at isStart
          exact .inl (accepts.hasMethod (.inr ⟨signature, Except.ok.inj isStart⟩))
        · exact .inr ⟨other, isLater, signature, isStart⟩

/-- The bodies of a listing in which a method starts have names. -/
theorem descriptor_ne_empty {source : String} {bodies : List MethodBody}
    (read : methods source = .ok bodies)
    (started : StartsMethod (Text.lines source.toList)) (body : MethodBody)
    (isBody : body ∈ bodies) : body.descriptor ≠ "" := by
  rcases Except.exists_of_bind read with ⟨final, accepted, finished⟩
  have nothingRead : Progress.Named { } :=
    ⟨fun method isCurrent => (nomatch isCurrent), fun body isClosed => (nomatch isClosed)⟩
  rcases named_of_acceptFrom accepted nothingRead (.inr started) with ⟨named, hasMethod⟩
  exact named.finish hasMethod finished body isBody

end Listing
end DalvikFold
