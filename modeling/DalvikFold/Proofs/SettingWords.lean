import Mathlib.Data.List.Forall2
import DalvikFold.Proofs.WrittenRegisters
import DalvikFold.Settings.Overrides

namespace DalvikFold

/-!
# Words for settings

A text states the value of a setting by a word.  A flag has eight words, in these
very letters, and a policy has one, in letters of either case.  Blanks around a
word do not matter.

What a text states is a relation here, and it names the words themselves.  The
reading of a text trims it and looks it up among the names.  For flags and for
policies an equivalence says that this finds the value that the text states, and
finds nothing if the text states none.
-/

theorem Text.not_isBlank_of_all {text : List Char}
    (noBlanks : text.all (fun c => !isBlank c) = true) {c : Char} (member : c ∈ text) :
    isBlank c = false := by
  have notBlank := List.all_eq_true.mp noBlanks c member
  rwa [Bool.not_eq_true'] at notBlank

/-! ## The words of a flag -/

/-- The words for a flag. -/
inductive FlagWord : String -> Bool -> Prop where
  | one : FlagWord "1" true
  | truth : FlagWord "true" true
  | yes : FlagWord "yes" true
  | on : FlagWord "on" true
  | zero : FlagWord "0" false
  | falsehood : FlagWord "false" false
  | no : FlagWord "no" false
  | off : FlagWord "off" false

/-- The text states the flag: it is a word for it, with blanks around the word. -/
def StatesFlag (text : String) (flag : Bool) : Prop :=
  Exists fun word => FlagWord word flag ∧ Text.Padded word.toList text.toList

theorem FlagWord.trimmed {word : String} {flag : Bool} (isWord : FlagWord word flag) :
    Text.Trimmed word.toList := by
  have noBlanks : word.toList.all (fun c => !Text.isBlank c) = true := by
    cases isWord <;> decide
  exact .of_unbroken (fun c => Text.not_isBlank_of_all noBlanks)

theorem flagWord_iff {word : String} {flag : Bool} :
    FlagWord word flag <-> word ∈ if flag then flagOnWords else flagOffWords := by
  constructor
  · intro isWord
    cases isWord <;> decide
  · intro member
    cases flag with
    | true =>
        simp only [flagOnWords, if_true, List.mem_cons, List.not_mem_nil, or_false] at member
        rcases member with rfl | rfl | rfl | rfl
        exacts [.one, .truth, .yes, .on]
    | false =>
        simp only [flagOffWords, Bool.false_eq_true, if_false, List.mem_cons, List.not_mem_nil,
          or_false] at member
        rcases member with rfl | rfl | rfl | rfl
        exacts [.zero, .falsehood, .no, .off]

theorem flag?_eq_some_iff_flagWord {text : String} {flag : Bool} :
    flag? text = some flag <-> FlagWord (String.ofList (Text.trim text.toList)) flag := by
  have apart : forall word, word ∈ flagOffWords -> word ∉ flagOnWords := by decide
  rw [flagWord_iff]
  constructor
  · intro isFlag
    unfold flag? at isFlag
    dsimp only at isFlag
    by_cases isOn : String.ofList (Text.trim text.toList) ∈ flagOnWords
    · rw [if_pos isOn] at isFlag
      cases isFlag
      exact isOn
    · rw [if_neg isOn] at isFlag
      by_cases isOff : String.ofList (Text.trim text.toList) ∈ flagOffWords
      · rw [if_pos isOff] at isFlag
        cases isFlag
        exact isOff
      · rw [if_neg isOff] at isFlag
        cases isFlag
  · intro isWord
    cases flag with
    | true => exact if_pos isWord
    | false => exact (if_neg (apart _ isWord)).trans (if_pos isWord)

theorem flag?_eq_some_iff {text : String} {flag : Bool} :
    flag? text = some flag <-> StatesFlag text flag := by
  rw [flag?_eq_some_iff_flagWord]
  constructor
  · intro isWord
    refine ⟨_, isWord, ?_⟩
    rw [Text.padded_iff isWord.trimmed, String.toList_ofList]
  · rintro ⟨word, isWord, isPadded⟩
    rw [(Text.padded_iff isWord.trimmed).mp isPadded, String.ofList_toList]
    exact isWord

/-! ## The words of a policy -/

/-- The second character is what becomes of the first one in small letters.  No
capitals but those of ASCII change. -/
inductive LowersTo : Char -> Char -> Prop where
  | capital {c small : Char} (isCapital : 'A' ≤ c ∧ c ≤ 'Z')
      (isSmall : small.toNat = c.toNat + 32) : LowersTo c small
  | other {c : Char} (notCapital : ¬ ('A' ≤ c ∧ c ≤ 'Z')) : LowersTo c c

theorem toNat_toLower_of_capital {c : Char} (isCapital : 'A' ≤ c ∧ c ≤ 'Z') :
    c.toLower.toNat = c.toNat + 32 := by
  have difference : 'a'.val - 'A'.val = 32 := by decide
  have last : c.val.toNat ≤ 90 := isCapital.2
  have isSum : c.toLower.val = c.val + 32 := by
    rw [← difference]
    exact congrArg Char.val (dif_pos isCapital)
  change c.toLower.val.toNat = c.val.toNat + 32
  rw [isSum, UInt32.toNat_add]
  exact Nat.mod_eq_of_lt (Nat.lt_of_le_of_lt (Nat.add_le_add_right last 32) (by decide))

theorem lowersTo_iff {c small : Char} : LowersTo c small <-> c.toLower = small := by
  by_cases isCapital : 'A' ≤ c ∧ c ≤ 'Z'
  · constructor
    · intro lowers
      cases lowers with
      | capital _ isSmall =>
          exact Char.toNat_inj.mp ((toNat_toLower_of_capital isCapital).trans isSmall.symm)
      | other notCapital => exact absurd isCapital notCapital
    · rintro rfl
      exact .capital isCapital (toNat_toLower_of_capital isCapital)
  · have unchanged : c.toLower = c := dif_neg isCapital
    rw [unchanged]
    constructor
    · intro lowers
      cases lowers with
      | capital isCapitalToo => exact absurd isCapitalToo isCapital
      | other => rfl
    · rintro rfl
      exact .other isCapital

theorem lowersTo_all_iff {text small : List Char} :
    List.Forall₂ LowersTo text small <-> text.map Char.toLower = small := by
  have pointwise : LowersTo = fun c small => c.toLower = small := by
    funext c small
    exact propext lowersTo_iff
  rw [pointwise, ← List.forall₂_map_left_iff (R := Eq), List.forall₂_eq_eq_eq]

/-- Neither capitals nor small letters are blanks. -/
theorem LowersTo.isBlank_eq {c small : Char} (lowers : LowersTo c small) :
    Text.isBlank c = Text.isBlank small := by
  cases lowers with
  | other => rfl
  | capital isCapital isSmall =>
      have first : 65 ≤ c.toNat := isCapital.1
      have last : c.toNat ≤ 90 := isCapital.2
      simp only [Text.isBlank, isSmall]
      grind

/-- The words for a policy, in small letters. -/
inductive PolicyWord : String -> Policy -> Prop where
  | ignore : PolicyWord "ignore" .ignore
  | warn : PolicyWord "warn" .warn
  | abort : PolicyWord "abort" .abort

/-- The text states the policy: in small letters it is the word for it, with
blanks around the word. -/
def StatesPolicy (text : String) (policy : Policy) : Prop :=
  Exists fun word => Exists fun written => PolicyWord word policy ∧
    List.Forall₂ LowersTo written word.toList ∧ Text.Padded written text.toList

theorem Policy.ofName?_eq_some_iff {word : String} {policy : Policy} :
    ofName? word = some policy <-> PolicyWord word policy := by
  constructor
  · intro found
    have isName := List.find?_some found
    rw [beq_iff_eq] at isName
    rw [← isName]
    cases policy with
    | ignore => exact .ignore
    | warn => exact .warn
    | abort => exact .abort
  · intro isWord
    cases isWord <;> rfl

theorem PolicyWord.trimmed {word : String} {policy : Policy} (isWord : PolicyWord word policy)
    {written : List Char} (lowers : List.Forall₂ LowersTo written word.toList) :
    Text.Trimmed written := by
  have noBlanks : word.toList.all (fun c => !Text.isBlank c) = true := by
    cases isWord <;> decide
  apply Text.Trimmed.of_unbroken
  intro c member
  have inWord : c.toLower ∈ word.toList :=
    lowersTo_all_iff.mp lowers ▸ List.mem_map_of_mem member
  rw [(lowersTo_iff.mpr rfl).isBlank_eq]
  exact Text.not_isBlank_of_all noBlanks inWord

theorem Policy.read?_eq_some_iff {text : String} {policy : Policy} :
    read? text = some policy <-> StatesPolicy text policy := by
  have isLookup : read? text =
      ofName? ((String.ofList (Text.trim text.toList)).map Char.toLower) := by
    unfold read? read
    dsimp only
    cases ofName? ((String.ofList (Text.trim text.toList)).map Char.toLower) <;> rfl
  rw [isLookup, ofName?_eq_some_iff]
  constructor
  · intro isWord
    have lowers : List.Forall₂ LowersTo (Text.trim text.toList)
        ((String.ofList (Text.trim text.toList)).map Char.toLower).toList := by
      rw [lowersTo_all_iff, String.toList_map, String.toList_ofList]
    refine ⟨_, _, isWord, lowers, ?_⟩
    rw [Text.padded_iff (isWord.trimmed lowers)]
  · rintro ⟨word, written, isWord, lowers, isPadded⟩
    have isName : (String.ofList written).map Char.toLower = word := by
      rw [← String.toList_inj, String.toList_map, String.toList_ofList]
      exact lowersTo_all_iff.mp lowers
    rw [(Text.padded_iff (isWord.trimmed lowers)).mp isPadded, isName]
    exact isWord

end DalvikFold
