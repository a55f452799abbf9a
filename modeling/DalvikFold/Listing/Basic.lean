import DalvikFold.Listing.Operand
import DalvikFold.Listing.Scan

namespace DalvikFold
namespace Listing

/-!
Listings: lines one after the other, and the instructions on them.

A line is blank but for a label or a comment, a directive, or an instruction.
Of the directives three matter: the one that names the class, and the two that
enclose a method.

Reading goes line by line, and the first line at fault ends it.  For a plain
list of instructions the boundaries of methods do not matter.
-/

/-- What a line says. -/
inductive Line where
  /-- Nothing that matters. -/
  | skip
  /-- The methods from here on belong to the class with this descriptor. -/
  | classStart (descriptor : String)
  /-- A method with this signature starts. -/
  | methodStart (signature : String)
  /-- The method ends. -/
  | methodEnd
  /-- An instruction. -/
  | code (instruction : Instruction)
  deriving Repr, DecidableEq

namespace Line

/-- The directive made of the given words.  The first word names it and the
last one is what it is about; a directive of a single word says nothing. -/
def ofWords : List (List Char) -> Line
  | [] => .skip
  | first :: others =>
      match String.ofList first, others.getLast? with
      | "class", some descriptor => .classStart (String.ofList descriptor)
      | "method", some signature => .methodStart (String.ofList signature)
      | "end", some last => if String.ofList last = "method" then .methodEnd else .skip
      | _, _ => .skip

/-- The instruction with the given mnemonic and operand part. -/
def ofInstruction (mnemonic operands : List Char) : Except Fault Line :=
  match Opcode.ofMnemonic? (String.ofList mnemonic) with
  | none => .error (.unknownMnemonic (String.ofList mnemonic))
  | some opcode =>
      match readOperands opcode (segments operands) with
      | .error fault => .error fault
      | .ok operands =>
          (encodeHigh opcode operands).map (fun operands => .code ⟨opcode, operands⟩)

/-- What a text without comment and outer blanks says. -/
def ofTrimmed (text : List Char) : Except Fault Line :=
  match text with
  | [] => .ok .skip
  | ':' :: _ => .ok .skip
  | '.' :: directive => .ok (ofWords (Text.words directive))
  | _ =>
      let (mnemonic, operands) := Text.cutAtBlank text
      ofInstruction mnemonic (Text.trim (operands.getD []))

def ofText (line : List Char) : Except Fault Line :=
  ofTrimmed (Text.trim (stripComment line))

def instruction? : Line -> Option Instruction
  | .code instruction => some instruction
  | _ => none

end Line

/-! ## Lists of instructions -/

/-- The instructions of lines that start at a line number. -/
def instructionsFrom : Nat -> List (List Char) -> Except Error (List Instruction)
  | _, [] => .ok []
  | number, text :: rest =>
      match Line.ofText text with
      | .error fault => .error ⟨number, fault⟩
      | .ok line => (instructionsFrom (number + 1) rest).map (line.instruction?.toList ++ ·)

def instructions (source : String) : Except Error (List Instruction) :=
  instructionsFrom 1 (Text.lines source.toList)

end Listing
end DalvikFold
