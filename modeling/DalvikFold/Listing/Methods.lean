import DalvikFold.Listing.Basic
import DalvikFold.Method.Prepare
import DalvikFold.Text.Blank

namespace DalvikFold
namespace Listing

/-!
Listings as the methods of a class.

A method is what stands between the directive that starts it and the one that
ends it, and it is named after the class that was in force when it started.  A
listing without methods is one nameless body.  Instructions outside a method
are therefore no fault by themselves, only next to methods, and whether there
are any methods is known at the end.
-/

/-- A method that has started and not ended, with its instructions in reverse
order. -/
structure OpenMethod where
  descriptor : String
  reversed : List Instruction

/-- The body of a method when it ends. -/
def OpenMethod.close (method : OpenMethod) : MethodBody :=
  ⟨method.descriptor, method.reversed.reverse⟩

/-- What has been read of a listing. -/
structure Progress where
  /-- The descriptor of the class in force. -/
  owner : Option String := none
  /-- The method in force. -/
  current : Option OpenMethod := none
  /-- The methods that have ended, the latest first. -/
  closed : List MethodBody := []
  /-- The instructions outside of methods, the latest first. -/
  loose : List Instruction := []
  /-- The line of the first instruction outside of methods. -/
  looseLine : Option Nat := none

namespace Progress

/-- The descriptor of a method with the given signature. -/
def describe (progress : Progress) (signature : String) : String :=
  match progress.owner with
  | some owner => owner ++ "->" ++ signature
  | none => signature

/-- What has been read after one more line. -/
def accept (progress : Progress) (number : Nat) : Line -> Except Fault Progress
  | .skip => .ok progress
  | .classStart descriptor => .ok { progress with owner := some descriptor }
  | .methodStart signature =>
      match progress.current with
      | some _ => .error (.nesting .nestedMethod)
      | none => .ok { progress with current := some ⟨progress.describe signature, []⟩ }
  | .methodEnd =>
      match progress.current with
      | some method =>
          .ok { progress with current := none, closed := method.close :: progress.closed }
      | none => .error (.nesting .endOutsideMethod)
  | .code instruction =>
      match progress.current with
      | some method =>
          .ok { progress with
            current := some { method with reversed := instruction :: method.reversed } }
      | none =>
          .ok { progress with
            loose := instruction :: progress.loose
            looseLine := some (progress.looseLine.getD number) }

/-- The bodies, once every line has been read. -/
def finish (progress : Progress) (lineCount : Nat) : Except Error (List MethodBody) :=
  match progress.current, progress.closed, progress.looseLine with
  | some _, _, _ => .error ⟨lineCount, .nesting .missingEnd⟩
  | none, [], _ => .ok [⟨"", progress.loose.reverse⟩]
  | none, closed, none => .ok closed.reverse
  | none, _, some line => .error ⟨line, .nesting .instructionOutsideMethod⟩

end Progress

/-- What has been read after lines that start at a line number. -/
def acceptFrom : Progress -> Nat -> List (List Char) -> Except Error Progress
  | progress, _, [] => .ok progress
  | progress, number, text :: rest =>
      match (Line.ofText text).bind (progress.accept number) with
      | .error fault => .error ⟨number, fault⟩
      | .ok progress => acceptFrom progress (number + 1) rest

/-- The method bodies of a listing, in order. -/
def methods (source : String) : Except Error (List MethodBody) :=
  let lines := Text.lines source.toList
  (acceptFrom { } 1 lines).bind (fun progress => progress.finish lines.length)

end Listing
end DalvikFold
