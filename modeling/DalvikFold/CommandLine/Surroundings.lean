namespace DalvikFold
namespace CommandLine

/-!
The surroundings of a run: standard input, files and environment variables.

A file or stream either has contents, which are bytes, or cannot be read for
some reason.  Everything that the program reads is text, and bytes that are not
text count as unreadable.
-/

/-- Why a file or stream cannot be read. -/
inductive ReadFailure where
  /-- There is nothing of this name. -/
  | missing
  /-- The name goes through a file as if it were a directory. -/
  | notADirectory
  | isADirectory
  /-- The bytes are no text. -/
  | notText
  | other (reason : String)
  deriving Repr, DecidableEq

def ReadFailure.message : ReadFailure -> String
  | .missing => "No such file or directory (os error 2)"
  | .notADirectory => "Not a directory (os error 20)"
  | .isADirectory => "Is a directory (os error 21)"
  | .notText => "stream did not contain valid UTF-8"
  | .other reason => reason

/-- Whether the failure is that nothing can be found under the name. -/
def ReadFailure.isAbsence : ReadFailure -> Bool
  | .missing => true
  | .notADirectory => true
  | _ => false

/-- The bytes of a file or stream, or why they cannot be had. -/
abbrev Contents := Except ReadFailure ByteArray

def Contents.text (contents : Contents) : Except ReadFailure String :=
  match contents with
  | .error failure => .error failure
  | .ok bytes =>
      match String.fromUTF8? bytes with
      | some text => .ok text
      | none => .error .notText

/-- What a run of the program can see. -/
structure Surroundings where
  standardInput : Contents
  file : String -> Contents
  environment : String -> Option String

end CommandLine
end DalvikFold
