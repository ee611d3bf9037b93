import BuildSteps.Files.PathName
import BuildSteps.Text.Quoted

/-!
# File errors

A request on a file tree fails for one of a few reasons, each with a number and a wording. The
message names the path as it was given, as a quoted literal.
-/

namespace BuildSteps

/-- Why the system refuses a request on a path. -/
inductive SystemError where
  | missing
  | taken
  | notDirectory
  | isDirectory
  | nameTooLong
  | tooManyLinks
  deriving Repr, DecidableEq

namespace SystemError

/-- The number of a reason. -/
def number : SystemError → Nat
  | .missing => 2
  | .taken => 17
  | .notDirectory => 20
  | .isDirectory => 21
  | .nameTooLong => 36
  | .tooManyLinks => 40

/-- The wording of a reason. -/
def wording : SystemError → String
  | .missing => "No such file or directory"
  | .taken => "File exists"
  | .notDirectory => "Not a directory"
  | .isDirectory => "Is a directory"
  | .nameTooLong => "File name too long"
  | .tooManyLinks => "Too many levels of symbolic links"

end SystemError

/-- Why a request on a file tree failed. -/
inductive FileError where
  | nullCharacter
  | tooDeep
  | refused (reason : SystemError) (path : PathName)
  | moveRefused (reason : SystemError) (source target : PathName)
  deriving Repr, DecidableEq

namespace FileError

/-- The beginning of the message of a refused request. -/
def opening (reason : SystemError) : String :=
  "[Errno " ++ toString reason.number ++ "] " ++ reason.wording ++ ": "

/-- A path as it stands in a message. -/
def quotedPath (path : PathName) : String :=
  String.ofList (Text.quoted path.text.toList)

/-- The message of a failed request. -/
def message : FileError → String
  | .nullCharacter => "embedded null byte"
  | .tooDeep => "maximum recursion depth exceeded while calling a Python object"
  | .refused reason path => opening reason ++ quotedPath path
  | .moveRefused reason source target =>
    opening reason ++ quotedPath source ++ " -> " ++ quotedPath target

end FileError

end BuildSteps
