import BuildSteps.Fault
import BuildSteps.Process

/-!
# Failures

Why an action did not come to its regular end, each cause with its wording. A failure of a command
carries an exit status; the others do not.
-/

namespace BuildSteps

/-- A command that ended unsuccessfully. A note, unless it is empty, replaces the wording. -/
structure CommandFailure where
  command : List String
  exitCode : Int
  note : Option String := none
  deriving Repr, DecidableEq

/-- Why an action did not come to its regular end. -/
inductive Failure where
  /-- A command ended unsuccessfully. -/
  | command (failure : CommandFailure)
  /-- The program of a command cannot be found. -/
  | notFound (program : String) (arguments : List String)
  /-- A name is not among the known ones. -/
  | unknownSubcommand (name : Option String) (known : List String)
  /-- The known names cannot be listed, since one of them is absent. -/
  | namelessEntry (position : Nat)
  /-- A fault from outside that nothing deals with. -/
  | passed (cause : Fault)
  deriving Repr, DecidableEq

/-- A name, or what stands for an absent one. -/
def nameText (name : Option String) : String :=
  name.getD "None"

/-- Texts separated by commas. -/
def commaList (texts : List String) : String :=
  ", ".intercalate texts

/-- Texts separated by spaces. -/
def spaced (texts : List String) : String :=
  " ".intercalate texts

/-- The names of a list, or the position of the first absent one. -/
def presentNames : List (Option String) → Except Nat (List String)
  | [] => .ok []
  | none :: _ => .error 0
  | some name :: rest =>
    match presentNames rest with
    | .ok names => .ok (name :: names)
    | .error position => .error (position + 1)

/-- The wording for a command that ended with an exit status. -/
def failedWording (exitCode : String) (command : List String) : String :=
  "Toolchain command failed (exit " ++ exitCode ++ "): " ++ spaced command

/-- The wording for a program that cannot be found. -/
def notFoundWording (program : String) : String :=
  "Toolchain binary not found on PATH: " ++ program

/-- The wording for a name that is not among the known ones. -/
def unknownWording (name : String) (known : List String) : String :=
  "Unknown subcommand '" ++ name ++ "' (expected one of: " ++ commaList known ++ ")"

/-- The wording for a place of a list that holds no text, but something of another kind. -/
def noTextWording (position : Nat) (kindName : String) : String :=
  "sequence item " ++ toString position ++ ": expected str instance, " ++ kindName ++ " found"

/-- The wording of a failed command. -/
def CommandFailure.message (failure : CommandFailure) : String :=
  match failure.note with
  | some "" | none => failedWording (toString failure.exitCode) failure.command
  | some note => note

namespace Failure

/-- The failure of a name that is not among the known ones; an absent known name has no wording. -/
def ofUnknownName (name : Option String) (known : List (Option String)) : Failure :=
  match presentNames known with
  | .ok names => .unknownSubcommand name names
  | .error position => .namelessEntry position

/-- The wording of a failure. -/
def message : Failure → String
  | .command failure => failure.message
  | .notFound program _ => notFoundWording program
  | .unknownSubcommand name known => unknownWording (nameText name) known
  | .namelessEntry position => noTextWording position "NoneType"
  | .passed cause => cause.text

/-- The exit status that a failure of a command carries. -/
def exitCode? : Failure → Option Int
  | .command failure => some failure.exitCode
  | .notFound _ _ => some notFoundStatus
  | _ => none

end Failure

end BuildSteps
