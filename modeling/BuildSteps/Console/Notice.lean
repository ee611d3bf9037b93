import BuildSteps.Console.Layout
import BuildSteps.Console.Markup

/-!
# Notices

A notice is a short markup text in red, behind a cross, that tells why the program did not
succeed. Texts that are given from outside are escaped in it.
-/

namespace BuildSteps.Console

/-- What is said in a notice. -/
inductive Notice where
  | invalidSettings (report : String)
  | unknownSubcommand (text : String)
  | failed (subcommand : String) (exitCode : Int) (command : String)
  deriving Repr, DecidableEq

namespace Notice

/-- What a notice says, in markup. -/
def body : Notice → List Char
  | .invalidSettings report => "Invalid settings: ".toList ++ escape report.toList
  | .unknownSubcommand text => escape text.toList
  | .failed subcommand exitCode command =>
    (subcommand ++ " failed (exit " ++ toString exitCode ++ "): " ++ command).toList

/-- A notice in markup. -/
def markup (notice : Notice) : List Char :=
  "[red]❌ ".toList ++ notice.body ++ "[/red]".toList

/-- A notice as it is shown on a console of a width. -/
def shown (width : Nat) (notice : Notice) : String :=
  joinedLines (layout width ((shownText? notice.markup).getD []))

end Notice

end BuildSteps.Console
