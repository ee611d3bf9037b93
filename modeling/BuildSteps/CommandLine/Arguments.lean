/-!
# Command-line arguments

There is one option, `--help`, which takes no value. Two dashes end the options and are dropped.
All other words, also those that look like options, are arguments: the first one is the
subcommand, and the others have no effect. A value for the option is a mistake wherever it stands
among the options, and outweighs a request for help.
-/

namespace BuildSteps.CommandLine

/-- What the arguments ask for. -/
inductive Request where
  | mistake
  | help
  | run (subcommand : Option String) (extra : List String)
  deriving Repr, DecidableEq

/-- Whether a word is the option with a value. -/
def isHelpWithValue (word : String) : Bool :=
  "--help=".toList.isPrefixOf word.toList

/-- The words before the options end, and those behind. -/
def splitOptions : List String → List String × List String
  | [] => ([], [])
  | word :: rest =>
    if word = "--" then ([], rest)
    else (word :: (splitOptions rest).1, (splitOptions rest).2)

/-- The request of some arguments that are no options. -/
def Request.ofArguments : List String → Request
  | [] => .run none []
  | subcommand :: extra => .run (some subcommand) extra

/-- The request of the words on a command line. -/
def Request.ofWords (words : List String) : Request :=
  let (optional, arguments) := splitOptions words
  if optional.any isHelpWithValue then .mistake
  else if "--help" ∈ optional then .help
  else .ofArguments (optional ++ arguments)

end BuildSteps.CommandLine
