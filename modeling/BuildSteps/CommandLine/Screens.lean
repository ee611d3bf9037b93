import BuildSteps.Console.Panel

/-!
# Screens

The page shown on a request for help, and the panel shown on a mistake in the arguments, on a
console of a width. They are shown without colours.
-/

namespace BuildSteps.CommandLine

open Console

/-- The lines of a text with a margin of one cell on both sides. -/
def indented (width : Nat) (text : String) : List (List Char) :=
  (layout (width - 2) text.toList).map fun line =>
    fitted width (' ' :: fitted (width - 2) line ++ [' '])

/-- The fields of a row that explains an option or an argument: the option, the argument, what it
stands for, and the explanation. Two fields between them are for what no row here has. -/
def explanation (option argument kind description : String) : List Field :=
  [{ text := option.toList, left := 0 }, { text := argument.toList }, {}, {},
    { text := kind.toList, overflow := .folded },
    { text := description.toList, spreads := true, right := 0 }]

/-- The page shown on a request for help. A console without width shows its last line only. -/
def helpPage (width : Nat) : String :=
  let blank := List.replicate width ' '
  let heading :=
    [blank] ++ indented width "Usage: ci-build [OPTIONS] [SUBCOMMAND]" ++ [blank] ++
      indented width "Run the toolchain steps for SUBCOMMAND and exit with their status" ++ [blank]
  let arguments :=
    explanation "" "subcommand" "[SUBCOMMAND]" "Action to run (format, build or doc)"
  let options := explanation "--help" "" "" "Show this message and exit."
  let panels :=
    panel width "Arguments" (fun room => rowLines room arguments) ++
      panel width "Options" (fun room => rowLines room options)
  joinedLines ((if width = 0 then [] else heading ++ panels) ++ [[]])

/-- The panel shown on a mistake in the arguments. -/
def mistakePanel (width : Nat) : String :=
  let explained (room : Nat) := layout room "Option '--help' does not take a value.".toList
  joinedLines (if width = 0 then [] else panel width "Error" explained)

end BuildSteps.CommandLine
