import BuildSteps.Invocation
import BuildSteps.Value.Dictionary

/-!
# Tables of subcommands

A table gives each subcommand its steps, in the order in which the subcommands were listed. The
absent name may be listed too.
-/

namespace BuildSteps

/-- The steps of each subcommand. -/
structure Table where
  entries : List (Option String × List Invocation)
  deriving Repr, DecidableEq

namespace Table

/-- The table of some pairs; a name that is listed again keeps its place and takes the new steps. -/
def ofPairs (pairs : List (Option String × List Invocation)) : Table where
  entries := gatherBy (fun left right => decide (left = right)) pairs

/-- The names in a table, in order. -/
def names (table : Table) : List (Option String) :=
  table.entries.map Prod.fst

/-- The steps of a name. -/
def steps? (table : Table) (name : Option String) : Option (List Invocation) :=
  table.entries.lookup name

/-- A name is not given other steps in a table. -/
def store (_table : Table) (_name : Option String) (_steps : List Invocation) :
    Except Fixed Table :=
  .error .table

/-- A call of the package tool. -/
def cargo (arguments : List String) : Invocation :=
  ⟨"cargo", arguments⟩

/-- The actions of a workspace. -/
def workspaceActions : Table where
  entries :=
    [(some "format", [cargo ["+nightly", "fmt", "--all", "--", "--check"]]),
      (some "build", [cargo ["build", "--all"], cargo ["test", "--all", "--all-targets"]]),
      (some "doc", [cargo ["doc", "--all"]])]

end Table

end BuildSteps
