/-!
# Path names

A path name is an anchor and a list of names. Reading a text drops empty names and names that are
a single dot, so repeated and final slashes leave no trace; a name of two dots stays. Exactly two
slashes at the start are an anchor of their own, and three or more count as one.
-/

namespace BuildSteps

/-- Where a path name starts. -/
inductive Anchor where
  | workingDirectory
  | root
  | doubleRoot
  deriving Repr, DecidableEq

/-- A path name in its normal form. -/
structure PathName where
  anchor : Anchor
  names : List String
  deriving Repr, DecidableEq

namespace PathName

/-- The pieces of a text between its slashes. -/
def pieces : List Char → List (List Char)
  | [] => [[]]
  | char :: rest =>
    if char = '/' then [] :: pieces rest
    else
      match pieces rest with
      | [] => [[char]]
      | piece :: others => (char :: piece) :: others

/-- The anchor of a text. -/
def anchorOf : List Char → Anchor
  | '/' :: '/' :: '/' :: _ => .root
  | '/' :: '/' :: _ => .doubleRoot
  | '/' :: _ => .root
  | _ => .workingDirectory

/-- The path name that a text denotes. -/
def ofText (text : String) : PathName where
  anchor := anchorOf text.toList
  names := ((pieces text.toList).filter fun piece => piece ≠ [] ∧ piece ≠ ['.']).map String.ofList

/-- The text of an anchor. -/
def anchorText : Anchor → List Char
  | .workingDirectory => []
  | .root => ['/']
  | .doubleRoot => ['/', '/']

/-- The text of a path name; the working directory itself is a dot. -/
def text (path : PathName) : String :=
  if path.anchor = .workingDirectory ∧ path.names = [] then "."
  else
    String.ofList
      (anchorText path.anchor ++ List.intercalate ['/'] (path.names.map String.toList))

/-- The path name of an entry inside the directory that a path name denotes. -/
def child (path : PathName) (name : String) : PathName :=
  { path with names := path.names ++ [name] }

end PathName

end BuildSteps
