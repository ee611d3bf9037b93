import BuildSteps.Files.Error
import BuildSteps.Files.Tree

/-!
# Looking up path names

A walk takes the names of a path one by one. A name of two dots leads to the parent directory, and
every other name to an entry of the directory reached so far. A symbolic link is replaced by its
target, except at the end of a path that is not to be followed. A target may end in a slash; that
counts as an empty last name, which asks for a directory, so no file can be created there. At most
forty links are followed. A walk ends at a location that is taken, at one that is free because
only its last name is missing, or with the reason why it cannot go on.

The walk is cut at its links: `advance` goes on until the next link, and `walk` follows it. In a
tree without links a walk is a single advance.
-/

namespace BuildSteps

/-- What is done with the last name of a path: a link there is kept, or followed, or followed to
create a file where it leads. -/
inductive LastName where
  | kept
  | followed
  | created
  deriving Repr, DecidableEq

/-- Where a walk ends. -/
inductive Spot where
  | occupied (location : Location)
  | free (location : Location)
  deriving Repr, DecidableEq

/-- How far a walk comes before it has to follow a link. -/
inductive Progress where
  | reached (spot : Spot)
  | atLink (directory : Location) (target : String) (rest : List String)
  | stopped (reason : SystemError)
  deriving Repr, DecidableEq

namespace FileTree

/-- Whether a directory stands at a location. -/
def isDirectoryAt (tree : FileTree) (location : Location) : Bool :=
  match tree.get? location with
  | some .directory => true
  | _ => false

/-- Takes names until they are used up or a link has to be followed. -/
def advance (tree : FileTree) (last : LastName) : Location → List String → Progress
  | here, [] => .reached (.occupied here)
  | here, name :: rest =>
    if tree.isDirectoryAt here = false then .stopped .notDirectory
    else if name = "" ∨ name = "." then advance tree last here rest
    else if name = ".." then advance tree last here.dropLast rest
    else if last = .created ∧ rest = [""] then .stopped .isDirectory
    else if 255 < name.utf8ByteSize then .stopped .nameTooLong
    else
      match tree.get? (here ++ [name]) with
      | none => if rest = [] then .reached (.free (here ++ [name])) else .stopped .missing
      | some (.link target) =>
        if rest = [] ∧ last = .kept then .reached (.occupied (here ++ [name]))
        else .atLink here target rest
      | some _ => advance tree last (here ++ [name]) rest

/-- Where the target of a link in a directory starts. -/
def linkStart (directory : Location) (target : String) : Location :=
  if target.toList.head? = some '/' then [] else directory

/-- The names in the target of a link; a slash at the end counts as an empty name. -/
def linkNames (target : String) : List String :=
  let names := (PathName.pieces target.toList).filter (· ≠ [])
  (if target.toList.getLast? = some '/' then names ++ [[]] else names).map String.ofList

/-- Takes names and follows links, within a budget of stretches without links. Gives the spot, and
what is left of the budget. -/
def walk (tree : FileTree) (last : LastName) :
    Nat → Location → List String → Except SystemError (Spot × Nat)
  | 0, _, _ => .error .tooManyLinks
  | budget + 1, here, names =>
    match tree.advance last here names with
    | .reached spot => .ok (spot, budget + 1)
    | .atLink directory target rest =>
      walk tree last budget (linkStart directory target) (linkNames target ++ rest)
    | .stopped reason => .error reason

/-- The number of links that a walk may follow. -/
def linkLimit : Nat := 40

/-- The number of bytes that the text of a path must stay below. -/
def pathLimit : Nat := 4096

/-- A directory that was reached, and the budget for the walk from there. -/
structure Standing where
  location : Location
  budget : Nat
  deriving Repr, DecidableEq

/-- Where path names with an anchor start. -/
def start (tree : FileTree) (anchor : Anchor) : Standing where
  location :=
    match anchor with
    | .workingDirectory => tree.workingDirectory
    | .root => []
    | .doubleRoot => []
  budget := linkLimit + 1

/-- The spot that names denote, taken from a directory on. -/
def walkFrom (tree : FileTree) (last : LastName) (standing : Standing) (names : List String) :
    Except SystemError (Spot × Nat) :=
  tree.walk last standing.budget standing.location names

/-- The error of a path name that no walk is made for. -/
def refusal? (path : PathName) : Option FileError :=
  if '\x00' ∈ path.text.toList then some .nullCharacter
  else if pathLimit ≤ path.text.utf8ByteSize then some (.refused .nameTooLong path)
  else none

/-- The spot that a path name denotes. -/
def locate (tree : FileTree) (last : LastName) (path : PathName) : Except FileError Spot :=
  match refusal? path with
  | some error => .error error
  | none =>
    match tree.walkFrom last (tree.start path.anchor) path.names with
    | .ok (spot, _) => .ok spot
    | .error reason => .error (.refused reason path)

/-- The entry that a path name denotes, links followed. -/
def entryAt? (tree : FileTree) (path : PathName) : Option Entry :=
  match tree.locate .followed path with
  | .ok (.occupied location) => tree.get? location
  | _ => none

end FileTree

end BuildSteps
