import BuildSteps.Files.Lookup

/-!
# Requests on a file tree

Each request denotes its files by path names. It gives the new tree, or the reason why it failed.

`ensureDirectory` first tries to make the directory that is asked for. If something on the way to it
is missing, it makes the directory above in the same manner, and then tries again from there. It may
do a part of its work before it fails, so it always gives a tree as well; but it makes nothing at
all if too many attempts would lie within one another.
-/

namespace BuildSteps.FileTree

/-- The directory that names lead to from another, links followed. -/
def directoryFrom? (tree : FileTree) (standing : Standing) (names : List String) :
    Option Standing :=
  match tree.walkFrom .followed standing names with
  | .ok (.occupied location, budget) =>
    if tree.isDirectoryAt location then some ⟨location, budget⟩ else none
  | _ => none

/-- Makes the directory that names lead to from another, unless there is one already. Gives that
directory and the tree. -/
def makeDirectory (tree : FileTree) (standing : Standing) (names : List String) :
    Except SystemError (Standing × FileTree) :=
  match tree.walkFrom .kept standing names with
  | .ok (.free location, budget) => .ok (⟨location, budget⟩, tree.put location .directory)
  | .ok (.occupied _, _) =>
    match tree.directoryFrom? standing names with
    | some reached => .ok (reached, tree)
    | none => .error .taken
  | .error reason => .error reason

/-- The greatest number of attempts to make a directory that lie within one another. -/
def nestingLimit : Nat := 986

/-- Makes the directory with the given names, last name first, and before it the directories that
it lies in, as far as they are missing, within a number of attempts. Gives that directory. -/
def ensureNames (anchor : Anchor) :
    Nat → List String → FileTree → Except FileError Standing × FileTree
  | 0, _, tree => (.error .tooDeep, tree)
  | attempts + 1, names, tree =>
    let path : PathName := ⟨anchor, names.reverse⟩
    match tree.makeDirectory (tree.start anchor) path.names, names with
    | .ok (reached, made), _ => (.ok reached, made)
    | .error .missing, name :: above =>
      match ensureNames anchor attempts above tree with
      | (.error error, partly) => (.error error, partly)
      | (.ok parent, prepared) =>
        match prepared.makeDirectory parent [name] with
        | .ok (reached, made) => (.ok reached, made)
        | .error reason => (.error (.refused reason path), prepared)
    | .error reason, _ => (.error (.refused reason path), tree)

/-- Makes a directory and the directories that it lies in, unless they are there already. -/
def ensureDirectory (path : PathName) (tree : FileTree) : Except FileError Unit × FileTree :=
  match refusal? path with
  | some error => (.error error, tree)
  | none =>
    match ensureNames path.anchor nestingLimit path.names.reverse tree with
    | (.ok _, made) => (.ok (), made)
    | (.error error, partly) => (.error error, partly)

/-- Whether a path name denotes an entry, links followed. A path that is too long is an error. -/
def hasEntry (tree : FileTree) (path : PathName) : Except FileError Bool :=
  match tree.locate .followed path with
  | .ok (.occupied _) => .ok true
  | .ok (.free _) => .ok false
  | .error (.refused .nameTooLong long) => .error (.refused .nameTooLong long)
  | .error _ => .ok false

/-- The size that the system reports for a directory. -/
def directorySize : Nat := 4096

/-- The size of an entry in bytes. -/
def entrySize : Entry → Nat
  | .directory => directorySize
  | .file content => content.utf8ByteSize
  | .link target => target.utf8ByteSize
  | .device => 0

/-- Removes a file or a link; the link itself, not its target. -/
def unlink (tree : FileTree) (path : PathName) : Except FileError FileTree :=
  match tree.locate .kept path with
  | .ok (.occupied location) =>
    if tree.isDirectoryAt location then .error (.refused .isDirectory path)
    else .ok (tree.remove location)
  | .ok (.free _) => .error (.refused .missing path)
  | .error error => .error error

/-- The reason of a failed request on one of two paths, as a reason against both. -/
def pairError (source target : PathName) : FileError → FileError
  | .refused reason _ => .moveRefused reason source target
  | other => other

/-- Puts what stands at one location in the place of what stands at another. -/
def replaceAt (tree : FileTree) (source target : PathName) (former goal : Location) :
    Except FileError FileTree :=
  match tree.get? former with
  | none => .error (.moveRefused .missing source target)
  | some .directory =>
    if (tree.get? goal).isSome ∧ tree.isDirectoryAt goal = false then
      .error (.moveRefused .notDirectory source target)
    else .ok (tree.move former goal)
  | some entry =>
    if tree.isDirectoryAt goal then .error (.moveRefused .isDirectory source target)
    else .ok ((tree.remove former).put goal entry)

/-- Renames an entry, in place of one that the new name may have had. Links are not followed. -/
def rename (tree : FileTree) (source target : PathName) : Except FileError FileTree :=
  match tree.locate .kept source with
  | .error error => .error (pairError source target error)
  | .ok (.free _) => .error (.moveRefused .missing source target)
  | .ok (.occupied former) =>
    match tree.locate .kept target with
    | .error error => .error (pairError source target error)
    | .ok (.free goal) => tree.replaceAt source target former goal
    | .ok (.occupied goal) => tree.replaceAt source target former goal

/-- Opens a file or a device to write at its end. Creates a file if nothing is there. Gives the
location. -/
def openForAppend (tree : FileTree) (path : PathName) : Except FileError (Location × FileTree) :=
  match tree.locate .created path with
  | .ok (.free location) => .ok (location, tree.put location (.file ""))
  | .ok (.occupied location) =>
    match tree.get? location with
    | some .directory => .error (.refused .isDirectory path)
    | some (.file _) => .ok (location, tree)
    | some .device => .ok (location, tree)
    | some (.link _) => .error (.refused .tooManyLinks path)
    | none => .error (.refused .missing path)
  | .error error => .error error

/-- A file is opened where nothing is yet, and there it is created, or where a file or a device is.
-/
theorem openForAppend_cases {tree opened : FileTree} {path : PathName} {location : Location}
    (opens : tree.openForAppend path = .ok (location, opened)) :
    (tree.locate .created path = .ok (.free location) ∧ opened = tree.put location (.file "")) ∨
      (tree.locate .created path = .ok (.occupied location) ∧ opened = tree ∧
        ((∃ content, tree.get? location = some (.file content)) ∨
          tree.get? location = some .device)) := by
  simp only [openForAppend] at opens
  split at opens
  · rename_i free located
    cases opens
    exact Or.inl ⟨located, rfl⟩
  · rename_i occupied located
    split at opens
    · cases opens
    · rename_i content stands
      cases opens
      exact Or.inr ⟨located, rfl, Or.inl ⟨content, stands⟩⟩
    · rename_i stands
      cases opens
      exact Or.inr ⟨located, rfl, Or.inr stands⟩
    · cases opens
    · cases opens
  · cases opens

/-- Writes a text at the end of the file at a location. -/
def appendAt (tree : FileTree) (location : Location) (text : String) : FileTree :=
  match tree.get? location with
  | some (.file content) => tree.put location (.file (content ++ text))
  | _ => tree

end BuildSteps.FileTree
