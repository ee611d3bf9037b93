import BuildSteps.Files.Node

/-!
# File trees

A file tree gives each location at most one entry: a directory, a file with its content, a symbolic
link with the text of its target, or a device. The root is always a directory. A tree also knows
the working directory, where relative path names start.

The view of a tree is `get?`; each operation is described by what it does to that view.
-/

namespace BuildSteps

/-- A tree of files with a working directory. -/
structure FileTree where
  root : FileNode
  workingDirectory : Location

namespace FileTree

/-- The entry at a location. -/
def get? (tree : FileTree) (location : Location) : Option Entry :=
  if location = [] then some .directory else (tree.root.descend location).entry

/-- Places an entry at a location. -/
def put (tree : FileTree) (location : Location) (entry : Entry) : FileTree :=
  { tree with root := tree.root.change (.withEntry (some entry)) location }

/-- Removes what stands at a location. -/
def remove (tree : FileTree) (location : Location) : FileTree :=
  { tree with root := tree.root.change (.withEntry none) location }

/-- Removes what stands at a location and everything below it. -/
def removeAll (tree : FileTree) (location : Location) : FileTree :=
  { tree with root := tree.root.change (fun _ => .bare) location }

/-- Moves what stands at a location, and everything below it, to another location. -/
def move (tree : FileTree) (source target : Location) : FileTree :=
  let moved := tree.root.descend source
  let cleared := tree.removeAll source
  { cleared with root := cleared.root.change (fun _ => moved) target }

/-- The directory that an empty tree has to work in. -/
def home : Location := ["work"]

/-- A tree with an empty working directory and the null device. -/
def empty : FileTree :=
  let bare : FileTree := ⟨.bare, home⟩
  ((bare.put ["dev"] .directory).put ["dev", "null"] .device).put home .directory

/-- The entries below the working directory, by their path from there, in ascending order. -/
def listing (tree : FileTree) : List (String × Entry) :=
  let entries := (tree.root.descend tree.workingDirectory).entries
  (entries.map fun item => ("/".intercalate item.1, item.2)).mergeSort
    fun left right => decide (left.1 ≤ right.1)

/-- Placing an entry changes the view at its location only. -/
theorem get?_put (tree : FileTree) (location other : Location) (entry : Entry) :
    (tree.put location entry).get? other =
      if other ≠ [] ∧ other = location then some entry else tree.get? other := by
  by_cases root : other = []
  · simp [get?, root]
  · simp [get?, put, root, FileNode.entry_descend_change]

/-- Removing an entry changes the view at its location only. -/
theorem get?_remove (tree : FileTree) (location other : Location) :
    (tree.remove location).get? other =
      if other ≠ [] ∧ other = location then none else tree.get? other := by
  by_cases root : other = []
  · simp [get?, root]
  · simp [get?, remove, root, FileNode.entry_descend_change]

end FileTree

end BuildSteps
