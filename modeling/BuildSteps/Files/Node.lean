/-!
# Nodes of a file tree

A node holds what stands at one place, if anything does, and the nodes below it by their names. The
names from a node to one below it are a location. Every location has a node; where nothing was ever
placed, it is bare. What is placed at one location leaves all others as they were.
-/

namespace BuildSteps

/-- The names from the root to an entry. -/
abbrev Location := List String

/-- What stands at a location. A device takes every write and keeps nothing. -/
inductive Entry where
  | directory
  | file (content : String)
  | link (target : String)
  | device
  deriving Repr, DecidableEq

/-- What stands at a place, and the places right below it by name. -/
inductive FileNode where
  | node (entry : Option Entry) (children : List (String × FileNode))

namespace FileNode

/-- A node where nothing stands, and nothing below it. -/
def bare : FileNode := node none []

/-- What stands at a node. -/
def entry : FileNode → Option Entry
  | node entry _ => entry

/-- The first of some nodes that has a name, or a bare one. -/
def named (name : String) : List (String × FileNode) → FileNode
  | [] => bare
  | first :: rest => if first.1 = name then first.2 else named name rest

/-- The node right below another that has a name. -/
def child (name : String) : FileNode → FileNode
  | node _ children => named name children

/-- Some named nodes, of which one is replaced or added. -/
def putNamed (name : String) (new : FileNode) : List (String × FileNode) → List (String × FileNode)
  | [] => [(name, new)]
  | first :: rest =>
    if first.1 = name then (name, new) :: rest else first :: putNamed name new rest

/-- A node with another one right below it. -/
def withChild (parent : FileNode) (name : String) (new : FileNode) : FileNode :=
  match parent with
  | node entry children => node entry (putNamed name new children)

/-- A node with something standing at it. -/
def withEntry (entry : Option Entry) : FileNode → FileNode
  | node _ children => node entry children

/-- The node at a location below another. -/
def descend : FileNode → Location → FileNode
  | here, [] => here
  | here, name :: rest => (here.child name).descend rest

/-- A node with a change at a location below it. -/
def change (how : FileNode → FileNode) : Location → FileNode → FileNode
  | [], here => how here
  | name :: rest, here => here.withChild name (change how rest (here.child name))

mutual

/-- What stands below a node, by location. -/
def entries : FileNode → List (Location × Entry)
  | node _ children => allEntries children
termination_by structural here => here

/-- What stands at and below some named nodes, by location. -/
def allEntries : List (String × FileNode) → List (Location × Entry)
  | [] => []
  | (name, first) :: rest =>
    (first.entry.map fun entry => ([name], entry)).toList ++
      (entries first).map (fun item => (name :: item.1, item.2)) ++ allEntries rest
termination_by structural nodes => nodes

end

theorem named_putNamed (name other : String) (new : FileNode) (nodes : List (String × FileNode)) :
    named other (putNamed name new nodes) = if other = name then new else named other nodes := by
  induction nodes with
  | nil => simp [putNamed, named, eq_comm]
  | cons first rest ih =>
    unfold putNamed
    by_cases here : first.1 = name
    · by_cases same : other = name
      · simp [here, named, same]
      · simp [here, named, same, Ne.symm same]
    · by_cases there : first.1 = other
      · simp [named, there, there ▸ here]
      · simp [here, named, there, ih]

theorem child_withChild (name other : String) (new parent : FileNode) :
    (parent.withChild name new).child other = if other = name then new else parent.child other := by
  cases parent with
  | node entry children => exact named_putNamed name other new children

theorem entry_withChild (name : String) (new parent : FileNode) :
    (parent.withChild name new).entry = parent.entry := by
  cases parent with
  | node entry children => rfl

/-- Placing something at a location changes what stands there, and nowhere else. -/
theorem entry_descend_change (entry : Option Entry) (location other : Location) (here : FileNode) :
    ((change (withEntry entry) location here).descend other).entry =
      if other = location then entry else (here.descend other).entry := by
  induction location generalizing here other with
  | nil =>
    cases here with
    | node old children =>
      cases other with
      | nil => rfl
      | cons name rest => simp [change, withEntry, descend, child]
  | cons name rest ih =>
    cases other with
    | nil => simp [change, descend, entry_withChild]
    | cons first others =>
      by_cases same : first = name
      · simp [change, descend, child_withChild, same, ih]
      · simp [change, descend, child_withChild, same]

end FileNode

end BuildSteps
