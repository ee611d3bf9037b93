import BuildSteps.Proofs.Files.Contents

/-!
# Trees without symbolic links

In a tree without symbolic links a path name denotes the location that its names lead to lexically,
each name of two dots cancelling the name before it. This file proves that for walks and for the
look-up of a file in a directory, and reads off what unlinking, renaming and opening such a file do
to the tree.

Lexical resolution says where a walk ends if it ends at all. Whether it does depends on the entries
on the way, and the length of the path and of its names.
-/

namespace BuildSteps

namespace FileTree

/-- A tree is link-free if no symbolic link stands in it. -/
def LinkFree (tree : FileTree) : Prop :=
  ∀ location target, tree.get? location ≠ some (.link target)

/-- The location that a name leads to lexically. -/
def nextLocation (here : Location) (name : String) : Location :=
  if name = "" ∨ name = "." then here
  else if name = ".." then here.dropLast
  else here ++ [name]

/-- The location that names lead to lexically. -/
def resolve (here : Location) (names : List String) : Location :=
  names.foldl nextLocation here

/-- The location that a path name denotes lexically. -/
def locationOf (tree : FileTree) (path : PathName) : Location :=
  resolve (tree.start path.anchor).location path.names

/-- The place of a file in a directory, by lexical resolution. -/
def placeIn (tree : FileTree) (directory : PathName) (name : String) : Location :=
  tree.locationOf directory ++ [name]

/-- A name is proper if it leads to an entry of the directory reached so far. -/
def IsProperName (name : String) : Prop :=
  name ≠ "" ∧ name ≠ "." ∧ name ≠ ".."

theorem start_eq {tree after : FileTree} (same : after.workingDirectory = tree.workingDirectory)
    (anchor : Anchor) : after.start anchor = tree.start anchor := by
  cases anchor <;> simp only [start, same]

theorem locationOf_eq {tree after : FileTree}
    (same : after.workingDirectory = tree.workingDirectory) (path : PathName) :
    after.locationOf path = tree.locationOf path := by
  simp only [locationOf, start_eq same]

theorem resolve_cons (here : Location) (name : String) (rest : List String) :
    resolve here (name :: rest) = resolve (nextLocation here name) rest := rfl

theorem resolve_append (here : Location) (front back : List String) :
    resolve here (front ++ back) = resolve (resolve here front) back := by
  simp only [resolve, List.foldl_append]

theorem nextLocation_of_proper (here : Location) {name : String} (proper : IsProperName name) :
    nextLocation here name = here ++ [name] := by
  rcases proper with ⟨notEmpty, notDot, notDots⟩
  simp [nextLocation, notEmpty, notDot, notDots]

theorem resolve_concat (here : Location) (names : List String) {name : String}
    (proper : IsProperName name) :
    resolve here (names ++ [name]) = resolve here names ++ [name] := by
  rw [resolve_append, resolve_cons, nextLocation_of_proper _ proper]
  rfl

/-- A tree without links stays so when the entry put is no link. -/
theorem LinkFree.put {tree : FileTree} (linkFree : tree.LinkFree) {location : Location}
    {entry : Entry} (noLink : ∀ target, entry ≠ .link target) :
    (tree.put location entry).LinkFree := by
  intro other target
  rw [get?_put]
  split
  · intro same
    exact noLink target (Option.some.inj same)
  · exact linkFree other target

theorem LinkFree.remove {tree : FileTree} (linkFree : tree.LinkFree) (location : Location) :
    (tree.remove location).LinkFree := by
  intro other target
  rw [get?_remove]
  split
  · simp
  · exact linkFree other target

theorem entry_descend_bare (location : Location) :
    (FileNode.bare.descend location).entry = none := by
  induction location with
  | nil => rfl
  | cons name rest ih => exact ih

/-- The tree that holds nothing but its root has no link. -/
theorem linkFree_empty : empty.LinkFree := by
  have bare : LinkFree ⟨.bare, home⟩ := by
    intro location target
    simp only [get?]
    split
    · simp
    · simp [entry_descend_bare]
  refine ((bare.put ?_).put ?_).put ?_
  · intro target impossible
    cases impossible
  · intro target impossible
    cases impossible
  · intro target impossible
    cases impossible

/-- A place is free for a new entry if nothing stands there and names lead to it by a proper last
name. -/
def IsFreeAt (tree : FileTree) (here : Location) (names : List String)
    (location : Location) : Prop :=
  tree.get? location = none ∧
    ∃ above name, above ++ [name] = names ∧ IsProperName name ∧
      location = resolve here above ++ [name]

/-- In a link-free tree a name leads on lexically, or to a free place at the end, or nowhere. Where
a proper name leads on, something stands. -/
theorem advance_cons_cases {tree : FileTree} (linkFree : tree.LinkFree) (last : LastName)
    (here : Location) (name : String) (rest : List String) :
    (tree.advance last here (name :: rest) = tree.advance last (nextLocation here name) rest ∧
        (IsProperName name → (tree.get? (nextLocation here name)).isSome)) ∨
      (rest = [] ∧ IsProperName name ∧ tree.get? (here ++ [name]) = none ∧
        tree.advance last here (name :: rest) = .reached (.free (here ++ [name]))) ∨
      ∃ reason, tree.advance last here (name :: rest) = .stopped reason := by
  simp only [advance]
  by_cases blocked : tree.isDirectoryAt here = false
  · rw [if_pos blocked]
    exact Or.inr (Or.inr ⟨_, rfl⟩)
  rw [if_neg blocked]
  by_cases skipped : name = "" ∨ name = "."
  · rw [if_pos skipped, nextLocation, if_pos skipped]
    refine Or.inl ⟨rfl, ?_⟩
    rintro ⟨notEmpty, notDot, -⟩
    exact absurd skipped (not_or.mpr ⟨notEmpty, notDot⟩)
  rw [if_neg skipped]
  by_cases dots : name = ".."
  · rw [if_pos dots, nextLocation, if_neg skipped, if_pos dots]
    exact Or.inl ⟨rfl, fun proper => absurd dots proper.2.2⟩
  rw [if_neg dots]
  have proper : IsProperName name := by
    rw [not_or] at skipped
    exact ⟨skipped.1, skipped.2, dots⟩
  rw [nextLocation_of_proper here proper]
  by_cases closed : last = .created ∧ rest = [""]
  · rw [if_pos closed]
    exact Or.inr (Or.inr ⟨_, rfl⟩)
  rw [if_neg closed]
  by_cases long : 255 < name.utf8ByteSize
  · rw [if_pos long]
    exact Or.inr (Or.inr ⟨_, rfl⟩)
  rw [if_neg long]
  cases found : tree.get? (here ++ [name]) with
  | none =>
      by_cases ended : rest = []
      · refine Or.inr (Or.inl ⟨ended, proper, rfl, ?_⟩)
        simp only [ended, if_true]
      · refine Or.inr (Or.inr ⟨.missing, ?_⟩)
        simp only [ended, if_false]
  | some entry =>
      cases entry with
      | link target => exact absurd found (linkFree _ target)
      | directory => exact Or.inl ⟨rfl, fun _ => rfl⟩
      | file content => exact Or.inl ⟨rfl, fun _ => rfl⟩
      | device => exact Or.inl ⟨rfl, fun _ => rfl⟩

/-- In a link-free tree a stretch of a walk is the whole walk: it ends at the location that the
names lead to lexically, or it stops. -/
theorem advance_cases {tree : FileTree} (linkFree : tree.LinkFree) (last : LastName)
    (here : Location) (names : List String) :
    tree.advance last here names = .reached (.occupied (resolve here names)) ∨
      (tree.advance last here names = .reached (.free (resolve here names)) ∧
        tree.IsFreeAt here names (resolve here names)) ∨
      ∃ reason, tree.advance last here names = .stopped reason := by
  induction names generalizing here with
  | nil => exact Or.inl rfl
  | cons name rest ih =>
      rcases advance_cons_cases linkFree last here name rest with
        ⟨onwards, -⟩ | ⟨rfl, proper, unused, free⟩ | stopped
      · rw [onwards, resolve_cons]
        rcases ih (nextLocation here name) with
          occupied | ⟨free, unused, above, lastName, whole, proper, place⟩ | stopped
        · exact Or.inl occupied
        · refine Or.inr (Or.inl ⟨free, unused, name :: above, lastName, ?_, proper, place⟩)
          rw [List.cons_append, whole]
        · exact Or.inr (Or.inr stopped)
      · have place : resolve here [name] = here ++ [name] := nextLocation_of_proper here proper
        rw [place]
        exact Or.inr (Or.inl ⟨free, unused, [], name, rfl, proper, rfl⟩)
      · exact Or.inr (Or.inr stopped)

/-- A walk over plain names that ends at an occupied spot ends where an entry stands. -/
theorem get?_of_occupied {tree : FileTree} (linkFree : tree.LinkFree) {last : LastName}
    {here location : Location} {names : List String} {name : String} (proper : IsProperName name)
    (occupied : tree.advance last here (names ++ [name]) = .reached (.occupied location)) :
    (tree.get? location).isSome := by
  induction names generalizing here with
  | nil =>
      rw [List.nil_append] at occupied
      rcases advance_cons_cases linkFree last here name [] with
        ⟨onwards, stands⟩ | ⟨-, -, -, free⟩ | ⟨reason, stopped⟩
      · rw [onwards] at occupied
        cases occupied
        exact stands proper
      · rw [free] at occupied
        cases occupied
      · rw [stopped] at occupied
        cases occupied
  | cons first rest ih =>
      rw [List.cons_append] at occupied
      rcases advance_cons_cases linkFree last here first (rest ++ [name]) with
        ⟨onwards, -⟩ | ⟨ended, -, -, -⟩ | ⟨reason, stopped⟩
      · rw [onwards] at occupied
        exact ih occupied
      · simp at ended
      · rw [stopped] at occupied
        cases occupied

/-- Without links, a walk that ends is its one advance, whatever its budget. -/
theorem walk_eq_ok {tree : FileTree} (linkFree : tree.LinkFree) {last : LastName}
    {budget left : Nat} {here : Location} {names : List String} {spot : Spot}
    (walked : tree.walk last budget here names = .ok (spot, left)) :
    tree.advance last here names = .reached spot := by
  cases budget with
  | zero => simp [walk] at walked
  | succ budget =>
      simp only [walk] at walked
      rcases advance_cases linkFree last here names with occupied | ⟨free, -⟩ | ⟨reason, stopped⟩
      · rw [occupied] at walked ⊢
        cases walked
        rfl
      · rw [free] at walked ⊢
        cases walked
        rfl
      · rw [stopped] at walked
        cases walked

/-- Without links, a path is located by one advance from its start. -/
theorem locate_eq_ok {tree : FileTree} (linkFree : tree.LinkFree) {last : LastName}
    {path : PathName} {spot : Spot} (located : tree.locate last path = .ok spot) :
    tree.advance last (tree.start path.anchor).location path.names = .reached spot := by
  simp only [locate] at located
  split at located
  · cases located
  · split at located
    · rename_i walked
      cases located
      exact walk_eq_ok linkFree walked
    · cases located

/-- The look-up of a file in a directory ends at the place of that file, where something stands or
nothing. -/
theorem locate_child {tree : FileTree} (linkFree : tree.LinkFree) {last : LastName}
    {directory : PathName} {name : String} (proper : IsProperName name) {spot : Spot}
    (located : tree.locate last (directory.child name) = .ok spot) :
    (spot = .occupied (tree.placeIn directory name) ∧
        (tree.get? (tree.placeIn directory name)).isSome) ∨
      (spot = .free (tree.placeIn directory name) ∧
        tree.get? (tree.placeIn directory name) = none) := by
  have walked := locate_eq_ok linkFree located
  simp only [PathName.child] at walked
  have place := resolve_concat (tree.start directory.anchor).location directory.names proper
  rw [← locationOf, ← placeIn] at place
  rcases advance_cases linkFree last (tree.start directory.anchor).location
    (directory.names ++ [name]) with occupied | ⟨free, unused, -⟩ | ⟨reason, stopped⟩
  · have stands := get?_of_occupied linkFree proper occupied
    rw [occupied, place] at walked
    rw [place] at stands
    cases walked
    exact Or.inl ⟨rfl, stands⟩
  · rw [free, place] at walked
    rw [place] at unused
    cases walked
    exact Or.inr ⟨rfl, unused⟩
  · rw [stopped] at walked
    cases walked

section Requests

variable {tree : FileTree} {directory : PathName} {name : String}

/-- What a child path shows is what stands at its place. -/
theorem entryAt?_child (linkFree : tree.LinkFree) (proper : IsProperName name) {entry : Entry}
    (found : tree.entryAt? (directory.child name) = some entry) :
    tree.get? (tree.placeIn directory name) = some entry := by
  simp only [entryAt?] at found
  split at found
  · rename_i location located
    rcases locate_child linkFree proper located with ⟨place, -⟩ | ⟨impossible, -⟩
    · cases place
      exact found
    · cases impossible
  · cases found

/-- A successful removal takes away the entry at the place of the child and nothing else. -/
theorem unlink_child (linkFree : tree.LinkFree) (proper : IsProperName name)
    {cleared : FileTree} (removed : tree.unlink (directory.child name) = .ok cleared) :
    cleared = tree.remove (tree.placeIn directory name) := by
  simp only [unlink] at removed
  split at removed
  · rename_i location located
    rcases locate_child linkFree proper located with ⟨place, -⟩ | ⟨impossible, -⟩
    · cases place
      split at removed
      · cases removed
      · cases removed
        rfl
    · cases impossible
  · cases removed
  · cases removed

/-- A successful replacement moves the entry from its former place to the goal. -/
theorem replaceAt_eq_ok {source target : PathName} {former goal : Location} {entry : Entry}
    {renamed : FileTree} (stands : tree.get? former = some entry) (noDirectory : entry ≠ .directory)
    (replaced : tree.replaceAt source target former goal = .ok renamed) :
    renamed = (tree.remove former).put goal entry := by
  simp only [replaceAt, stands] at replaced
  cases entry with
  | directory => exact absurd rfl noDirectory
  | _ =>
      split at replaced
      · cases replaced
      · cases replaced
        rfl

/-- A successful renaming between two children of a directory moves the entry between their
places. -/
theorem rename_child (linkFree : tree.LinkFree) (proper : IsProperName name) {target : String}
    (properTarget : IsProperName target) {entry : Entry} {renamed : FileTree}
    (stands : tree.get? (tree.placeIn directory name) = some entry)
    (noDirectory : entry ≠ .directory)
    (moved : tree.rename (directory.child name) (directory.child target) = .ok renamed) :
    renamed =
      (tree.remove (tree.placeIn directory name)).put (tree.placeIn directory target) entry := by
  simp only [rename] at moved
  split at moved
  · cases moved
  · cases moved
  · rename_i former locatedSource
    rcases locate_child linkFree proper locatedSource with ⟨place, -⟩ | ⟨impossible, -⟩
    · cases place
      split at moved
      · cases moved
      · rename_i goal locatedTarget
        rcases locate_child linkFree properTarget locatedTarget with ⟨impossible, -⟩ | ⟨place, -⟩
        · cases impossible
        · cases place
          exact replaceAt_eq_ok stands noDirectory moved
      · rename_i goal locatedTarget
        rcases locate_child linkFree properTarget locatedTarget with ⟨place, -⟩ | ⟨impossible, -⟩
        · cases place
          exact replaceAt_eq_ok stands noDirectory moved
        · cases impossible
    · cases impossible

/-- A child that opens is at its place, with the entry found there or with a new empty file. -/
theorem openForAppend_child (linkFree : tree.LinkFree) (proper : IsProperName name)
    {location : Location} {opened : FileTree}
    (opens : tree.openForAppend (directory.child name) = .ok (location, opened)) :
    location = tree.placeIn directory name ∧
      ((opened = tree ∧ (tree.get? location).isSome) ∨
        (opened = tree.put location (.file "") ∧ tree.get? location = none)) := by
  rcases openForAppend_cases opens with ⟨located, made⟩ | ⟨located, same, -⟩
  · rcases locate_child linkFree proper located with ⟨impossible, -⟩ | ⟨place, unused⟩
    · cases impossible
    · cases place
      exact ⟨rfl, Or.inr ⟨made, unused⟩⟩
  · rcases locate_child linkFree proper located with ⟨place, stands⟩ | ⟨impossible, -⟩
    · cases place
      exact ⟨rfl, Or.inl ⟨same, stands⟩⟩
    · cases impossible

/-- What a child that opens has shown before is what stands at its place. -/
theorem entryAt?_of_opened (linkFree : tree.LinkFree) (proper : IsProperName name)
    {location : Location} {opened : FileTree}
    (opens : tree.openForAppend (directory.child name) = .ok (location, opened)) :
    tree.entryAt? (directory.child name) = tree.get? (tree.placeIn directory name) := by
  rw [entryAt?_of_opens opens, (openForAppend_child linkFree proper opens).1]

end Requests

end FileTree

end BuildSteps
