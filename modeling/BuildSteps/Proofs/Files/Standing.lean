import BuildSteps.Proofs.Files.LinkFree

/-!
# Directories that stand

A directory that a path name leads to without a link is left alone by a request to make it, and a
file in it is found right below its location. It stays where it is as long as no directory is taken
away: everything on the way to it is a directory too, or the way would have ended there.

A way is taken apart name by name. `advance_cons_of_reached` says what each name of a way that
reaches its end does, and `advance_cons_of_stepsTo` that such a name does the same wherever it
occurs, which carries the way over to longer ones and to other trees.
-/

namespace BuildSteps.FileTree

/-- A path name leads to a location if a directory stands there and no link is on the way. -/
structure LeadsTo (tree : FileTree) (path : PathName) (location : Location) : Prop where
  reached : tree.advance .followed (tree.start path.anchor).location path.names =
    .reached (.occupied location)
  directory : tree.isDirectoryAt location = true

/-- A tree keeps the directories of another if each of them is a directory still. -/
def KeepsDirectories (tree after : FileTree) : Prop :=
  ∀ location, tree.isDirectoryAt location = true → after.isDirectoryAt location = true

/-- A name leads from a directory to what stands right below it, to its parent, or nowhere else. -/
def StepsTo (tree : FileTree) (here : Location) (name : String) (next : Location) : Prop :=
  tree.isDirectoryAt here = true ∧
    (((name = "" ∨ name = ".") ∧ next = here) ∨ (name = ".." ∧ next = here.dropLast) ∨
      (IsProperName name ∧ name.utf8ByteSize ≤ 255 ∧ next = here ++ [name] ∧
        (tree.get? next).isSome = true ∧ ∀ target, tree.get? next ≠ some (.link target)))

section Ways

variable {tree after : FileTree} {last : LastName} {here next there : Location}
  {names more rest : List String} {name : String}

/-- A directory stands at a location iff the entry there is one. -/
theorem isDirectoryAt_iff {location : Location} :
    tree.isDirectoryAt location = true ↔ tree.get? location = some .directory := by
  simp only [isDirectoryAt]
  split
  · rename_i directory
    simp [directory]
  · rename_i other
    simp only [Bool.false_eq_true, false_iff]
    exact other

theorem isDirectoryAt_eq_false_iff {location : Location} :
    tree.isDirectoryAt location = false ↔ tree.get? location ≠ some .directory := by
  rw [← Bool.not_eq_true, isDirectoryAt_iff]

theorem KeepsDirectories.refl (tree : FileTree) : tree.KeepsDirectories tree :=
  fun _ stands => stands

theorem KeepsDirectories.trans {later : FileTree} (first : tree.KeepsDirectories after)
    (second : after.KeepsDirectories later) : tree.KeepsDirectories later :=
  fun location stands => second location (first location stands)

theorem KeepsDirectories.put {place : Location} (noDirectory : tree.isDirectoryAt place = false)
    (entry : Entry) : tree.KeepsDirectories (tree.put place entry) := by
  intro location stands
  have elsewhere : location ≠ place := by
    rintro rfl
    rw [noDirectory] at stands
    cases stands
  rw [isDirectoryAt_iff] at stands ⊢
  rw [get?_put, if_neg fun both => elsewhere both.2, stands]

theorem KeepsDirectories.remove {place : Location}
    (noDirectory : tree.isDirectoryAt place = false) :
    tree.KeepsDirectories (tree.remove place) := by
  intro location stands
  have elsewhere : location ≠ place := by
    rintro rfl
    rw [noDirectory] at stands
    cases stands
  rw [isDirectoryAt_iff] at stands ⊢
  rw [get?_remove, if_neg fun both => elsewhere both.2, stands]

/-- On a way that reaches its end each name leads on. -/
theorem advance_cons_of_reached
    (reached : tree.advance .followed here (name :: rest) = .reached (.occupied there)) :
    ∃ next, tree.StepsTo here name next ∧
      tree.advance .followed next rest = .reached (.occupied there) := by
  simp only [advance, reduceCtorEq, false_and, and_false, if_false] at reached
  split at reached
  · cases reached
  · rename_i directory
    rw [Bool.not_eq_false] at directory
    split at reached
    · rename_i skipped
      exact ⟨here, ⟨directory, Or.inl ⟨skipped, rfl⟩⟩, reached⟩
    · rename_i notSkipped
      rw [not_or] at notSkipped
      split at reached
      · rename_i dots
        exact ⟨here.dropLast, ⟨directory, Or.inr (Or.inl ⟨dots, rfl⟩)⟩, reached⟩
      · rename_i notDots
        have proper : IsProperName name := ⟨notSkipped.1, notSkipped.2, notDots⟩
        split at reached
        · cases reached
        · rename_i short
          have fits : name.utf8ByteSize ≤ 255 := by omega
          cases found : tree.get? (here ++ [name]) with
          | none =>
              simp only [found] at reached
              split at reached <;> cases reached
          | some entry =>
              have stands : (tree.get? (here ++ [name])).isSome = true := by
                rw [found]
                rfl
              have noLink : ∀ target, entry ≠ .link target := by
                rintro target rfl
                simp only [found] at reached
                cases reached
              refine ⟨here ++ [name],
                ⟨directory, Or.inr (Or.inr ⟨proper, fits, rfl, stands, ?_⟩)⟩, ?_⟩
              · intro target isLink
                rw [found, Option.some.injEq] at isLink
                exact noLink target isLink
              · cases entry with
                | link target => exact absurd rfl (noLink target)
                | _ => simpa only [found] using reached

/-- Where a name leads on, it does so on every way, unless a file is to be created behind it. -/
theorem advance_cons_of_stepsTo (steps : tree.StepsTo here name next)
    (creatable : last = .created → rest ≠ [""]) :
    tree.advance last here (name :: rest) = tree.advance last next rest := by
  rcases steps with ⟨directory, ⟨skipped, rfl⟩ | ⟨rfl, rfl⟩ | ⟨proper, short, rfl, stands, noLink⟩⟩
  · simp only [advance, directory, Bool.true_eq_false, if_false, skipped, if_true]
  · simp [advance, directory]
  · rcases proper with ⟨notEmpty, notDot, notDots⟩
    have closed : ¬(last = .created ∧ rest = [""]) := fun both => creatable both.1 both.2
    rcases Option.isSome_iff_exists.mp stands with ⟨entry, found⟩
    simp only [advance, directory, Bool.true_eq_false, if_false, notEmpty, notDot, or_self,
      notDots, closed, Nat.not_lt.mpr short, found]
    cases entry with
    | link target => exact absurd found (noLink target)
    | _ => rfl

/-- A way that reaches its end without a link is the beginning of every longer one. -/
theorem advance_append (reached : tree.advance .followed here names = .reached (.occupied there))
    (creatable : last = .created → ∀ front, front ++ more ≠ [""]) :
    tree.advance last here (names ++ more) = tree.advance last there more := by
  induction names generalizing here with
  | nil =>
      cases reached
      rfl
  | cons name rest ih =>
      rcases advance_cons_of_reached reached with ⟨next, steps, onwards⟩
      rw [List.cons_append, advance_cons_of_stepsTo steps fun creates => creatable creates rest]
      exact ih onwards

/-- A path that ends by a proper name has no slash at its end. -/
theorem append_ne_of_proper (proper : IsProperName name) (front : List String) :
    front ++ [name] ≠ [""] := by
  intro same
  have singleton := congrArg List.getLast? same
  simp only [List.getLast?_concat, List.getLast?_singleton, Option.some.injEq] at singleton
  exact proper.1 singleton

/-- A followed way that ends at a directory begins at one. -/
theorem directory_of_reached
    (reached : tree.advance .followed here names = .reached (.occupied there))
    (directory : tree.isDirectoryAt there = true) : tree.isDirectoryAt here = true := by
  cases names with
  | nil =>
      cases reached
      exact directory
  | cons name rest =>
      rcases advance_cons_of_reached reached with ⟨next, steps, -⟩
      exact steps.1

/-- A way to a directory stays as long as no directory is taken away. -/
theorem advance_of_keeps (keeps : tree.KeepsDirectories after)
    (reached : tree.advance .followed here names = .reached (.occupied there))
    (directory : tree.isDirectoryAt there = true) :
    after.advance .followed here names = .reached (.occupied there) := by
  induction names generalizing here with
  | nil => exact reached
  | cons name rest ih =>
      rcases advance_cons_of_reached reached with ⟨next, steps, onwards⟩
      have stepsAfter : after.StepsTo here name next := by
        have nextThere := keeps next (directory_of_reached onwards directory)
        rw [isDirectoryAt_iff] at nextThere
        refine ⟨keeps here steps.1, ?_⟩
        rcases steps.2 with same | up | ⟨proper, short, below, -, -⟩
        · exact Or.inl same
        · exact Or.inr (Or.inl up)
        · refine Or.inr (Or.inr ⟨proper, short, below, ?_, ?_⟩)
          · rw [nextThere]
            rfl
          · rw [nextThere]
            simp
      rw [advance_cons_of_stepsTo stepsAfter (by simp)]
      exact ih onwards

/-- A path name leads to the same location as long as no directory is taken away. -/
theorem LeadsTo.of_keeps {path : PathName} {location : Location}
    (leads : tree.LeadsTo path location)
    (same : after.workingDirectory = tree.workingDirectory)
    (keeps : tree.KeepsDirectories after) : after.LeadsTo path location := by
  refine ⟨?_, keeps _ leads.directory⟩
  rw [start_eq same]
  exact advance_of_keeps keeps leads.reached leads.directory

/-- A proper name behind a directory ends a way there, unless a link stands at it. -/
theorem advance_proper (proper : IsProperName name) (directory : tree.isDirectoryAt here = true)
    (noLink : ∀ target, tree.get? (here ++ [name]) ≠ some (.link target)) :
    tree.advance last here [name] =
      if 255 < name.utf8ByteSize then .stopped .nameTooLong
      else if (tree.get? (here ++ [name])).isSome then .reached (.occupied (here ++ [name]))
      else .reached (.free (here ++ [name])) := by
  rcases proper with ⟨notEmpty, notDot, notDots⟩
  cases found : tree.get? (here ++ [name]) with
  | none => simp [advance, directory, notEmpty, notDot, notDots, found]
  | some entry =>
      cases entry with
      | link target => exact absurd found (noLink target)
      | _ => simp [advance, directory, notEmpty, notDot, notDots, found]

/-- A look-up whose way meets no link finds where the way ends. -/
theorem reached_of_locate {path : PathName} {spot : Spot} {ended : Progress}
    (way : tree.advance last (tree.start path.anchor).location path.names = ended)
    (noLink : ∀ directory target rest, ended ≠ .atLink directory target rest)
    (located : tree.locate last path = .ok spot) : ended = .reached spot := by
  simp only [locate] at located
  split at located
  · cases located
  · simp only [walkFrom, start] at way located
    simp only [walk, way] at located
    cases ended with
    | reached other =>
        cases located
        rfl
    | atLink directory target rest => exact absurd rfl (noLink directory target rest)
    | stopped reason => cases located

end Ways

section Requests

variable {tree : FileTree} {directory : PathName} {location place : Location} {name : String}

/-- What is placed where no directory stands leaves every directory where it is. -/
theorem LeadsTo.put (leads : tree.LeadsTo directory location)
    (noDirectory : tree.isDirectoryAt place = false) (entry : Entry) :
    (tree.put place entry).LeadsTo directory location :=
  leads.of_keeps rfl (KeepsDirectories.put noDirectory entry)

/-- A path that leads to a directory is ensured without a change. -/
theorem makeDirectory_of_leadsTo (leads : tree.LeadsTo directory location) :
    ∃ reached, tree.makeDirectory (tree.start directory.anchor) directory.names =
      .ok (reached, tree) := by
  have kept : tree.advance .kept (tree.start directory.anchor).location (directory.names ++ []) =
      .reached (.occupied location) := advance_append leads.reached (by simp)
  have followed := leads.reached
  rw [List.append_nil] at kept
  simp only [start] at kept followed
  simp only [makeDirectory, directoryFrom?, walkFrom, start, walk, kept, followed,
    leads.directory, if_true]
  exact ⟨_, rfl⟩

/-- A request to make a directory that stands changes nothing. -/
theorem ensureDirectory_of_leadsTo (leads : tree.LeadsTo directory location) :
    (ensureDirectory directory tree).2 = tree := by
  rcases makeDirectory_of_leadsTo leads with ⟨reached, made⟩
  have found : ensureNames directory.anchor nestingLimit directory.names.reverse tree =
      (.ok reached, tree) := by
    rw [nestingLimit, ensureNames]
    simp only [List.reverse_reverse, made]
  simp only [ensureDirectory, found]
  split <;> rfl

/-- A file in a directory that stands is looked up right below it. -/
theorem locate_child_of_leadsTo (leads : tree.LeadsTo directory location)
    (proper : IsProperName name)
    (noLink : ∀ target, tree.get? (location ++ [name]) ≠ some (.link target))
    {last : LastName} {spot : Spot} (located : tree.locate last (directory.child name) = .ok spot) :
    (spot = .occupied (location ++ [name]) ∧ (tree.get? (location ++ [name])).isSome = true) ∨
      (spot = .free (location ++ [name]) ∧ tree.get? (location ++ [name]) = none) := by
  have way : tree.advance last (tree.start directory.anchor).location
      (directory.names ++ [name]) = tree.advance last location [name] :=
    advance_append leads.reached fun _ front => append_ne_of_proper proper front
  rw [advance_proper proper leads.directory noLink] at way
  have noLinkMet : ∀ above target rest,
      (if 255 < name.utf8ByteSize then Progress.stopped .nameTooLong
        else if (tree.get? (location ++ [name])).isSome then
          .reached (.occupied (location ++ [name]))
        else .reached (.free (location ++ [name]))) ≠ .atLink above target rest := by
    intro above target rest
    split
    · simp
    · split <;> simp
  have ended := reached_of_locate way noLinkMet located
  split at ended
  · cases ended
  · split at ended
    · rename_i stands
      cases ended
      exact Or.inl ⟨rfl, stands⟩
    · rename_i nothing
      cases ended
      exact Or.inr ⟨rfl, by simpa using nothing⟩

/-- What a child path shows, where its directory is led to, stands right below that directory. -/
theorem entryAt?_child_of_leadsTo (leads : tree.LeadsTo directory location)
    (proper : IsProperName name)
    (noLink : ∀ target, tree.get? (location ++ [name]) ≠ some (.link target)) {entry : Entry}
    (found : tree.entryAt? (directory.child name) = some entry) :
    tree.get? (location ++ [name]) = some entry := by
  simp only [entryAt?] at found
  split at found
  · rename_i spot located
    rcases locate_child_of_leadsTo leads proper noLink located with ⟨place, -⟩ | ⟨impossible, -⟩
    · cases place
      exact found
    · cases impossible
  · cases found

/-- A file in a directory that stands is opened right below it, and is created if it is missing. -/
theorem openForAppend_child_of_leadsTo (leads : tree.LeadsTo directory location)
    (proper : IsProperName name)
    (noLink : ∀ target, tree.get? (location ++ [name]) ≠ some (.link target))
    {opened : FileTree} (opens : tree.openForAppend (directory.child name) = .ok (place, opened)) :
    place = location ++ [name] ∧
      ((opened = tree ∧ (tree.get? place).isSome = true) ∨
        (opened = tree.put place (.file "") ∧ tree.get? place = none)) := by
  rcases openForAppend_cases opens with ⟨located, made⟩ | ⟨located, same, -⟩
  · rcases locate_child_of_leadsTo leads proper noLink located with
      ⟨impossible, -⟩ | ⟨there, unused⟩
    · cases impossible
    · cases there
      exact ⟨rfl, Or.inr ⟨made, unused⟩⟩
  · rcases locate_child_of_leadsTo leads proper noLink located with
      ⟨there, stands⟩ | ⟨impossible, -⟩
    · cases there
      exact ⟨rfl, Or.inl ⟨same, stands⟩⟩
    · cases impossible

end Requests

end BuildSteps.FileTree
