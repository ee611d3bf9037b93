import BuildSteps.Proofs.Files.Directories
import BuildSteps.Proofs.Files.Standing

/-!
# Ways in a link-free tree

A look-up that ends in a link-free tree has come by a way of directories, so the directory in front
of its last name stands. Conversely, where a directory stands, the look-up of a file in it ends at
that file, unless its path is refused from the start. So every request on a file in a directory that
stands is answered by what stands at the place of that file, and by nothing else in the tree.
-/

namespace BuildSteps.FileTree

section Ends

variable {tree after : FileTree} {last : LastName} {here location : Location} {spot : Spot}
  {names more rest : List String} {name : String} {directory : PathName}

/-- In a link-free tree each name of a walk that ends leads on, or it is the last one and nothing
stands there. -/
theorem advance_cons_of_ended (linkFree : tree.LinkFree)
    (ended : tree.advance last here (name :: rest) = .reached spot) :
    (∃ next, tree.StepsTo here name next ∧ tree.advance last next rest = .reached spot) ∨
      (rest = [] ∧ IsProperName name ∧ name.utf8ByteSize ≤ 255 ∧
        tree.isDirectoryAt here = true ∧ spot = .free (here ++ [name])) := by
  simp only [advance] at ended
  split at ended
  · cases ended
  · rename_i directory
    rw [Bool.not_eq_false] at directory
    split at ended
    · rename_i skipped
      exact Or.inl ⟨here, ⟨directory, Or.inl ⟨skipped, rfl⟩⟩, ended⟩
    · rename_i notSkipped
      rw [not_or] at notSkipped
      split at ended
      · rename_i dots
        exact Or.inl ⟨here.dropLast, ⟨directory, Or.inr (Or.inl ⟨dots, rfl⟩)⟩, ended⟩
      · rename_i notDots
        have proper : IsProperName name := ⟨notSkipped.1, notSkipped.2, notDots⟩
        split at ended
        · cases ended
        · split at ended
          · cases ended
          · rename_i short
            have fits : name.utf8ByteSize ≤ 255 := Nat.not_lt.mp short
            cases found : tree.get? (here ++ [name]) with
            | none =>
                simp only [found] at ended
                split at ended
                · rename_i done
                  cases ended
                  exact Or.inr ⟨done, proper, fits, directory, rfl⟩
                · cases ended
            | some entry =>
                have steps : tree.StepsTo here name (here ++ [name]) := by
                  refine ⟨directory, Or.inr (Or.inr ⟨proper, fits, rfl, ?_, linkFree _⟩)⟩
                  rw [found]
                  rfl
                refine Or.inl ⟨here ++ [name], steps, ?_⟩
                cases entry with
                | link target => exact absurd found (linkFree _ target)
                | _ => simpa only [found] using ended

/-- A walk that ends has reached something by every beginning of its names. -/
theorem advance_append_of_ended (linkFree : tree.LinkFree) (unfinished : more ≠ [])
    (ended : tree.advance last here (names ++ more) = .reached spot) :
    ∃ there, tree.advance .followed here names = .reached (.occupied there) ∧
      tree.advance last there more = .reached spot := by
  induction names generalizing here with
  | nil => exact ⟨here, rfl, ended⟩
  | cons name rest ih =>
      rw [List.cons_append] at ended
      rcases advance_cons_of_ended linkFree ended with
        ⟨next, steps, onwards⟩ | ⟨nothing, -, -, -, -⟩
      · rw [advance_cons_of_stepsTo steps (by simp)]
        exact ih onwards
      · exact absurd (List.append_eq_nil_iff.mp nothing).2 unfinished

/-- Without links, an advance that ends at an occupied spot ends where its names resolve to. -/
theorem resolve_of_reached (linkFree : tree.LinkFree)
    (reached : tree.advance last here names = .reached (.occupied location)) :
    location = resolve here names := by
  rcases advance_cases linkFree last here names with occupied | ⟨free, -⟩ | ⟨reason, stopped⟩
  · rw [occupied] at reached
    cases reached
    rfl
  · rw [free] at reached
    cases reached
  · rw [stopped] at reached
    cases reached

/-- Every beginning of the names of a directory that stands leads to a directory. -/
theorem LeadsTo.directory_of_front (linkFree : tree.LinkFree)
    (leads : tree.LeadsTo directory location) {front : List String}
    (beginning : front <+: directory.names) :
    tree.isDirectoryAt (resolve (tree.start directory.anchor).location front) = true := by
  rcases beginning with ⟨back, whole⟩
  have reached := leads.reached
  rw [← whole] at reached
  by_cases done : back = []
  · rw [done, List.append_nil] at reached
    rw [← resolve_of_reached linkFree reached]
    exact leads.directory
  · rcases advance_append_of_ended linkFree done reached with ⟨there, early, late⟩
    rw [← resolve_of_reached linkFree early]
    exact directory_of_reached late leads.directory

end Ends

/-! ### Requests on a path that is refused -/

section Refused

variable {path : PathName} {refusal : FileError}

theorem locate_of_refused (refused : refusal? path = some refusal) (tree : FileTree)
    (last : LastName) :
    tree.locate last path = .error refusal := by
  rw [locate, refused]

/-- A path that is refused is nowhere found to have an entry. -/
theorem hasEntry_of_refused (refused : refusal? path = some refusal) (tree : FileTree) :
    (∃ error, tree.hasEntry path = .error error) ∨ tree.hasEntry path = .ok false := by
  rw [hasEntry, locate_of_refused refused]
  split
  · rename_i impossible
    cases impossible
  · rename_i impossible
    cases impossible
  · exact Or.inl ⟨_, rfl⟩
  · exact Or.inr rfl

end Refused

/-! ### Requests on a file in a directory that stands -/

/-- A file is in reach if the directory stands that it is looked up in, and neither its name nor its
path is refused. -/
structure InReach (tree : FileTree) (directory : PathName) (location : Location)
    (name : String) : Prop where
  linkFree : tree.LinkFree
  leads : tree.LeadsTo directory location
  proper : IsProperName name
  short : name.utf8ByteSize ≤ 255
  accepted : refusal? (directory.child name) = none

section Requests

variable {tree after : FileTree} {directory : PathName} {location : Location}
  {name target : String} {entry : Entry}

/-- Where the look-up of a file ends, the file is in reach. -/
theorem inReach_of_locate (linkFree : tree.LinkFree) (proper : IsProperName name)
    {last : LastName} {spot : Spot}
    (located : tree.locate last (directory.child name) = .ok spot) :
    tree.InReach directory (tree.locationOf directory) name := by
  have accepted : refusal? (directory.child name) = none := by
    simp only [locate] at located
    split at located
    · cases located
    · assumption
  have ended := locate_eq_ok linkFree located
  simp only [PathName.child] at ended
  rcases advance_append_of_ended linkFree (List.cons_ne_nil _ _) ended with
    ⟨there, reached, onwards⟩
  obtain rfl := resolve_of_reached linkFree reached
  rcases advance_cons_of_ended linkFree onwards with
    ⟨next, ⟨stands, skipped | ⟨dots, -⟩ | ⟨-, short, -⟩⟩, -⟩ | ⟨-, -, short, stands, -⟩
  · exact absurd skipped.1 (not_or.mpr ⟨proper.1, proper.2.1⟩)
  · exact absurd dots proper.2.2
  · exact ⟨linkFree, ⟨reached, stands⟩, proper, short, accepted⟩
  · exact ⟨linkFree, ⟨reached, stands⟩, proper, short, accepted⟩

theorem inReach_of_open (linkFree : tree.LinkFree) (proper : IsProperName name)
    {place : Location} {opened : FileTree}
    (opens : tree.openForAppend (directory.child name) = .ok (place, opened)) :
    tree.InReach directory (tree.locationOf directory) name := by
  rcases openForAppend_cases opens with ⟨located, -⟩ | ⟨located, -⟩
  · exact inReach_of_locate linkFree proper located
  · exact inReach_of_locate linkFree proper located

namespace InReach

theorem of_keeps (inReach : tree.InReach directory location name) (linkFree : after.LinkFree)
    (same : after.workingDirectory = tree.workingDirectory) (keeps : tree.KeepsDirectories after) :
    after.InReach directory location name :=
  ⟨linkFree, inReach.leads.of_keeps same keeps, inReach.proper, inReach.short, inReach.accepted⟩

/-- A file in reach is looked up right below the directory. -/
theorem locate_eq (inReach : tree.InReach directory location name) (last : LastName) :
    tree.locate last (directory.child name) =
      .ok (if (tree.get? (location ++ [name])).isSome then .occupied (location ++ [name])
        else .free (location ++ [name])) := by
  have way : tree.advance last (tree.start directory.anchor).location (directory.names ++ [name]) =
      tree.advance last location [name] :=
    advance_append inReach.leads.reached fun _ front => append_ne_of_proper inReach.proper front
  rw [advance_proper inReach.proper inReach.leads.directory (inReach.linkFree _),
    if_neg (Nat.not_lt.mpr inReach.short)] at way
  simp only [start] at way
  rw [locate, inReach.accepted]
  simp only [PathName.child, walkFrom, start, walk, way]
  cases (tree.get? (location ++ [name])).isSome <;> rfl

theorem locate_of_some (inReach : tree.InReach directory location name)
    (stands : tree.get? (location ++ [name]) = some entry) (last : LastName) :
    tree.locate last (directory.child name) = .ok (.occupied (location ++ [name])) := by
  rw [inReach.locate_eq, stands]
  rfl

theorem locate_of_none (inReach : tree.InReach directory location name)
    (nothing : tree.get? (location ++ [name]) = none) (last : LastName) :
    tree.locate last (directory.child name) = .ok (.free (location ++ [name])) := by
  rw [inReach.locate_eq, nothing]
  rfl

theorem hasEntry_eq (inReach : tree.InReach directory location name) :
    tree.hasEntry (directory.child name) = .ok (tree.get? (location ++ [name])).isSome := by
  cases found : tree.get? (location ++ [name]) with
  | none => simp only [hasEntry, inReach.locate_of_none found, Option.isSome_none]
  | some entry => simp only [hasEntry, inReach.locate_of_some found, Option.isSome_some]

theorem unlink_eq (inReach : tree.InReach directory location name)
    (stands : tree.get? (location ++ [name]) = some entry) :
    tree.unlink (directory.child name) =
      if entry = .directory then .error (.refused .isDirectory (directory.child name))
      else .ok (tree.remove (location ++ [name])) := by
  simp only [unlink, inReach.locate_of_some stands, isDirectoryAt_iff, stands, Option.some.injEq]

/-- A file in reach is renamed, unless its new name is that of a directory. -/
theorem exists_rename (inReach : tree.InReach directory location name)
    (targetInReach : tree.InReach directory location target)
    (stands : tree.get? (location ++ [name]) = some entry) (noDirectory : entry ≠ .directory)
    (room : tree.get? (location ++ [target]) ≠ some .directory) :
    ∃ renamed, tree.rename (directory.child name) (directory.child target) = .ok renamed ∧
      tree.KeepsDirectories renamed := by
  have replaced : tree.replaceAt (directory.child name) (directory.child target)
      (location ++ [name]) (location ++ [target]) =
      .ok ((tree.remove (location ++ [name])).put (location ++ [target]) entry) := by
    simp only [replaceAt, stands, isDirectoryAt_eq_false_iff.mpr room]
    cases entry with
    | directory => exact absurd rfl noDirectory
    | _ => rfl
  have former : tree.isDirectoryAt (location ++ [name]) = false := by
    rw [isDirectoryAt_eq_false_iff, stands]
    simpa using noDirectory
  have goal : (tree.remove (location ++ [name])).isDirectoryAt (location ++ [target]) = false := by
    rw [isDirectoryAt_eq_false_iff, get?_remove]
    split
    · simp
    · exact room
  refine ⟨_, ?_, (KeepsDirectories.remove former).trans (KeepsDirectories.put goal entry)⟩
  simp only [rename, inReach.locate_of_some stands]
  cases occupied : tree.get? (location ++ [target]) with
  | none => simp only [targetInReach.locate_of_none occupied, replaced]
  | some other => simp only [targetInReach.locate_of_some occupied, replaced]

/-- A file in reach whose place is no directory opens, and opens at that place. -/
theorem openForAppend_eq (inReach : tree.InReach directory location name)
    (room : tree.get? (location ++ [name]) ≠ some .directory) :
    ∃ opened, tree.openForAppend (directory.child name) = .ok (location ++ [name], opened) := by
  cases found : tree.get? (location ++ [name]) with
  | none => exact ⟨_, by simp only [openForAppend, inReach.locate_of_none found]; rfl⟩
  | some entry =>
      refine ⟨tree, ?_⟩
      simp only [openForAppend, inReach.locate_of_some found, found]
      cases entry with
      | directory => exact absurd found room
      | file content => rfl
      | link target => exact absurd found (inReach.linkFree _ target)
      | device => rfl

theorem openForAppend_of_directory (inReach : tree.InReach directory location name)
    (stands : tree.get? (location ++ [name]) = some .directory) :
    tree.openForAppend (directory.child name) =
      .error (.refused .isDirectory (directory.child name)) := by
  simp only [openForAppend, inReach.locate_of_some stands, stands]

end InReach

end Requests

end BuildSteps.FileTree
