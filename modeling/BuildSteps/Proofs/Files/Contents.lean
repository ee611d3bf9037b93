import BuildSteps.Files.Operations

/-!
# What is read where a file was written

A file that is opened to write at its end may be reached by way of links. This file shows that its
path then leads to what was written: what stood there has the text at its end, and if nothing was
there, a file with the text is.

Only files are written, so the directories and the links are as they were, and a walk finds its way
as before (`advance_of_grows`). Where it ended at a free place, it may find a file now.
-/

namespace BuildSteps

/-- What stands at a place after a line is written at its end. -/
def Entry.extended (line : String) : Entry → Entry
  | .file content => .file (content ++ line)
  | other => other

/-- The location of a spot. -/
def Spot.place : Spot → Location
  | .occupied location => location
  | .free location => location

/-- The spot where a walk ends in a tree in which a free place may have been taken. -/
def Spot.seenIn (tree : FileTree) : Spot → Spot
  | .occupied location => .occupied location
  | .free location =>
    if (tree.get? location).isSome then .occupied location else .free location

/-- The progress of a walk in a tree in which a free place may have been taken. -/
def Progress.seenIn (tree : FileTree) : Progress → Progress
  | .reached spot => .reached (spot.seenIn tree)
  | other => other

namespace FileTree

/-- A tree grows to another by files that are written: where nothing stood or a file, a file may
stand now, and everything else is as it was. -/
structure GrowsTo (tree after : FileTree) : Prop where
  places : ∀ location, after.get? location = tree.get? location ∨
    ((tree.get? location = none ∨ ∃ former, tree.get? location = some (.file former)) ∧
      ∃ content, after.get? location = some (.file content))
  workingDirectory : after.workingDirectory = tree.workingDirectory

section Growth

variable {tree after : FileTree} {here place : Location} {names : List String}

theorem GrowsTo.refl (tree : FileTree) : tree.GrowsTo tree :=
  ⟨fun _ => Or.inl rfl, rfl⟩

/-- A file is written where there was one, or nothing. -/
theorem GrowsTo.put
    (room : tree.get? place = none ∨ ∃ former, tree.get? place = some (.file former))
    (content : String) : tree.GrowsTo (tree.put place (.file content)) := by
  refine ⟨?_, rfl⟩
  intro location
  rw [get?_put]
  split
  · rename_i there
    rw [there.2]
    exact Or.inr ⟨room, content, rfl⟩
  · exact Or.inl rfl

/-- A text is written at the end of a file, or nothing happens. -/
theorem GrowsTo.appendAt (tree : FileTree) (place : Location) (text : String) :
    tree.GrowsTo (tree.appendAt place text) := by
  unfold FileTree.appendAt
  split
  · rename_i content stands
    exact GrowsTo.put (Or.inr ⟨content, stands⟩) _
  · exact GrowsTo.refl tree

/-- Growth of one entry after growth of the same or another is growth. -/
theorem GrowsTo.trans {next : FileTree} (first : tree.GrowsTo after) (second : after.GrowsTo next) :
    tree.GrowsTo next := by
  refine ⟨?_, second.workingDirectory.trans first.workingDirectory⟩
  intro location
  rcases second.places location with same | ⟨room, written⟩
  · rw [same]
    exact first.places location
  · rcases first.places location with same | ⟨roomBefore, -⟩
    · rw [same] at room
      exact Or.inr ⟨room, written⟩
    · exact Or.inr ⟨roomBefore, written⟩

/-- No directory appears or disappears where files are written. -/
theorem GrowsTo.isDirectoryAt_eq (grows : tree.GrowsTo after) (location : Location) :
    after.isDirectoryAt location = tree.isDirectoryAt location := by
  simp only [isDirectoryAt]
  rcases grows.places location with same | ⟨nothing | ⟨former, file⟩, content, written⟩
  · rw [same]
  · rw [nothing, written]
  · rw [file, written]

/-- A walk for reading takes a name from a directory: it ends at a place with nothing if that is the
last name, stops at a link, and goes on from everything else. -/
theorem advance_followed_cons {name : String} (directory : ¬ tree.isDirectoryAt here = false)
    (notSkipped : ¬(name = "" ∨ name = ".")) (notDots : ¬ name = "..")
    (short : ¬ 255 < name.utf8ByteSize) (rest : List String) :
    (tree.get? (here ++ [name]) = none →
        tree.advance .followed here [name] = .reached (.free (here ++ [name]))) ∧
      (∀ target, tree.get? (here ++ [name]) = some (.link target) →
        tree.advance .followed here (name :: rest) = .atLink here target rest) ∧
      ∀ entry, tree.get? (here ++ [name]) = some entry → (∀ target, entry ≠ .link target) →
        tree.advance .followed here (name :: rest) =
          tree.advance .followed (here ++ [name]) rest := by
  simp only [advance, if_neg directory, if_neg notSkipped, if_neg notDots, if_neg short,
    reduceCtorEq, false_and, and_false, if_false]
  refine ⟨?_, ?_, ?_⟩
  · intro nothing
    simp only [nothing, if_true]
  · intro target link
    simp only [link]
  · intro entry stands noLink
    cases entry with
    | link target => exact absurd rfl (noLink target)
    | _ => simp only [stands]

/-- A walk for writing that does not stop is repeated by one for reading, once files are written. -/
theorem advance_of_grows (grows : tree.GrowsTo after)
    (goes : ∀ reason, tree.advance .created here names ≠ .stopped reason) :
    after.advance .followed here names = (tree.advance .created here names).seenIn after := by
  fun_induction tree.advance .created here names with
  | case1 => rfl
  | case2 | case5 | case6 | case8 => exact absurd rfl (goes _)
  | case3 here name rest directory skipped ih =>
      rw [← grows.isDirectoryAt_eq] at directory
      rw [advance, if_neg directory, if_pos skipped]
      exact ih goes
  | case4 here rest directory notSkipped ih =>
      rw [← grows.isDirectoryAt_eq] at directory
      rw [advance, if_neg directory, if_neg notSkipped, if_pos rfl]
      exact ih goes
  | case7 here name directory notSkipped notDots short nothing =>
      rw [← grows.isDirectoryAt_eq] at directory
      rcases advance_followed_cons directory notSkipped notDots short [] with ⟨ends, -, onwards⟩
      rcases grows.places (here ++ [name]) with same | ⟨-, content, written⟩
      · rw [nothing] at same
        rw [ends same]
        simp [Progress.seenIn, Spot.seenIn, same]
      · rw [onwards _ written (by simp)]
        simp [Progress.seenIn, Spot.seenIn, written, advance]
  | case9 here name rest directory notSkipped notDots noSlash short target link impossible =>
      cases impossible.2
  | case10 here name rest directory notSkipped notDots noSlash short target link followed =>
      rw [← grows.isDirectoryAt_eq] at directory
      rcases advance_followed_cons directory notSkipped notDots short rest with ⟨-, stops, -⟩
      rcases grows.places (here ++ [name]) with same | ⟨nothing | ⟨former, file⟩, -⟩
      · rw [link] at same
        exact stops target same
      · rw [link] at nothing
        cases nothing
      · rw [link] at file
        cases file
  | case11 here name rest directory notSkipped notDots noSlash short entry noLink stands ih =>
      rw [← grows.isDirectoryAt_eq] at directory
      rcases advance_followed_cons directory notSkipped notDots short rest with ⟨-, -, onwards⟩
      rcases grows.places (here ++ [name]) with same | ⟨-, content, written⟩
      · rw [stands] at same
        rw [onwards entry same fun target isLink => noLink target isLink]
        exact ih goes
      · rw [onwards _ written (by simp)]
        exact ih goes

/-- A walk that ended before the growth ends at the same spot after it, also when its last name is
now followed. -/
theorem walk_of_grows (grows : tree.GrowsTo after) {budget left : Nat} {spot : Spot}
    (walked : tree.walk .created budget here names = .ok (spot, left)) :
    after.walk .followed budget here names = .ok (spot.seenIn after, left) := by
  induction budget generalizing here names with
  | zero => cases walked
  | succ budget ih =>
      simp only [walk] at walked ⊢
      split at walked
      · rename_i reached ended
        cases walked
        rw [advance_of_grows grows (by simp [ended]), ended]
        rfl
      · rename_i directory target rest met
        rw [advance_of_grows grows (by simp [met]), met]
        exact ih walked
      · cases walked

/-- A path that was found for writing is found at the same place for reading. -/
theorem locate_of_grows (grows : tree.GrowsTo after) {path : PathName} {spot : Spot}
    (located : tree.locate .created path = .ok spot) :
    after.locate .followed path = .ok (spot.seenIn after) := by
  simp only [locate] at located ⊢
  cases refused : refusal? path with
  | some error =>
      rw [refused] at located
      cases located
  | none =>
      simp only [refused, walkFrom, start, grows.workingDirectory] at located ⊢
      split at located
      · rename_i found left walked
        cases located
        rw [walk_of_grows grows walked]
      · cases located

/-- A walk that ends at a free place has found nothing there. -/
theorem get?_of_advance_free {last : LastName}
    (free : tree.advance last here names = .reached (.free place)) : tree.get? place = none := by
  fun_induction tree.advance last here names with
  | case1 => cases free
  | case2 | case5 | case6 | case8 | case9 | case10 => cases free
  | case3 here name rest directory skipped ih => exact ih free
  | case4 here rest directory notSkipped ih => exact ih free
  | case7 here name directory notSkipped notDots short nothing =>
      cases free
      exact nothing
  | case11 here name rest directory notSkipped notDots noSlash short entry noLink stands ih =>
      exact ih free

/-- A walk that ends at a free place ends where nothing stands. -/
theorem get?_of_walk_free {last : LastName} {budget left : Nat}
    (walked : tree.walk last budget here names = .ok (.free place, left)) :
    tree.get? place = none := by
  induction budget generalizing here names with
  | zero => cases walked
  | succ budget ih =>
      simp only [walk] at walked
      split at walked
      · rename_i reached ended
        cases walked
        exact get?_of_advance_free ended
      · exact ih walked
      · cases walked

/-- A path that leads to a free place names a place where nothing stands. -/
theorem get?_of_locate_free {last : LastName} {path : PathName}
    (located : tree.locate last path = .ok (.free place)) : tree.get? place = none := by
  simp only [locate, walkFrom] at located
  split at located
  · cases located
  · split at located
    · rename_i found left walked
      cases located
      exact get?_of_walk_free walked
    · cases located

end Growth

section Writing

variable {tree opened after : FileTree} {path : PathName} {location : Location}

/-- What stands where a path was found for writing is read there. -/
theorem entryAt?_of_located (grows : tree.GrowsTo after) {spot : Spot}
    (located : tree.locate .created path = .ok spot) :
    after.entryAt? path = after.get? spot.place := by
  rw [entryAt?, locate_of_grows grows located]
  cases spot with
  | occupied place => rfl
  | free place =>
      simp only [Spot.seenIn, Spot.place]
      cases found : after.get? place with
      | none => rfl
      | some entry => exact found

/-- An opened path has shown what stood at the place that it was opened at. -/
theorem entryAt?_of_opens (opens : tree.openForAppend path = .ok (location, opened)) :
    tree.entryAt? path = tree.get? location := by
  rcases openForAppend_cases opens with ⟨located, -⟩ | ⟨located, -⟩
  · exact entryAt?_of_located (GrowsTo.refl tree) located
  · exact entryAt?_of_located (GrowsTo.refl tree) located

/-- The place written to holds its former entry extended by the text. -/
theorem get?_appendAt {entry : Entry} (stands : tree.get? location = some entry) (text : String) :
    (tree.appendAt location text).get? location = some (entry.extended text) := by
  cases entry with
  | file content =>
      have notRoot : location ≠ [] := by
        rintro rfl
        cases stands
      simp only [appendAt, stands]
      rw [get?_put, if_pos ⟨notRoot, rfl⟩]
      rfl
  | _ =>
      simp only [appendAt, stands]
      rfl

/-- What is written at the end of an opened path is read there, behind what was read before. If
nothing was, it is all there is. -/
theorem entryAt?_appendAt (opens : tree.openForAppend path = .ok (location, opened))
    (text : String) :
    (opened.appendAt location text).entryAt? path =
      some (((tree.entryAt? path).getD (.file "")).extended text) := by
  have written := GrowsTo.appendAt opened location text
  rw [entryAt?_of_opens opens]
  rcases openForAppend_cases opens with ⟨located, made⟩ | ⟨located, rfl, stands⟩
  · have nothing := get?_of_locate_free located
    have notRoot : location ≠ [] := by
      rintro rfl
      cases nothing
    have fresh : opened.get? location = some (.file "") := by
      rw [made, get?_put, if_pos ⟨notRoot, rfl⟩]
    have placed : tree.GrowsTo opened := by
      rw [made]
      exact GrowsTo.put (Or.inl nothing) ""
    rw [entryAt?_of_located (placed.trans written) located, Spot.place, get?_appendAt fresh, nothing]
    rfl
  · have there : ∃ entry, opened.get? location = some entry := by
      rcases stands with ⟨content, file⟩ | device
      · exact ⟨_, file⟩
      · exact ⟨_, device⟩
    rcases there with ⟨entry, found⟩
    rw [entryAt?_of_located written located, Spot.place, get?_appendAt found, found]
    rfl

end Writing

end FileTree

end BuildSteps
