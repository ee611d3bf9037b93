import BuildSteps.Proofs.Files.LinkFree

/-!
# Making directories in a link-free tree

Making a directory, together with the directories that it lies in, may come to an end at any of its
steps. This file shows that in a link-free tree all it can have done until then is to place
directories where nothing stood, on the way that the path name takes. Every other location keeps its
entry, and the tree stays link-free.
-/

namespace BuildSteps.FileTree

/-- A location is on the way of names if a beginning of the names leads to it by a proper last
name. -/
def IsOnWay (here : Location) (names : List String) (location : Location) : Prop :=
  ∃ above name, above ++ [name] <+: names ∧ IsProperName name ∧
    location = resolve here above ++ [name]

/-- A tree results from another by placing directories on the way of names, where nothing stood. -/
structure DirectoriesMade (tree : FileTree) (here : Location) (names : List String)
    (made : FileTree) : Prop where
  workingDirectory : made.workingDirectory = tree.workingDirectory
  entries : ∀ location, made.get? location = tree.get? location ∨
    (tree.get? location = none ∧ made.get? location = some .directory ∧
      IsOnWay here names location)

theorem IsOnWay.append_right {here location : Location} {names : List String}
    (onWay : IsOnWay here names location) (more : List String) :
    IsOnWay here (names ++ more) location := by
  rcases onWay with ⟨above, name, beginning, proper, place⟩
  exact ⟨above, name, beginning.trans (List.prefix_append _ _), proper, place⟩

/-- A place on the way of the last names is on the way of all of them. -/
theorem IsOnWay.append_left {here location : Location} {names : List String}
    (front : List String) (onWay : IsOnWay (resolve here front) names location) :
    IsOnWay here (front ++ names) location := by
  rcases onWay with ⟨above, name, beginning, proper, place⟩
  refine ⟨front ++ above, name, ?_, proper, ?_⟩
  · rw [List.append_assoc]
    exact (List.prefix_append_right_inj front).mpr beginning
  · rw [resolve_append, place]

namespace DirectoriesMade

variable {tree made later : FileTree} {here : Location} {names : List String}

theorem refl (tree : FileTree) (here : Location) (names : List String) :
    tree.DirectoriesMade here names tree :=
  ⟨rfl, fun _ => Or.inl rfl⟩

theorem mono {wider : Location} {widerNames : List String}
    (first : tree.DirectoriesMade here names made)
    (onWay : ∀ location, IsOnWay here names location → IsOnWay wider widerNames location) :
    tree.DirectoriesMade wider widerNames made := by
  refine ⟨first.workingDirectory, ?_⟩
  intro location
  rcases first.entries location with same | ⟨unused, directory, way⟩
  · exact Or.inl same
  · exact Or.inr ⟨unused, directory, onWay location way⟩

/-- Directories made in two rounds on one way are directories made on it. -/
theorem trans (first : tree.DirectoriesMade here names made)
    (second : made.DirectoriesMade here names later) : tree.DirectoriesMade here names later := by
  refine ⟨second.workingDirectory.trans first.workingDirectory, ?_⟩
  intro location
  rcases second.entries location with same | ⟨unused, directory, way⟩
  · rw [same]
    exact first.entries location
  · rcases first.entries location with kept | ⟨-, placed, -⟩
    · rw [kept] at unused
      exact Or.inr ⟨unused, directory, way⟩
    · rw [placed] at unused
      cases unused

/-- Making directories puts no link into the tree. -/
theorem linkFree (first : tree.DirectoriesMade here names made) (linkFree : tree.LinkFree) :
    made.LinkFree := by
  intro location target
  rcases first.entries location with same | ⟨-, directory, -⟩
  · rw [same]
    exact linkFree location target
  · rw [directory]
    simp

end DirectoriesMade

/-- Without links, names that are followed end at the location they resolve to. -/
theorem directoryFrom?_eq_some {tree : FileTree} (linkFree : tree.LinkFree)
    {standing reached : Standing} {names : List String}
    (found : tree.directoryFrom? standing names = some reached) :
    reached.location = resolve standing.location names := by
  simp only [directoryFrom?] at found
  split at found
  · rename_i location budget walked
    split at found
    · cases found
      have advanced := walk_eq_ok linkFree walked
      rcases advance_cases linkFree .followed standing.location names with
        occupied | ⟨free, -⟩ | ⟨reason, stopped⟩
      · rw [occupied] at advanced
        cases advanced
        rfl
      · rw [free] at advanced
        cases advanced
      · rw [stopped] at advanced
        cases advanced
    · cases found
  · cases found

/-- A request for one directory reaches the place that its names lead to, and places nothing but
that directory. -/
theorem makeDirectory_eq_ok {tree made : FileTree} (linkFree : tree.LinkFree)
    {standing reached : Standing} {names : List String}
    (makes : tree.makeDirectory standing names = .ok (reached, made)) :
    reached.location = resolve standing.location names ∧
      tree.DirectoriesMade standing.location names made := by
  simp only [makeDirectory] at makes
  split at makes
  · rename_i location budget walked
    cases makes
    have advanced := walk_eq_ok linkFree walked
    rcases advance_cases linkFree .kept standing.location names with
      occupied | ⟨free, unused, above, name, whole, proper, place⟩ | ⟨reason, stopped⟩
    · rw [occupied] at advanced
      cases advanced
    · rw [free] at advanced
      cases advanced
      refine ⟨rfl, rfl, ?_⟩
      intro other
      rw [get?_put]
      by_cases here : other = resolve standing.location names
      · subst here
        have notRoot : resolve standing.location names ≠ [] := by
          rw [place]
          simp
        rw [if_pos ⟨notRoot, rfl⟩]
        have beginning : above ++ [name] <+: names := ⟨[], by rw [List.append_nil, whole]⟩
        exact Or.inr ⟨unused, rfl, above, name, beginning, proper, place⟩
      · rw [if_neg fun both => here both.2]
        exact Or.inl rfl
    · rw [stopped] at advanced
      cases advanced
  · split at makes
    · rename_i found
      cases makes
      exact ⟨directoryFrom?_eq_some linkFree found, DirectoriesMade.refl _ _ _⟩
    · cases makes
  · cases makes

/-- However many attempts there are, and wherever they end, only directories on the way are placed.
If they reach the directory, it is at the place that the names lead to. -/
theorem ensureNames_made {tree : FileTree} (linkFree : tree.LinkFree) (anchor : Anchor)
    (attempts : Nat) (names : List String) :
    tree.DirectoriesMade (tree.start anchor).location names.reverse
        (ensureNames anchor attempts names tree).2 ∧
      ∀ reached, (ensureNames anchor attempts names tree).1 = .ok reached →
        reached.location = resolve (tree.start anchor).location names.reverse := by
  induction attempts generalizing names with
  | zero =>
      refine ⟨DirectoriesMade.refl _ _ _, ?_⟩
      intro reached impossible
      cases impossible
  | succ attempts ih =>
      simp only [ensureNames]
      split
      · rename_i reached made makes
        rcases makeDirectory_eq_ok linkFree makes with ⟨place, placed⟩
        refine ⟨placed, ?_⟩
        intro other same
        cases same
        exact place
      · rename_i name above missing
        rcases ih above with ⟨aboveMade, abovePlace⟩
        have onWay : ∀ location,
            IsOnWay (tree.start anchor).location above.reverse location →
              IsOnWay (tree.start anchor).location (name :: above).reverse location := by
          intro location way
          rw [List.reverse_cons]
          exact way.append_right [name]
        split
        · rename_i error partly ended
          rw [ended] at aboveMade
          refine ⟨aboveMade.mono onWay, ?_⟩
          intro reached impossible
          cases impossible
        -- The second attempt stands in the directory above, so its way starts where that one ends.
        · rename_i parent prepared ended
          rw [ended] at aboveMade abovePlace
          have parentPlace := abovePlace parent rfl
          split
          · rename_i reached made makes
            rcases makeDirectory_eq_ok (aboveMade.linkFree linkFree) makes with ⟨place, placed⟩
            rw [parentPlace] at place placed
            refine ⟨(aboveMade.mono onWay).trans (placed.mono ?_), ?_⟩
            · intro location way
              rw [List.reverse_cons]
              exact way.append_left above.reverse
            · intro other same
              cases same
              rw [place, List.reverse_cons, resolve_append]
          · refine ⟨aboveMade.mono onWay, ?_⟩
            intro reached impossible
            cases impossible
      · refine ⟨DirectoriesMade.refl _ _ _, ?_⟩
        intro reached impossible
        cases impossible

/-- Whether or not a directory can be made, nothing but directories on the way to it is placed. -/
theorem ensureDirectory_made {tree : FileTree} (linkFree : tree.LinkFree) (path : PathName) :
    tree.DirectoriesMade (tree.start path.anchor).location path.names
      (ensureDirectory path tree).2 := by
  simp only [ensureDirectory]
  split
  · exact DirectoriesMade.refl _ _ _
  · have made := (ensureNames_made linkFree path.anchor nestingLimit path.names.reverse).1
    rw [List.reverse_reverse] at made
    split
    · rename_i reached after ended
      rw [ended] at made
      exact made
    · rename_i error after ended
      rw [ended] at made
      exact made

end BuildSteps.FileTree
