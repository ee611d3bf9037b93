import BuildSteps.Proofs.Files.Ways

/-!
# When a directory can be made

A directory can be made in a link-free tree if and only if its path leads past directories and free
places only, with the names of two dots resolved lexically, and then it stands. What is free on the
way is made a directory first, so a name of two dots behind it leads back from there.

If the directory has been made, every beginning of its names leads to a directory, and nothing but
directories has been placed. For the converse, a walk along clear names either ends or finds
something missing before its last name, and in the second case the directory above is made in the
same manner. Its attempt has one name less, so there are attempts enough.
-/

namespace BuildSteps.FileTree

/-- A location stands if it is a directory and so is every location above it. -/
def StandsAt (tree : FileTree) (location : Location) : Prop :=
  ∀ above, above <+: location → tree.isDirectoryAt above = true

/-- Names are clear if no beginning of them leads to an entry other than a directory. -/
def IsClear (tree : FileTree) (here : Location) (names : List String) : Prop :=
  ∀ front, front <+: names →
    ∀ entry, tree.get? (resolve here front) = some entry → entry = .directory

section Reached

variable {tree made : FileTree} {standing reached : Standing} {here there : Location}
  {names above : List String} {name : String} {path : PathName}

/-- Making directories takes none away. -/
theorem DirectoriesMade.keeps (first : tree.DirectoriesMade here names made) :
    tree.KeepsDirectories made := by
  intro other stands
  rw [isDirectoryAt_iff] at stands ⊢
  rcases first.entries other with same | ⟨unused, -, -⟩
  · rw [same, stands]
  · rw [unused] at stands
    cases stands

theorem isDirectoryAt_put_directory (tree : FileTree) (above : Location) (name : String) :
    (tree.put (above ++ [name]) .directory).isDirectoryAt (above ++ [name]) = true := by
  rw [isDirectoryAt_iff, get?_put, if_pos ⟨by simp, rfl⟩]

theorem KeepsDirectories.put_directory (tree : FileTree) (location : Location) :
    tree.KeepsDirectories (tree.put location .directory) := by
  intro other stands
  rw [isDirectoryAt_iff] at stands ⊢
  rw [get?_put]
  split
  · rfl
  · exact stands

/-- A directory below one that is reached is reached by its name. -/
theorem advance_concat_of_directory
    (way : tree.advance .followed here above = .reached (.occupied there))
    (stands : tree.isDirectoryAt there = true) (proper : IsProperName name)
    (short : name.utf8ByteSize ≤ 255) (below : tree.isDirectoryAt (there ++ [name]) = true) :
    tree.advance .followed here (above ++ [name]) = .reached (.occupied (there ++ [name])) := by
  have entry := isDirectoryAt_iff.mp below
  have steps : tree.StepsTo there name (there ++ [name]) := by
    refine ⟨stands, Or.inr (Or.inr ⟨proper, short, rfl, ?_, ?_⟩)⟩
    · rw [entry]
      rfl
    · rw [entry]
      simp
  rw [advance_append way (by simp), advance_cons_of_stepsTo steps (by simp)]
  rfl

/-- A directory that was made or found is reached by its names. -/
theorem makeDirectory_reaches (linkFree : tree.LinkFree)
    (makes : tree.makeDirectory standing names = .ok (reached, made)) :
    made.advance .followed standing.location names = .reached (.occupied reached.location) ∧
      made.isDirectoryAt reached.location = true := by
  have placed := (makeDirectory_eq_ok linkFree makes).2
  simp only [makeDirectory] at makes
  split at makes
  · rename_i location budget walked
    cases makes
    have ended := walk_eq_ok linkFree walked
    rcases advance_cases linkFree .kept standing.location names with
      occupied | ⟨-, -, above, name, rfl, -, -⟩ | ⟨reason, stopped⟩
    · rw [occupied] at ended
      cases ended
    · rcases advance_append_of_ended linkFree (List.cons_ne_nil _ _) ended with
        ⟨there, way, onwards⟩
      rcases advance_cons_of_ended linkFree onwards with
        ⟨next, -, impossible⟩ | ⟨-, proper, short, stands, same⟩
      · cases impossible
      · cases same
        have below := isDirectoryAt_put_directory tree there name
        have wayAfter := advance_of_keeps placed.keeps way stands
        exact ⟨advance_concat_of_directory wayAfter (placed.keeps _ stands) proper short below,
          below⟩
    · rw [stopped] at ended
      cases ended
  · split at makes
    · rename_i found
      cases makes
      simp only [directoryFrom?] at found
      split at found
      · rename_i location budget walked
        split at found
        · rename_i stands
          cases found
          exact ⟨walk_eq_ok linkFree walked, stands⟩
        · cases found
      · cases found
    · cases makes
  · cases makes

/-- Once all names are ensured, the way along them reaches the directory that was answered. -/
theorem ensureNames_reaches (linkFree : tree.LinkFree) (anchor : Anchor) (attempts : Nat)
    (ended : ensureNames anchor attempts names tree = (.ok reached, made)) :
    made.advance .followed (tree.start anchor).location names.reverse =
        .reached (.occupied reached.location) ∧
      made.isDirectoryAt reached.location = true := by
  induction attempts generalizing names reached made with
  | zero => cases ended
  | succ attempts ih =>
      simp only [ensureNames] at ended
      split at ended
      · rename_i makes
        cases ended
        exact makeDirectory_reaches linkFree makes
      · rename_i name above missing
        split at ended
        · cases ended
        · rename_i parent prepared before
          have madeAbove := (ensureNames_made linkFree anchor attempts above).1
          rw [before] at madeAbove
          have linkFreeAbove := madeAbove.linkFree linkFree
          rcases ih before with ⟨way, stands⟩
          split at ended
          · rename_i last after makes
            cases ended
            have placed := (makeDirectory_eq_ok linkFreeAbove makes).2
            rcases makeDirectory_reaches linkFreeAbove makes with ⟨wayBelow, standsBelow⟩
            have wayAfter := advance_of_keeps placed.keeps way stands
            rw [List.reverse_cons, advance_append wayAfter (by simp)]
            exact ⟨wayBelow, standsBelow⟩
          · cases ended
      · cases ended

/-- A directory that was made stands. -/
theorem leadsTo_of_ensureDirectory (linkFree : tree.LinkFree)
    (ended : ensureDirectory path tree = (.ok (), made)) :
    made.LeadsTo path (tree.locationOf path) := by
  have directoriesMade := ensureDirectory_made linkFree path
  rw [ended] at directoriesMade
  simp only [ensureDirectory] at ended
  split at ended
  · cases ended
  · split at ended
    · rename_i reached after before
      cases ended
      rcases ensureNames_reaches linkFree _ _ before with ⟨way, stands⟩
      rw [List.reverse_reverse, ← start_eq directoriesMade.workingDirectory] at way
      have place := resolve_of_reached (directoriesMade.linkFree linkFree) way
      rw [start_eq directoriesMade.workingDirectory, ← locationOf] at place
      rw [place] at way stands
      exact ⟨way, stands⟩
    · cases ended

/-- A path along which a directory was made was clear. -/
theorem isClear_of_ensureDirectory (linkFree : tree.LinkFree)
    (ended : ensureDirectory path tree = (.ok (), made)) :
    tree.IsClear (tree.start path.anchor).location path.names := by
  have directoriesMade := ensureDirectory_made linkFree path
  rw [ended] at directoriesMade
  intro front beginning entry there
  have stands := (leadsTo_of_ensureDirectory linkFree ended).directory_of_front
    (directoriesMade.linkFree linkFree) beginning
  rw [isDirectoryAt_iff, start_eq directoriesMade.workingDirectory] at stands
  rcases directoriesMade.entries (resolve (tree.start path.anchor).location front) with
    same | ⟨unused, -, -⟩
  · rw [same, there] at stands
    cases stands
    rfl
  · rw [unused] at there
    cases there

end Reached

section Clear

variable {tree made : FileTree} {standing : Standing} {here location : Location}
  {names : List String} {name : String} {path : PathName}

theorem StandsAt.directory (stands : tree.StandsAt location) :
    tree.isDirectoryAt location = true :=
  stands location (List.prefix_refl _)

theorem StandsAt.dropLast (stands : tree.StandsAt location) : tree.StandsAt location.dropLast :=
  fun above below => stands above (below.trans (List.dropLast_prefix location))

theorem StandsAt.below (stands : tree.StandsAt location)
    (directory : tree.isDirectoryAt (location ++ [name]) = true) :
    tree.StandsAt (location ++ [name]) := by
  intro above below
  rcases List.prefix_concat_iff.mp below with rfl | higher
  · exact directory
  · exact stands above higher

theorem StandsAt.of_keeps (stands : tree.StandsAt location)
    (keeps : tree.KeepsDirectories made) : made.StandsAt location :=
  fun above below => keeps above (stands above below)

theorem IsClear.front {more : List String} (clear : tree.IsClear here (names ++ more)) :
    tree.IsClear here names :=
  fun front beginning => clear front (beginning.trans (List.prefix_append _ _))

theorem IsClear.back {more : List String} (clear : tree.IsClear here (names ++ more)) :
    tree.IsClear (resolve here names) more := by
  intro front beginning
  rw [← resolve_append]
  exact clear (names ++ front) ((List.prefix_append_right_inj names).mpr beginning)

/-- Making directories on one way leaves another way clear. -/
theorem DirectoriesMade.clear {way : List String}
    (first : tree.DirectoriesMade location way made) (clear : tree.IsClear here names) :
    made.IsClear here names := by
  intro front beginning entry there
  rcases first.entries (resolve here front) with same | ⟨-, placed, -⟩
  · rw [same] at there
    exact clear front beginning entry there
  · rw [placed] at there
    cases there
    rfl

/-- A name that is clear leads to a directory that stands, or nothing stands where it leads. -/
theorem stepsTo_of_clear (stands : tree.StandsAt here) (clear : tree.IsClear here (name :: names))
    (short : name.utf8ByteSize ≤ 255) :
    (tree.StepsTo here name (nextLocation here name) ∧
        tree.StandsAt (nextLocation here name)) ∨
      (IsProperName name ∧ tree.get? (here ++ [name]) = none) := by
  by_cases skipped : name = "" ∨ name = "."
  · rw [nextLocation, if_pos skipped]
    exact Or.inl ⟨⟨stands.directory, Or.inl ⟨skipped, rfl⟩⟩, stands⟩
  · by_cases dots : name = ".."
    · rw [nextLocation, if_neg skipped, if_pos dots]
      exact Or.inl ⟨⟨stands.directory, Or.inr (Or.inl ⟨dots, rfl⟩)⟩, stands.dropLast⟩
    · have proper : IsProperName name := ⟨(not_or.mp skipped).1, (not_or.mp skipped).2, dots⟩
      have next := nextLocation_of_proper here proper
      cases found : tree.get? (here ++ [name]) with
      | none => exact Or.inr ⟨proper, rfl⟩
      | some entry =>
          have place : resolve here [name] = here ++ [name] := next
          obtain rfl : entry = .directory := by
            apply clear [name] (List.cons_prefix_cons.mpr ⟨rfl, List.nil_prefix⟩)
            rw [place, found]
          rw [next]
          refine Or.inl ⟨⟨stands.directory, Or.inr (Or.inr ⟨proper, short, rfl, ?_, ?_⟩)⟩, ?_⟩
          · rw [found]
            rfl
          · rw [found]
            simp
          · exact stands.below (isDirectoryAt_iff.mpr found)

/-- How a walk along clear names may end: at a directory that stands, at a free place in one, or
because something is missing before the last name. -/
inductive EndsClear (tree : FileTree) (names : List String) : Progress → Prop
  | occupied {location : Location} :
      tree.StandsAt location → EndsClear tree names (.reached (.occupied location))
  | free {above : Location} (name : String) :
      tree.StandsAt above → EndsClear tree names (.reached (.free (above ++ [name])))
  | missing : 1 < names.length → EndsClear tree names (.stopped .missing)

theorem EndsClear.cons {progress : Progress} (ends : tree.EndsClear names progress)
    (name : String) : tree.EndsClear (name :: names) progress := by
  cases ends with
  | occupied stands => exact EndsClear.occupied stands
  | free last stands => exact EndsClear.free last stands
  | missing long => exact EndsClear.missing (Nat.lt_succ_of_lt long)

/-- Along a clear way of short names every advance ends alike: at a directory, or at a name that
is missing. -/
theorem advance_of_clear (stands : tree.StandsAt here) (clear : tree.IsClear here names)
    (short : ∀ name ∈ names, name.utf8ByteSize ≤ 255) :
    ∃ progress, tree.EndsClear names progress ∧
      ∀ last, last ≠ .created → tree.advance last here names = progress := by
  induction names generalizing here with
  | nil => exact ⟨_, EndsClear.occupied stands, fun _ _ => rfl⟩
  | cons name rest ih =>
      have shortHere := short name (List.mem_cons_self ..)
      have shortRest := fun other occurs => short other (List.mem_cons_of_mem _ occurs)
      rcases stepsTo_of_clear stands clear shortHere with ⟨steps, standsNext⟩ | ⟨proper, nothing⟩
      · have clearWhole : tree.IsClear here ([name] ++ rest) := clear
        rcases ih standsNext clearWhole.back shortRest with ⟨progress, ends, walks⟩
        refine ⟨progress, ends.cons name, ?_⟩
        intro last notCreated
        rw [advance_cons_of_stepsTo steps fun created => absurd created notCreated]
        exact walks last notCreated
      · rcases proper with ⟨notEmpty, notDot, notDots⟩
        have walks : ∀ last : LastName, last ≠ .created → tree.advance last here (name :: rest) =
            if rest = [] then .reached (.free (here ++ [name])) else .stopped .missing := by
          intro last notCreated
          simp only [advance, stands.directory, Bool.true_eq_false, if_false, notEmpty, notDot,
            or_self, notDots, notCreated, false_and, Nat.not_lt.mpr shortHere, nothing]
        refine ⟨_, ?_, walks⟩
        split
        · exact EndsClear.free name stands
        · rename_i unfinished
          refine EndsClear.missing ?_
          rw [List.length_cons]
          have more := List.length_pos_iff.mpr unfinished
          omega

/-- A walk along clear names makes the directory that they lead to, or finds it, or something is
missing before the last name. -/
theorem makeDirectory_of_clear (budget : 0 < standing.budget)
    (stands : tree.StandsAt standing.location) (clear : tree.IsClear standing.location names)
    (short : ∀ name ∈ names, name.utf8ByteSize ≤ 255) :
    (∃ reached made, tree.makeDirectory standing names = .ok (reached, made) ∧
        0 < reached.budget ∧ made.StandsAt reached.location) ∨
      (tree.makeDirectory standing names = .error .missing ∧ 1 < names.length) := by
  rcases standing with ⟨here, _ | left⟩
  · cases budget
  rcases advance_of_clear stands clear short with ⟨progress, ends, walks⟩
  have kept := walks .kept (by decide)
  have followed := walks .followed (by decide)
  simp only [makeDirectory, directoryFrom?, walkFrom, walk, kept, followed]
  cases ends with
  | occupied standsThere =>
      simp only [standsThere.directory, if_true]
      exact Or.inl ⟨_, _, rfl, budget, standsThere⟩
  | @free above name standsAbove =>
      have keeps := KeepsDirectories.put_directory tree (above ++ [name])
      have placed := isDirectoryAt_put_directory tree above name
      exact Or.inl ⟨_, _, rfl, budget, (standsAbove.of_keeps keeps).below placed⟩
  | missing long => exact Or.inr ⟨rfl, long⟩

/-- Along clear names there are attempts enough if there is one for each name. -/
theorem ensureNames_of_clear (linkFree : tree.LinkFree) (anchor : Anchor) {attempts : Nat}
    (some_attempt : 0 < attempts) (enough : names.length ≤ attempts)
    (stands : tree.StandsAt (tree.start anchor).location)
    (clear : tree.IsClear (tree.start anchor).location names.reverse)
    (short : ∀ name ∈ names, name.utf8ByteSize ≤ 255) :
    ∃ reached made, ensureNames anchor attempts names tree = (.ok reached, made) ∧
      0 < reached.budget ∧ made.StandsAt reached.location := by
  induction attempts generalizing names with
  | zero => cases some_attempt
  | succ attempts ih =>
      have shortReversed : ∀ name ∈ names.reverse, name.utf8ByteSize ≤ 255 := by
        intro name occurs
        exact short name (List.mem_reverse.mp occurs)
      rcases makeDirectory_of_clear (Nat.succ_pos _) stands clear shortReversed with
        ⟨reached, made, makes, budget, standsThere⟩ | ⟨missing, long⟩
      · refine ⟨reached, made, ?_, budget, standsThere⟩
        simp only [ensureNames, makes]
      · rw [List.length_reverse] at long
        cases names with
        | nil => cases long
        | cons name above =>
            simp only [List.length_cons] at long enough
            rw [List.reverse_cons] at clear
            have shortAbove := fun other occurs => short other (List.mem_cons_of_mem name occurs)
            rcases ih (by omega) (by omega) clear.front shortAbove with
              ⟨parent, prepared, before, budget, standsParent⟩
            have madeAbove := ensureNames_made linkFree anchor attempts above
            rw [before] at madeAbove
            have place := madeAbove.2 parent rfl
            have shortName : ∀ other ∈ [name], other.utf8ByteSize ≤ 255 := by
              intro other occurs
              rw [List.mem_singleton.mp occurs]
              exact short name (List.mem_cons_self ..)
            -- The last name starts where the directory above was reached, and is clear there still.
            have clearName : prepared.IsClear parent.location [name] := by
              rw [place]
              exact madeAbove.1.clear clear.back
            rcases makeDirectory_of_clear budget standsParent clearName shortName with
              ⟨reached, made, makes, budgetThere, standsThere⟩ | ⟨-, impossible⟩
            · refine ⟨reached, made, ?_, budgetThere, standsThere⟩
              simp only [ensureNames, missing, before, makes]
            · exact absurd impossible (Nat.lt_irrefl 1)

/-- In a link-free tree a directory can be made if and only if its path is clear, given that the
working directory stands and that the path is within the limits. -/
theorem ensureDirectory_ok_iff (linkFree : tree.LinkFree)
    (stands : tree.StandsAt tree.workingDirectory) (accepted : refusal? path = none)
    (short : ∀ name ∈ path.names, name.utf8ByteSize ≤ 255)
    (depth : path.names.length ≤ nestingLimit) :
    (∃ made, ensureDirectory path tree = (.ok (), made)) ↔
      tree.IsClear (tree.start path.anchor).location path.names := by
  constructor
  · rintro ⟨made, ended⟩
    exact isClear_of_ensureDirectory linkFree ended
  · intro clear
    have standsStart : tree.StandsAt (tree.start path.anchor).location := by
      cases anchored : path.anchor with
      | workingDirectory => exact stands
      | _ =>
          intro above below
          rw [List.prefix_nil.mp below, isDirectoryAt_iff]
          rfl
    have shortReversed : ∀ name ∈ path.names.reverse, name.utf8ByteSize ≤ 255 := by
      intro name occurs
      exact short name (List.mem_reverse.mp occurs)
    rw [← List.reverse_reverse path.names] at clear
    rw [← List.length_reverse] at depth
    rcases ensureNames_of_clear linkFree path.anchor (by decide) depth standsStart clear
      shortReversed with ⟨reached, made, ended, -, -⟩
    exact ⟨made, by simp only [ensureDirectory, accepted, ended]⟩

end Clear

end BuildSteps.FileTree
