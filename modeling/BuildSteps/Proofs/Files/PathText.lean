import BuildSteps.Files.PathName

/-!
# Path names and their texts

Reading a text brings a path name into a normal form: no name in it is empty or a single dot, or
holds a slash. The text of a path name in normal form is read as that path name again. So a path
name that was read from some text is kept when it is written and read once more, however the text
that it first came from was spelled.
-/

namespace BuildSteps.PathName

/-- A name as it stands in a path name that is read from a text. -/
def IsPlainName (name : List Char) : Prop :=
  name ≠ [] ∧ name ≠ ['.'] ∧ '/' ∉ name

/-- A path name is normal if all its names are plain. -/
def IsNormal (path : PathName) : Prop :=
  ∀ name ∈ path.names, IsPlainName name.toList

/-- The names that are kept of a text. -/
def keptPieces (text : List Char) : List (List Char) :=
  (pieces text).filter fun piece => piece ≠ [] ∧ piece ≠ ['.']

theorem names_ofText (text : String) :
    (ofText text).names = (keptPieces text.toList).map String.ofList := rfl

section Pieces

variable {piece : List Char}

theorem pieces_ne_nil (text : List Char) : pieces text ≠ [] := by
  cases text with
  | nil => exact List.cons_ne_nil _ _
  | cons char rest =>
      simp only [pieces]
      split
      · exact List.cons_ne_nil _ _
      · split <;> exact List.cons_ne_nil _ _

theorem pieces_slash (rest : List Char) : pieces ('/' :: rest) = [] :: pieces rest := by
  simp [pieces]

theorem pieces_cons_of_ne {char : Char} (noSlash : char ≠ '/') {rest : List Char}
    {others : List (List Char)} (read : pieces rest = piece :: others) :
    pieces (char :: rest) = (char :: piece) :: others := by
  simp only [pieces, noSlash, if_false, read]

/-- No piece holds the character that the pieces were split at. -/
theorem slash_not_mem_pieces (text : List Char) : ∀ piece ∈ pieces text, '/' ∉ piece := by
  induction text with
  | nil => simp [pieces]
  | cons char rest ih =>
      by_cases slash : char = '/'
      · subst slash
        rw [pieces_slash]
        intro piece occurs
        rcases List.mem_cons.mp occurs with rfl | later
        · exact List.not_mem_nil
        · exact ih piece later
      · rcases read : pieces rest with _ | ⟨first, others⟩
        · exact absurd read (pieces_ne_nil rest)
        · rw [pieces_cons_of_ne slash read]
          rw [read] at ih
          intro piece occurs
          rcases List.mem_cons.mp occurs with rfl | later
          · intro impossible
            rcases List.mem_cons.mp impossible with same | inside
            · exact slash same.symm
            · exact ih first (List.mem_cons_self ..) inside
          · exact ih piece (List.mem_cons_of_mem _ later)

theorem pieces_of_plain (noSlash : '/' ∉ piece) : pieces piece = [piece] := by
  induction piece with
  | nil => rfl
  | cons char rest ih =>
      rw [List.mem_cons, not_or] at noSlash
      exact pieces_cons_of_ne (Ne.symm noSlash.1) (ih noSlash.2)

theorem pieces_append_slash (noSlash : '/' ∉ piece) (rest : List Char) :
    pieces (piece ++ '/' :: rest) = piece :: pieces rest := by
  induction piece with
  | nil => exact pieces_slash rest
  | cons char others ih =>
      rw [List.mem_cons, not_or] at noSlash
      exact pieces_cons_of_ne (Ne.symm noSlash.1) (ih noSlash.2)

/-- Names that are joined by slashes are the pieces of the text. -/
theorem pieces_intercalate {names : List (List Char)} (nonempty : names ≠ [])
    (noSlash : ∀ name ∈ names, '/' ∉ name) : pieces (List.intercalate ['/'] names) = names := by
  induction names with
  | nil => exact absurd rfl nonempty
  | cons name rest ih =>
      have first := noSlash name (List.mem_cons_self ..)
      cases rest with
      | nil => rw [List.intercalate_singleton, pieces_of_plain first]
      | cons next others =>
          have later := ih (List.cons_ne_nil _ _) fun other occurs =>
            noSlash other (List.mem_cons_of_mem _ occurs)
          rw [List.intercalate_cons_cons, List.append_assoc, List.singleton_append,
            pieces_append_slash first, later]

end Pieces

section Reading

variable {path : PathName} {names : List (List Char)}

theorem keptPieces_slash (rest : List Char) : keptPieces ('/' :: rest) = keptPieces rest := by
  simp [keptPieces, pieces_slash]

theorem keptPieces_anchorText (anchor : Anchor) (rest : List Char) :
    keptPieces (anchorText anchor ++ rest) = keptPieces rest := by
  cases anchor with
  | workingDirectory => rfl
  | root => exact keptPieces_slash rest
  | doubleRoot => exact (keptPieces_slash _).trans (keptPieces_slash rest)

/-- Plain names joined by slashes are read back as they were. -/
theorem keptPieces_intercalate (plain : ∀ name ∈ names, IsPlainName name) :
    keptPieces (List.intercalate ['/'] names) = names := by
  by_cases nonempty : names = []
  · subst nonempty
    rfl
  · rw [keptPieces, pieces_intercalate nonempty fun name occurs => (plain name occurs).2.2,
      List.filter_eq_self]
    intro name occurs
    simp [(plain name occurs).1, (plain name occurs).2.1]

theorem isPlainName_of_mem_keptPieces {text name : List Char} (occurs : name ∈ keptPieces text) :
    IsPlainName name := by
  rw [keptPieces, List.mem_filter] at occurs
  rcases occurs with ⟨isPiece, kept⟩
  rw [decide_eq_true_eq] at kept
  exact ⟨kept.1, kept.2, slash_not_mem_pieces text name isPiece⟩

theorem anchorOf_append (anchor : Anchor) {rest : List Char} (noSlash : rest.head? ≠ some '/') :
    anchorOf (anchorText anchor ++ rest) = anchor := by
  cases rest with
  | nil => cases anchor <;> rfl
  | cons char others =>
      rw [List.head?_cons, ne_eq, Option.some.injEq] at noSlash
      cases anchor <;> simp [anchorText, anchorOf, noSlash]

theorem head?_intercalate (plain : ∀ name ∈ names, IsPlainName name) :
    (List.intercalate ['/'] names).head? ≠ some '/' := by
  cases names with
  | nil => simp
  | cons name rest =>
      rcases plain name (List.mem_cons_self ..) with ⟨nonempty, -, noSlash⟩
      rcases name with _ | ⟨char, others⟩
      · exact absurd rfl nonempty
      · rw [List.mem_cons, not_or] at noSlash
        cases rest with
        | nil => simpa using Ne.symm noSlash.1
        | cons next more => simpa [List.intercalate_cons_cons] using Ne.symm noSlash.1

theorem isNormal_ofText (text : String) : (ofText text).IsNormal := by
  intro name occurs
  rw [names_ofText, List.mem_map] at occurs
  rcases occurs with ⟨piece, kept, rfl⟩
  rw [String.toList_ofList]
  exact isPlainName_of_mem_keptPieces kept

/-- The text of a normal path name is read as that path name. -/
theorem ofText_text (normal : path.IsNormal) : ofText path.text = path := by
  have plain : ∀ name ∈ path.names.map String.toList, IsPlainName name := by
    intro name occurs
    rcases List.mem_map.mp occurs with ⟨word, listed, rfl⟩
    exact normal word listed
  by_cases here : path.anchor = .workingDirectory ∧ path.names = []
  · rcases path with ⟨anchor, names⟩
    rcases here with ⟨rfl, rfl⟩
    rfl
  · have written : path.text.toList =
        anchorText path.anchor ++ List.intercalate ['/'] (path.names.map String.toList) := by
      rw [text, if_neg here, String.toList_ofList]
    have anchor : (ofText path.text).anchor = path.anchor := by
      rw [ofText, written]
      exact anchorOf_append path.anchor (head?_intercalate plain)
    have names : (ofText path.text).names = path.names := by
      rw [names_ofText, written, keptPieces_anchorText, keptPieces_intercalate plain,
        List.map_map]
      simp
    rcases path with ⟨_, _⟩
    exact congr (congrArg PathName.mk anchor) names

end Reading

/-! ### Texts of files in a directory -/

/-- A last name joined on adds one slash and itself. -/
theorem intercalate_concat {names : List (List Char)} (nonempty : names ≠ []) (name : List Char) :
    List.intercalate ['/'] (names ++ [name]) = List.intercalate ['/'] names ++ '/' :: name := by
  induction names with
  | nil => exact absurd rfl nonempty
  | cons first rest ih =>
      cases rest with
      | nil => simp [List.intercalate_cons_cons, List.intercalate_singleton]
      | cons second others =>
          have onwards := ih (List.cons_ne_nil _ _)
          rw [List.cons_append] at onwards
          rw [List.cons_append, List.cons_append, List.intercalate_cons_cons, onwards,
            List.intercalate_cons_cons, List.append_assoc, List.append_assoc, List.append_assoc]

/-- The text of a path name as it stands in front of a name inside. -/
def front (path : PathName) : String :=
  if path.names = [] then String.ofList (anchorText path.anchor) else path.text ++ "/"

/-- The text of a child is the front of its directory followed by the name. -/
theorem text_child (path : PathName) (name : String) :
    (path.child name).text = path.front ++ name := by
  have written : (path.child name).text = String.ofList (anchorText path.anchor ++
      List.intercalate ['/'] ((path.names ++ [name]).map String.toList)) := by
    rw [text, if_neg (by simp [child])]
    rfl
  apply String.toList_injective
  rw [written, front]
  by_cases nothing : path.names = []
  · simp [nothing]
  · rw [if_neg nothing, List.map_append, List.map_singleton,
      intercalate_concat (by simpa using nothing), text, if_neg (by simp [nothing])]
    simp

theorem front_of_names_nil {path : PathName} (nothing : path.names = []) :
    path.front ∈ ["", "/", "//"] := by
  rw [front, if_pos nothing]
  cases path.anchor <;> decide

/-- The front of a path holds no null character if its text holds none. -/
theorem noNull_front {path : PathName} (noNull : '\x00' ∉ path.text.toList) :
    '\x00' ∉ path.front.toList := by
  by_cases nothing : path.names = []
  · have short := front_of_names_nil nothing
    simp only [List.mem_cons, List.not_mem_nil, or_false] at short
    rcases short with front | front | front <;> rw [front] <;> decide
  · rw [front, if_neg nothing, String.toList_append, List.mem_append, not_or]
    exact ⟨noNull, by decide⟩

theorem utf8ByteSize_text_le (path : PathName) :
    path.text.utf8ByteSize ≤ path.front.utf8ByteSize + 1 := by
  by_cases nothing : path.names = []
  · rcases path with ⟨anchor, names⟩
    obtain rfl : names = [] := nothing
    cases anchor <;> decide
  · rw [front, if_neg nothing, String.utf8ByteSize_append]
    omega

end BuildSteps.PathName
