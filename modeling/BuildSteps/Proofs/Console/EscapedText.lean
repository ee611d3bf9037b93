import BuildSteps.Proofs.Console.PlainText

/-!
# Escaped texts as markup

An escaped text is read as plain text, whatever brackets and backslashes it has. The proof follows
the reader from tag to tag. A text is cut where a tag would start, and escaping it doubles the
backslashes there and adds one, so the reader finds the same place, halves the backslashes, and
takes the tag for plain text. In front of that place, and inside the tag, nothing is escaped and
nothing is read as a tag.

That the place is found again rests on one fact: whether a tag starts at a bracket is decided before
the next opening bracket, so it does not depend on what stands behind that one.
-/

namespace BuildSteps.Console

/-- The name of a tag starts like one and holds no brackets. -/
structure IsTagName (name : List Char) : Prop where
  starts : name.head?.any isTagStart = true
  inside : ∀ char ∈ name, isTagChar char = true

/-- An opening bracket behind backslashes, and the text behind it. -/
def bracketed (slashes : Nat) (behind : List Char) : List Char :=
  List.replicate slashes '\\' ++ '[' :: behind

/-- A tag behind backslashes, and the text behind it. -/
def tagged (slashes : Nat) (name behind : List Char) : List Char :=
  bracketed slashes (name ++ ']' :: behind)

/-- The text in front of another is untagged if at none of its characters a tag starts. -/
def IsUntagged : List Char → List Char → Prop
  | [], _ => True
  | char :: before, rest => startsTag (char :: (before ++ rest)) = false ∧ IsUntagged before rest

section Tags

variable {name behind text rest before : List Char} {slashes more : Nat}

theorem startsTag_backslash (text : List Char) : startsTag ('\\' :: text) = startsTag text := by
  simp [startsTag]

theorem startsTag_bracket (text : List Char) : startsTag ('[' :: text) = continuesTag text := by
  simp [startsTag]

theorem startsTag_backslashes {front : List Char} (all : ∀ char ∈ front, char = '\\')
    (text : List Char) : startsTag (front ++ text) = startsTag text := by
  induction front with
  | nil => rfl
  | cons char others ih =>
      rw [List.forall_mem_cons] at all
      rw [all.1, List.cons_append, startsTag_backslash, ih all.2]

/-- The name of a tag, closed, goes on as a tag whatever stands behind. -/
theorem continuesTag_of_isTagName (isTagName : IsTagName name) (behind : List Char) :
    continuesTag (name ++ ']' :: behind) = true := by
  have ends : (name ++ ']' :: behind).dropWhile isTagChar = ']' :: behind :=
    List.dropWhile_append_of_pos isTagName.inside
  have starts := isTagName.starts
  cases name with
  | nil => cases starts
  | cons first others =>
      rw [continuesTag, ends]
      simpa using starts

theorem startsTag_tagged (isTagName : IsTagName name) :
    startsTag (tagged slashes name behind) = true := by
  rw [tagged, bracketed, startsTag_backslashes, startsTag_bracket]
  · exact continuesTag_of_isTagName isTagName behind
  · exact fun char occurs => (List.mem_replicate.mp occurs).2

theorem isTagChar_of_isTagStart {char : Char} (starts : isTagStart char = true) :
    isTagChar char = true := by
  rw [isTagChar, Bool.and_eq_true, decide_eq_true_eq, decide_eq_true_eq]
  constructor
  · rintro rfl
    exact absurd starts (by decide)
  · rintro rfl
    exact absurd starts (by decide)

/-- Where a tag starts there are backslashes, its name in brackets and the text behind. -/
theorem exists_tagged (starts : startsTag text = true) :
    ∃ slashes name, IsTagName name ∧ text = tagged slashes name (behindTag text) := by
  have whole : text.takeWhile (· = '\\') ++ text.dropWhile (· = '\\') = text :=
    List.takeWhile_append_dropWhile
  have slashes : ∀ char ∈ text.takeWhile (· = '\\'), char = '\\' := by
    intro char occurs
    exact of_decide_eq_true (List.all_eq_true.mp List.all_takeWhile char occurs)
  rw [startsTag] at starts
  split at starts
  · rename_i rest bracket
    have continued : rest.takeWhile isTagChar ++ rest.dropWhile isTagChar = rest :=
      List.takeWhile_append_dropWhile
    simp only [continuesTag, Bool.and_eq_true, decide_eq_true_eq] at starts
    rcases ends : rest.dropWhile isTagChar with _ | ⟨last, behind⟩
    · simp [ends] at starts
    · obtain rfl : last = ']' := by simpa [ends] using starts.2
      have behindThis : behindTag text = behind := by
        simp [behindTag, bracket, ends]
      refine ⟨(text.takeWhile (· = '\\')).length, rest.takeWhile isTagChar, ⟨?_, ?_⟩, ?_⟩
      · have first := starts.1
        cases rest with
        | nil => exact first
        | cons char others =>
            rw [List.head?_cons, Option.any_some] at first
            rw [List.takeWhile_cons_of_pos (isTagChar_of_isTagStart first)]
            exact first
      · exact fun char occurs => List.all_eq_true.mp List.all_takeWhile char occurs
      · rw [behindThis, tagged, bracketed, ← ends, continued, ← bracket,
          ← List.eq_replicate_of_mem slashes, whole]
  · cases starts

theorem dropWhile_bracketed (slashes : Nat) (behind : List Char) :
    (bracketed slashes behind).dropWhile (· = '\\') = '[' :: behind := by
  rw [bracketed, List.dropWhile_append_of_pos (by simp)]
  simp

theorem takeWhile_bracketed (slashes : Nat) (behind : List Char) :
    (bracketed slashes behind).takeWhile (· = '\\') = List.replicate slashes '\\' := by
  rw [bracketed, List.takeWhile_append_of_pos (by simp)]
  simp

theorem takeWhile_name (isTagName : IsTagName name) (behind : List Char) :
    (name ++ ']' :: behind).takeWhile isTagChar = name := by
  rw [List.takeWhile_append_of_pos isTagName.inside]
  simp [isTagChar]

theorem dropWhile_name (isTagName : IsTagName name) (behind : List Char) :
    (name ++ ']' :: behind).dropWhile isTagChar = ']' :: behind :=
  List.dropWhile_append_of_pos isTagName.inside

theorem behindTag_tagged (isTagName : IsTagName name) :
    behindTag (tagged slashes name behind) = behind := by
  simp only [behindTag, tagged, dropWhile_bracketed, List.drop_one, List.tail_cons,
    dropWhile_name isTagName]

theorem leadingPieces_tagged (isTagName : IsTagName name) :
    leadingPieces (tagged slashes name behind) =
      plainPiece (List.replicate (slashes / 2) '\\') ++
        [if slashes % 2 = 1 then .plain ('[' :: name ++ [']']) else .tag name] := by
  simp only [leadingPieces, tagged, dropWhile_bracketed, takeWhile_bracketed, List.length_replicate,
    List.drop_one, List.tail_cons, takeWhile_name isTagName]

end Tags

section Untagged

variable {name behind text rest before : List Char} {slashes : Nat}

theorem isUntagged_of_ne (untagged : ∀ char ∈ text, char ≠ '[' ∧ char ≠ '\\') (rest : List Char) :
    IsUntagged text rest := by
  induction text with
  | nil => trivial
  | cons char others ih =>
      rw [List.forall_mem_cons] at untagged
      exact ⟨startsTag_cons_of_ne untagged.1.1 untagged.1.2 _, ih untagged.2⟩

theorem IsUntagged.splitAtTag (untagged : IsUntagged before rest) :
    splitAtTag (before ++ rest) = (before ++ (splitAtTag rest).1, (splitAtTag rest).2) := by
  induction before with
  | nil => rfl
  | cons char others ih =>
      rw [List.cons_append, Console.splitAtTag, untagged.1, if_neg Bool.false_ne_true,
        ih untagged.2, List.cons_append]

theorem IsUntagged.escapeTags (untagged : IsUntagged before rest) :
    escapeTags (before ++ rest) = before ++ escapeTags rest := by
  induction before with
  | nil => rfl
  | cons char others ih =>
      rw [List.cons_append, Console.escapeTags, untagged.1, if_neg (by simp), ih untagged.2,
        List.cons_append]

/-- A text is cut at its first tag, or at its end. -/
theorem splitAtTag_spec (text : List Char) :
    text = (splitAtTag text).1 ++ (splitAtTag text).2 ∧
      IsUntagged (splitAtTag text).1 (splitAtTag text).2 ∧
      ((splitAtTag text).2 = [] ∨ startsTag (splitAtTag text).2 = true) := by
  induction text with
  | nil => exact ⟨rfl, trivial, Or.inl rfl⟩
  | cons char rest ih =>
      rcases ih with ⟨whole, untagged, starts⟩
      rw [splitAtTag]
      split
      · rename_i here
        exact ⟨rfl, trivial, Or.inr here⟩
      · rename_i notHere
        refine ⟨congrArg _ whole, ⟨?_, untagged⟩, starts⟩
        rw [← whole]
        simpa using notHere

/-- No tag starts at a text that is closed before it is opened. -/
theorem startsTag_closed {front : List Char} (noBracket : '[' ∉ front) (behind : List Char) :
    startsTag (front ++ ']' :: behind) = false := by
  induction front with
  | nil => exact startsTag_cons_of_ne (by decide) (by decide) _
  | cons char others ih =>
      rw [List.mem_cons, not_or] at noBracket
      by_cases slash : char = '\\'
      · rw [slash, List.cons_append, startsTag_backslash, ih noBracket.2]
      · exact startsTag_cons_of_ne (Ne.symm noBracket.1) slash _

/-- In a tag no other tag starts. -/
theorem isUntagged_closed {front : List Char} (noBracket : '[' ∉ front) (behind : List Char) :
    IsUntagged (front ++ [']']) behind := by
  induction front with
  | nil => exact ⟨startsTag_cons_of_ne (by decide) (by decide) _, trivial⟩
  | cons char others ih =>
      rw [List.mem_cons, not_or] at noBracket
      refine ⟨?_, ih noBracket.2⟩
      have inside := List.not_mem_cons_of_ne_of_not_mem noBracket.1 noBracket.2
      have closed := startsTag_closed inside behind
      simpa using closed

theorem IsTagName.not_mem (isTagName : IsTagName name) : '[' ∉ name := by
  intro occurs
  exact absurd (isTagName.inside '[' occurs) (by decide)

/-- Escaping a tag doubles the backslashes before it and adds one. -/
theorem escapeTags_tagged (isTagName : IsTagName name) :
    escapeTags (tagged slashes name behind) =
      tagged (2 * slashes + 1) name (escapeTags behind) := by
  have starts : ∀ slashes, startsTag (tagged slashes name behind) = true :=
    fun slashes => startsTag_tagged isTagName
  induction slashes with
  | zero =>
      have here := starts 0
      have inside := (isUntagged_closed isTagName.not_mem behind).escapeTags
      simp only [List.append_assoc, List.singleton_append] at inside
      simp only [tagged, bracketed, List.replicate_zero, List.nil_append] at here ⊢
      rw [escapeTags, if_pos ⟨Or.inr rfl, here⟩, inside]
      rfl
  | succ slashes ih =>
      have here := starts (slashes + 1)
      have next : ∀ count behind,
          tagged (count + 1) name behind = '\\' :: tagged count name behind := by
        intro count behind
        rfl
      have double : 2 * (slashes + 1) + 1 = 2 * slashes + 1 + 1 + 1 := by omega
      rw [next] at here ⊢
      rw [escapeTags, if_pos ⟨Or.inl rfl, here⟩, ih, double, next (2 * slashes + 1 + 1),
        next (2 * slashes + 1)]

end Untagged

/-! ### What stands behind a bracket -/

section Behind

variable {name behind text rest before : List Char} {slashes more : Nat}

/-- Whether a text goes on as a tag is decided in front of the next opening bracket. -/
theorem continuesTag_append_bracketed (text : List Char) (slashes : Nat) (behind : List Char) :
    continuesTag (text ++ bracketed slashes behind) = continuesTag text := by
  have passed : (bracketed slashes behind).dropWhile isTagChar = '[' :: behind := by
    rw [bracketed, List.dropWhile_append_of_pos]
    · simp [isTagChar]
    · intro char occurs
      rw [(List.mem_replicate.mp occurs).2]
      decide
  cases text with
  | nil =>
      cases slashes with
      | zero => simp [continuesTag, bracketed, isTagStart]
      | succ slashes => simp [continuesTag, bracketed, List.replicate_succ, isTagStart]
  | cons first others =>
      simp only [continuesTag, List.dropWhile_append, passed]
      cases ends : (first :: others).dropWhile isTagChar <;> simp

/-- Whether a tag starts at a character that is no backslash does not depend on what stands behind
the next opening bracket. -/
theorem startsTag_append_bracketed (other : ∃ char ∈ text, char ≠ '\\') (slashes : Nat)
    (behind : List Char) : startsTag (text ++ bracketed slashes behind) = startsTag text := by
  induction text with
  | nil => simp at other
  | cons char others ih =>
      by_cases slash : char = '\\'
      · subst slash
        rw [List.cons_append, startsTag_backslash, startsTag_backslash]
        exact ih (by simpa using other)
      · by_cases bracket : char = '['
        · subst bracket
          rw [List.cons_append, startsTag_bracket, startsTag_bracket, continuesTag_append_bracketed]
        · rw [List.cons_append, startsTag_cons_of_ne bracket slash,
            startsTag_cons_of_ne bracket slash]

/-- A text in front of a tag stays untagged when the backslashes and the text behind are others.
-/
theorem IsUntagged.bracketed_of_tagged (isTagName : IsTagName name)
    (untagged : IsUntagged before (tagged slashes name behind)) (more : Nat) (rest : List Char) :
    IsUntagged before (bracketed more rest) := by
  induction before with
  | nil => trivial
  | cons char others ih =>
      refine ⟨?_, ih untagged.2⟩
      have here := untagged.1
      have other : ∃ slash ∈ char :: others, slash ≠ '\\' := by
        apply Decidable.byContradiction
        intro none
        have all : ∀ slash ∈ char :: others, slash = '\\' := by simpa using none
        rw [← List.cons_append, startsTag_backslashes all, startsTag_tagged isTagName] at here
        cases here
      rw [← List.cons_append, tagged, startsTag_append_bracketed other] at here
      rw [← List.cons_append, startsTag_append_bracketed other, here]

/-- A text that does not end in a backslash stays untagged in front of a bracket behind
backslashes. -/
theorem IsUntagged.bracketed_of_last (last : before.getLast? ≠ some '\\')
    (untagged : IsUntagged before []) (more : Nat) (rest : List Char) :
    IsUntagged before (bracketed more rest) := by
  induction before with
  | nil => trivial
  | cons char others ih =>
      have here := untagged.1
      have other : ∃ slash ∈ char :: others, slash ≠ '\\' :=
        ⟨_, List.getLast_mem (List.cons_ne_nil char others), by
          rintro same
          exact last (by rw [List.getLast?_eq_some_getLast (List.cons_ne_nil char others), same])⟩
      rw [List.append_nil] at here
      refine ⟨?_, ih ?_ untagged.2⟩
      · rw [← List.cons_append, startsTag_append_bracketed other, here]
      · cases others with
        | nil => simp
        | cons next others => simpa using last

end Behind

/-! ### Segments -/

/-- The segments of a text: at each tag what stands in front of it, its backslashes, and the tag
itself, and then what is left. -/
def segments (text : List Char) : List (List Char) :=
  if _untagged : (splitAtTag text).2 = [] then [(splitAtTag text).1]
  else
    (splitAtTag text).1 ::
      (splitAtTag text).2.takeWhile (· = '\\') ::
      ('[' :: (((splitAtTag text).2.dropWhile (· = '\\')).drop 1).takeWhile isTagChar ++ [']']) ::
      segments (behindTag (splitAtTag text).2)
termination_by text.length
decreasing_by
  have first := length_splitAtTag text
  have second := length_behindTag _untagged
  omega

section Segments

variable {name behind text rest before : List Char} {slashes : Nat}

theorem splitAtTag_of_startsTag (starts : startsTag text = true) :
    splitAtTag text = ([], text) := by
  cases text with
  | nil => cases starts
  | cons char others => rw [splitAtTag, if_pos starts]

theorem splitAtTag_tagged (isTagName : IsTagName name)
    (untagged : IsUntagged before (tagged slashes name behind)) :
    splitAtTag (before ++ tagged slashes name behind) = (before, tagged slashes name behind) := by
  rw [untagged.splitAtTag, splitAtTag_of_startsTag (startsTag_tagged isTagName), List.append_nil]

theorem splitAtTag_untagged (untagged : IsUntagged text []) : splitAtTag text = (text, []) := by
  have cut := untagged.splitAtTag
  simpa [splitAtTag] using cut

theorem tagged_ne_nil : tagged slashes name behind ≠ [] := by
  simp [tagged, bracketed]

/-- Induction over the tags of a text. -/
@[elab_as_elim]
theorem tag_induction {motive : List Char → Prop} (text : List Char)
    (untagged : ∀ text, IsUntagged text [] → motive text)
    (tagged : ∀ before slashes name behind, IsTagName name →
      IsUntagged before (tagged slashes name behind) → motive behind →
      motive (before ++ tagged slashes name behind)) : motive text := by
  rcases splitAtTag_spec text with ⟨whole, free, starts⟩
  induction text using segments.induct with
  | case1 text none =>
      rw [none, List.append_nil] at whole
      rw [none, ← whole] at free
      exact untagged text free
  | case2 text some ih =>
      rcases exists_tagged (starts.resolve_left some) with ⟨slashes, name, isTagName, same⟩
      rcases splitAtTag_spec (behindTag (splitAtTag text).2) with
        ⟨wholeBehind, freeBehind, startsBehind⟩
      have rest := ih wholeBehind freeBehind startsBehind
      rw [whole, same]
      rw [same] at free
      exact tagged _ slashes name _ isTagName free rest

theorem segments_untagged (untagged : IsUntagged text []) : segments text = [text] := by
  rw [segments, dif_pos (by rw [splitAtTag_untagged untagged]), splitAtTag_untagged untagged]

/-- The segments of a text with a tag are the text in front, the backslashes, the tag, and the
segments behind. -/
theorem segments_tagged (isTagName : IsTagName name)
    (untagged : IsUntagged before (tagged slashes name behind)) :
    segments (before ++ tagged slashes name behind) =
      before :: List.replicate slashes '\\' :: ('[' :: name ++ [']']) :: segments behind := by
  have cut := splitAtTag_tagged isTagName untagged
  rw [segments, dif_neg (by rw [cut]; exact tagged_ne_nil), cut]
  simp only [behindTag_tagged isTagName]
  simp only [tagged, dropWhile_bracketed, takeWhile_bracketed, List.drop_one, List.tail_cons,
    takeWhile_name isTagName]

/-- The segments are all there is of a text. -/
theorem flatten_segments (text : List Char) : (segments text).flatten = text := by
  induction text using tag_induction with
  | untagged text untagged => simp [segments_untagged untagged]
  | tagged before slashes name behind isTagName untagged ih =>
      rw [segments_tagged isTagName untagged]
      simp [ih, tagged, bracketed]

theorem markupPieces_tagged (isTagName : IsTagName name)
    (untagged : IsUntagged before (tagged slashes name behind)) :
    markupPieces (before ++ tagged slashes name behind) =
      plainPiece before ++ leadingPieces (tagged slashes name behind) ++ markupPieces behind := by
  have cut := splitAtTag_tagged isTagName untagged
  rw [markupPieces, dif_neg (by rw [cut]; exact tagged_ne_nil), cut]
  simp only [behindTag_tagged isTagName]

theorem tagged_append (slashes : Nat) (name behind rest : List Char) :
    tagged slashes name behind ++ rest = tagged slashes name (behind ++ rest) := by
  simp [tagged, bracketed]

/-- What stands behind a tag ends as the whole text does. -/
theorem getLast?_behind_tagged
    (last : (before ++ tagged slashes name behind).getLast? ≠ some '\\') :
    behind.getLast? ≠ some '\\' := by
  intro same
  have cut : before ++ tagged slashes name behind = before ++ tagged slashes name [] ++ behind := by
    rw [List.append_assoc, tagged_append, List.nil_append]
  rw [cut, List.getLast?_append, same] at last
  exact last rfl

/-- In front of a tag an escaped text is read as its segments, all of them plain. -/
theorem markupPieces_escapeTags {close : List Char} (isTagName : IsTagName close)
    (last : text.getLast? ≠ some '\\') :
    markupPieces (escapeTags text ++ tagged 0 close rest) =
      (segments text).flatMap plainPiece ++ .tag close :: markupPieces rest := by
  induction text using tag_induction with
  | untagged text untagged =>
      have whole := untagged.escapeTags
      rw [List.append_nil, escapeTags, List.append_nil] at whole
      have free : IsUntagged text (tagged 0 close rest) := untagged.bracketed_of_last last 0 _
      rw [whole, markupPieces_tagged isTagName free, leadingPieces_tagged isTagName,
        segments_untagged untagged]
      simp [plainPiece]
  | tagged before slashes name behind isTag untagged ih =>
      have free : IsUntagged before
          (tagged (2 * slashes + 1) name (escapeTags behind ++ tagged 0 close rest)) :=
        untagged.bracketed_of_tagged isTag _ _
      have half : (2 * slashes + 1) / 2 = slashes := by omega
      have odd : (2 * slashes + 1) % 2 = 1 := by omega
      rw [untagged.escapeTags, escapeTags_tagged isTag, List.append_assoc, tagged_append,
        markupPieces_tagged isTag free, leadingPieces_tagged isTag, half, if_pos odd,
        ih (getLast?_behind_tagged last), segments_tagged isTag untagged]
      simp [plainPiece]

end Segments

end BuildSteps.Console
