import BuildSteps.Console.Emoji

/-!
# Console markup

In markup, a tag in square brackets opens or closes a style. A tag starts with a small letter, a
number sign, a slash or an at sign, and holds no opening bracket. Backslashes before a tag are
read in pairs, each pair as one backslash; one that is left over makes the tag plain text.
Elsewhere a backslash before an opening bracket is dropped. Markup is shown as its plain text in
which emoji codes are replaced, piece by piece between the tags, and in which the bell, the
backspace and the characters that move the cursor by lines or to the start of one are left out.

`escape` prepares a text so that none of its brackets is read as a tag.
-/

namespace BuildSteps.Console

/-- Whether a character may be the first one of a tag. -/
def isTagStart (char : Char) : Bool :=
  char.isLower || char ∈ ['#', '/', '@']

/-- Whether a character may stand inside a tag. -/
def isTagChar (char : Char) : Bool :=
  char ≠ '[' && char ≠ ']'

/-- Whether a text, behind an opening bracket, goes on as a tag. -/
def continuesTag (text : List Char) : Bool :=
  text.head?.any isTagStart && (text.dropWhile isTagChar).head? = some ']'

/-- Whether a text starts with a tag, or with backslashes before a tag. -/
def startsTag (text : List Char) : Bool :=
  match text.dropWhile (· = '\\') with
  | '[' :: behind => continuesTag behind
  | _ => false

/-- A text with its tags, and the backslashes before them, escaped. -/
def escapeTags : List Char → List Char
  | [] => []
  | char :: rest =>
    if (char = '\\' ∨ char = '[') ∧ startsTag (char :: rest) then '\\' :: char :: escapeTags rest
    else char :: escapeTags rest

/-- Whether a text ends in exactly one backslash. -/
def endsInBackslash (text : List Char) : Bool :=
  match text.reverse with
  | '\\' :: '\\' :: _ => false
  | '\\' :: _ => true
  | _ => false

/-- A text as it stands in markup. -/
def escape (text : List Char) : List Char :=
  let escaped := escapeTags text
  if endsInBackslash escaped then escaped ++ ['\\'] else escaped

/-- A piece of markup. -/
inductive Piece where
  | plain (text : List Char)
  | tag (name : List Char)
  deriving Repr, DecidableEq

/-- A text cut where its first tag, or the backslashes before it, start. -/
def splitAtTag : List Char → List Char × List Char
  | [] => ([], [])
  | char :: rest =>
    if startsTag (char :: rest) then ([], char :: rest)
    else (char :: (splitAtTag rest).1, (splitAtTag rest).2)

/-- A plain piece, unless it is empty. -/
def plainPiece (text : List Char) : List Piece :=
  if text = [] then [] else [.plain text]

/-- The pieces of the tag, and the backslashes before it, that a text starts with. -/
def leadingPieces (text : List Char) : List Piece :=
  let slashes := (text.takeWhile (· = '\\')).length
  let body := ((text.dropWhile (· = '\\')).drop 1).takeWhile isTagChar
  plainPiece (List.replicate (slashes / 2) '\\') ++
    [if slashes % 2 = 1 then .plain ('[' :: body ++ [']']) else .tag body]

/-- The text behind the tag that a text starts with. -/
def behindTag (text : List Char) : List Char :=
  (((text.dropWhile (· = '\\')).drop 1).dropWhile isTagChar).drop 1

theorem length_splitAtTag (text : List Char) : (splitAtTag text).2.length ≤ text.length := by
  induction text with
  | nil => simp [splitAtTag]
  | cons char rest ih =>
    unfold splitAtTag
    split
    · exact Nat.le_refl _
    · simp only [List.length_cons]
      omega

theorem length_behindTag {text : List Char} (nonempty : text ≠ []) :
    (behindTag text).length < text.length := by
  have slashes := (List.dropWhile_sublist (· = '\\') (l := text)).length_le
  have body :=
    (List.dropWhile_sublist isTagChar (l := (text.dropWhile (· = '\\')).drop 1)).length_le
  have positive := List.length_pos_iff.mpr nonempty
  simp only [behindTag, List.length_drop] at body ⊢
  omega

/-- The pieces of a markup text, in order. -/
def markupPieces (markup : List Char) : List Piece :=
  if _tagged : (splitAtTag markup).2 = [] then plainPiece (splitAtTag markup).1
  else
    plainPiece (splitAtTag markup).1 ++ leadingPieces (splitAtTag markup).2 ++
      markupPieces (behindTag (splitAtTag markup).2)
termination_by markup.length
decreasing_by
  have first := length_splitAtTag markup
  have second := length_behindTag _tagged
  omega

/-- A plain piece without the backslashes before its opening brackets. -/
def unescapeBrackets : List Char → List Char
  | [] => []
  | [char] => [char]
  | '\\' :: '[' :: rest => '[' :: unescapeBrackets rest
  | char :: next :: rest => char :: unescapeBrackets (next :: rest)

/-- The name of a style: what stands before an equals sign, without blanks around it. -/
def styleName (tag : List Char) : List Char :=
  Text.smalls (Text.trim Text.isBlank (tag.takeWhile (· ≠ '=')))

/-- The open styles after a tag, or nothing if the tag closes a style that is not open. -/
def applyTag (opened : List (List Char)) (tag : List Char) : Option (List (List Char)) :=
  match styleName tag with
  | '/' :: closed =>
    if Text.trim Text.isBlank closed = [] then if opened = [] then none else some opened.tail
    else if closed ∈ opened then some (opened.erase closed)
    else none
  | name => some (name :: opened)

/-- Whether a character has no place on a line. -/
def isLineControl (char : Char) : Bool :=
  char.toNat ∈ [7, 8, 11, 12, 13]

/-- A plain piece as it is shown. -/
def shownPiece (text : List Char) : List Char :=
  (expandCodes (unescapeBrackets text)).filter fun char => !isLineControl char

/-- The text of some pieces, or nothing if one of them closes a style that is not open. -/
def shownPieces (opened : List (List Char)) : List Piece → Option (List Char)
  | [] => some []
  | .plain text :: rest => (shownPieces opened rest).map (shownPiece text ++ ·)
  | .tag name :: rest =>
    match applyTag opened name with
    | some now => shownPieces now rest
    | none => none

/-- The text that a markup text is shown as. -/
def shownText? (markup : List Char) : Option (List Char) :=
  shownPieces [] (markupPieces markup)

end BuildSteps.Console
