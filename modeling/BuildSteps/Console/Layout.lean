import BuildSteps.Text.Cluster

/-!
# Lines on a console

A text is laid out on a console of a given width, measured in cells. Tabs are expanded to stops
of eight cells. A word keeps the blanks behind it, and the first one also those before it. A line
is broken before a word that does not fit. A word that is too long for any line starts a new one
and is cut between clusters wherever a line is full; in some texts it is cut off instead, with an
ellipsis behind it. Blanks at the end of a line do not count when a word is measured, and are cut
off as far as the line has too many characters or cells.
-/

namespace BuildSteps.Console

open Text

/-- The distance between tab stops. -/
def tabWidth : Nat := 8

/-- The number of spaces between a text of a width and the next tab stop. -/
def spacesToStop (width : Nat) : Nat :=
  (tabWidth - width % tabWidth) % tabWidth

/-- A text with its tabs replaced by spaces, behind what stands since the last tab, last character
first. -/
def expandTabsBehind (behind : List Char) : List Char → List Char
  | [] => []
  | char :: rest =>
    if char = '\t' then
      let spaces := spacesToStop (cells (' ' :: behind).reverse)
      ' ' :: (List.replicate spaces ' ' ++ expandTabsBehind [] rest)
    else char :: expandTabsBehind (char :: behind) rest

/-- A text with its tabs replaced by spaces. -/
def expandTabs (text : List Char) : List Char :=
  expandTabsBehind [] text

/-- The first word of a text, with the blanks around it. -/
def firstWord (text : List Char) : List Char :=
  let behindBlanks := text.dropWhile isBlank
  text.takeWhile isBlank ++ behindBlanks.takeWhile (fun char => !isBlank char) ++
    (behindBlanks.dropWhile fun char => !isBlank char).takeWhile isBlank

/-- The text behind the first word and the blanks around it. -/
def behindFirstWord (text : List Char) : List Char :=
  ((text.dropWhile isBlank).dropWhile fun char => !isBlank char).dropWhile isBlank

theorem length_behindFirstWord {text : List Char} (worded : text.any (fun char => !isBlank char)) :
    (behindFirstWord text).length < text.length := by
  have first := (List.dropWhile_sublist isBlank (l := text)).length_le
  have last :=
    (List.dropWhile_sublist isBlank
      (l := (text.dropWhile isBlank).dropWhile fun char => !isBlank char)).length_le
  have middle :
      ((text.dropWhile isBlank).dropWhile fun char => !isBlank char).length <
        (text.dropWhile isBlank).length := by
    clear last first
    induction text with
    | nil => simp at worded
    | cons char rest ih =>
      by_cases blank : isBlank char = true
      · have others : rest.any (fun char => !isBlank char) = true := by simpa [blank] using worded
        simpa [List.dropWhile_cons, blank] using ih others
      · have shorter := (List.dropWhile_sublist (fun char => !isBlank char) (l := rest)).length_le
        simp only [Bool.not_eq_true] at blank
        simpa [List.dropWhile_cons, blank] using Nat.lt_succ_of_le shorter
  unfold behindFirstWord
  omega

/-- The words of a text. A text of blanks has none. -/
def words (text : List Char) : List (List Char) :=
  if _worded : text.any (fun char => !isBlank char) then
    firstWord text :: words (behindFirstWord text)
  else []
termination_by text.length
decreasing_by exact length_behindFirstWord _worded

/-- Some pieces with a text in front of the first. -/
def withFront (text : List Char) : List (List Char) → List (List Char)
  | [] => []
  | piece :: others => (text ++ piece) :: others

/-- Clusters gathered into pieces of a width. The first piece is what is added to a line where some
cells are taken. A line without cells is no piece. -/
def chop (width taken : Nat) : List Cluster → List (List Char)
  | [] => if taken = 0 then [] else [[]]
  | cluster :: rest =>
    if width < taken + cluster.width then
      [] :: withFront cluster.text (chop width cluster.width rest)
    else withFront cluster.text (chop width (taken + cluster.width) rest)

/-- The positions of some pieces that follow one another; the start of the text is none. -/
def piecePositions (start : Nat) : List (List Char) → List Nat
  | [] => []
  | piece :: rest =>
    (if start = 0 then [] else [start]) ++ piecePositions (start + piece.length) rest

/-- What becomes of a word that is too long for any line. -/
inductive Overflow where
  | folded
  | cutOff
  deriving Repr, DecidableEq

/-- The positions where a line breaks, given its words from a position on and the number of cells
that are taken. -/
def breaksFrom (overflow : Overflow) (width start taken : Nat) : List (List Char) → List Nat
  | [] => []
  | word :: rest =>
    let size := cells (trimEnd isBlank word)
    let next := start + word.length
    if taken + size ≤ width then breaksFrom overflow width next (taken + cells word) rest
    else if width < size ∧ overflow = .folded then
      let pieces := chop width 0 (clusters word)
      piecePositions start pieces ++
        breaksFrom overflow width next (cells (pieces.getLast?.getD [])) rest
    else (if start = 0 then [] else [start]) ++ breaksFrom overflow width next (cells word) rest

/-- A text cut at ascending positions; it starts at a position of its own. -/
def cutAt (start : Nat) : List Nat → List Char → List (List Char)
  | [], text => [text]
  | position :: rest, text =>
    text.take (position - start) :: cutAt position rest (text.drop (position - start))

/-- A line without the blanks at its end that exceed a number of characters. -/
def trimExcess (width : Nat) (line : List Char) : List Char :=
  let blanks := line.length - (trimEnd isBlank line).length
  line.take (line.length - min blanks (line.length - width))

/-- The clusters at the beginning of a line that fit into a number of cells. Spaces fill the cells
that are left in front of the first cluster that does not fit. -/
def cropClusters : Nat → List Cluster → List Char
  | _, [] => []
  | width, cluster :: rest =>
    if cluster.width ≤ width then cluster.text ++ cropClusters (width - cluster.width) rest
    else List.replicate width ' '

/-- A line, cut off where it has too many cells. -/
def crop (width : Nat) (line : List Char) : List Char :=
  if cells line ≤ width then line else cropClusters width (clusters line)

/-- A line in exactly as many cells as there are, cut off or filled up with spaces. -/
def fitted (width : Nat) (line : List Char) : List Char :=
  let cropped := crop width line
  cropped ++ List.replicate (width - cells cropped) ' '

/-- A line, cut off where it has too many cells, with an ellipsis for a word that is too long. -/
def shortened (overflow : Overflow) (width : Nat) (line : List Char) : List Char :=
  match overflow with
  | .folded => crop width line
  | .cutOff => if cells line ≤ width then line else fitted (width - 1) line ++ ['…']

/-- The lines that one line of a text is laid out on. -/
def layoutLine (overflow : Overflow) (width : Nat) (line : List Char) : List (List Char) :=
  let expanded := expandTabs line
  (cutAt 0 (breaksFrom overflow width 0 0 (words expanded)) expanded).map fun piece =>
    shortened overflow width (trimExcess width piece)

/-- The lines of a text between its line feeds. -/
def splitLines : List Char → List (List Char)
  | [] => [[]]
  | char :: rest =>
    if char = '\n' then [] :: splitLines rest
    else
      match splitLines rest with
      | [] => [[char]]
      | line :: others => (char :: line) :: others

/-- The lines that a text is laid out on. A console without width shows none. -/
def layoutBy (overflow : Overflow) (width : Nat) (text : List Char) : List (List Char) :=
  if width = 0 then [] else (splitLines text).flatMap (layoutLine overflow width)

/-- The lines that a text is laid out on, with its long words folded. -/
def layout (width : Nat) (text : List Char) : List (List Char) :=
  layoutBy .folded width text

/-- Lines as they are shown, each with a line feed. -/
def joinedLines (lines : List (List Char)) : String :=
  String.ofList (lines.flatMap fun line => line ++ ['\n'])

end BuildSteps.Console
