import BuildSteps.Text.CellWidth

/-!
# Clusters

Characters that are shown together form a cluster. A character that takes cells starts one, and the
characters behind it that take none belong to it. A joiner draws the next character into the
cluster, where it takes no cells of its own. A mark for emoji style gives the last character that
took cells the width that it has in that style.

A text is measured as if it started behind a character. It is cut between its clusters, where a
joiner at the very start stands alone.
-/

namespace BuildSteps.Text

/-- The zero-width joiner. -/
def joiner : Char := '\u200D'

/-- The variation selector for emoji style. -/
def emojiStyle : Char := '\uFE0F'

/-- A character that a mark for emoji style behind it may widen. -/
def measured? (char : Char) : Option Char :=
  if cellWidth char = 0 then none else some char

/-- The number of cells that a text takes behind a character that may yet be widened. -/
def cellsBehind (base : Option Char) : List Char → Nat
  | [] => 0
  | [char] => if char = emojiStyle then widening base else cellWidth char
  | char :: next :: rest =>
    if char = joiner then cellsBehind base rest
    else if char = emojiStyle then widening base + cellsBehind none (next :: rest)
    else cellWidth char + cellsBehind ((measured? char).or base) (next :: rest)

/-- The number of cells a text takes. -/
def cells (text : List Char) : Nat :=
  cellsBehind none text

/-- Characters that are shown together, and the number of cells they take. -/
structure Cluster where
  text : List Char
  width : Nat
  deriving Repr, DecidableEq

/-- A cluster that begins with some characters more. -/
def Cluster.behind (chars : List Char) (width : Nat) (rest : Cluster) : Cluster :=
  ⟨chars ++ rest.text, width + rest.width⟩

/-- What belongs to an open cluster, given the last character in it that may yet be widened, and the
clusters behind it. -/
def openCluster (base : Option Char) : List Char → Cluster × List Cluster
  | [] => (⟨[], 0⟩, [])
  | [char] =>
    if char = emojiStyle then (⟨[char], widening base⟩, [])
    else if cellWidth char = 0 then (⟨[char], 0⟩, [])
    else (⟨[], 0⟩, [⟨[char], cellWidth char⟩])
  | char :: next :: rest =>
    if char = joiner then
      let (opened, others) := openCluster base rest
      (opened.behind [char, next] 0, others)
    else if char = emojiStyle then
      let (opened, others) := openCluster none (next :: rest)
      (opened.behind [char] (widening base), others)
    else if cellWidth char = 0 then
      let (opened, others) := openCluster base (next :: rest)
      (opened.behind [char] 0, others)
    else
      let (opened, others) := openCluster (some char) (next :: rest)
      (⟨[], 0⟩, opened.behind [char] (cellWidth char) :: others)

/-- The clusters of a text. -/
def clusters : List Char → List Cluster
  | [] => []
  | char :: rest =>
    let (opened, others) := openCluster (measured? char) rest
    opened.behind [char] (cellWidth char) :: others

end BuildSteps.Text
