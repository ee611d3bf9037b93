import BuildSteps.Console.Layout
import BuildSteps.Decimal.Rounding

/-!
# Panels

A panel is a box with a title that is as wide as the console. What it holds is either a text, or a
row of cells next to each other. A cell has a margin, and is as wide as its text unless it spreads
over all the room there is. If there is too little room, the widest cells are made narrower until
the row fits.

Everything is measured for a number of cells of the console, which may be too small for anything to
be shown.
-/

namespace BuildSteps.Console

open Text

/-- A text in a row, with its margins. -/
structure Field where
  text : List Char := []
  overflow : Overflow := .cutOff
  spreads : Bool := false
  left : Nat := 1
  right : Nat := 1

namespace Field

/-- The number of cells in the margins of a field. -/
def margin (field : Field) : Nat :=
  field.left + field.right

/-- The width of a field on its own, where there is some room. -/
def ownWidth (room : Nat) (field : Field) : Nat :=
  if field.spreads || decide (room ≤ field.margin) then room
  else min room (cells field.text + field.margin)

/-- The lines of a field, each with its margins in exactly as many cells as there are. -/
def lines (field : Field) (width : Nat) : List (List Char) :=
  let inner := width - field.margin
  (layoutBy field.overflow inner field.text).map fun line =>
    fitted width
      (List.replicate field.left ' ' ++ fitted inner line ++ List.replicate field.right ' ')

end Field

/-- The greatest of some widths. -/
def greatest (widths : List Nat) : Nat :=
  widths.foldl max 0

/-- Widths of which the widest ones, whose number is given, give up some cells evenly, but each of
them no more than a limit. -/
def reduceWidest (widest limit : Nat) : Nat → Nat → List Nat → List Nat
  | _, _, [] => []
  | excess, count, width :: rest =>
    if width = widest then
      let part := min limit (Decimal.roundQuotient excess count)
      (width - part) :: reduceWidest widest limit (excess - part) (count - 1) rest
    else width :: reduceWidest widest limit excess count rest

/-- Widths made narrower until they fit into the room there is. A round makes the widest ones as
narrow as the next ones, or ends, so there are no more rounds than widths. -/
def narrowed (room : Nat) : Nat → List Nat → List Nat
  | 0, widths => widths
  | rounds + 1, widths =>
    let excess := widths.sum - room
    if excess = 0 then widths
    else
      let widest := greatest widths
      let next := greatest (widths.filter fun width => decide (width ≠ widest))
      let limit := min excess (widest - next)
      narrowed room rounds (reduceWidest widest limit excess (widths.count widest) widths)

/-- The lines of a row of fields. Fields with fewer lines than others are filled up below. -/
def rowLines (room : Nat) (fields : List Field) : List (List Char) :=
  let widths := narrowed room fields.length (fields.map (Field.ownWidth room))
  let columns := (fields.zip widths).map fun (field, width) => (width, field.lines width)
  let height := max 1 (greatest (columns.map fun column => column.2.length))
  (List.range height).map fun index =>
    columns.flatMap fun (width, lines) => lines.getD index (List.replicate width ' ')

/-- The number of cells that the edges of a panel take. -/
def edgeWidth : Nat := 4

/-- The upper edge of a panel, which has its title if there is room for it. -/
def upperEdge (width : Nat) (title : List Char) : List Char :=
  if width ≤ edgeWidth then
    crop width ('╭' :: List.replicate (width - 2) '─' ++ ['╮'])
  else
    let shown := crop (width - edgeWidth) (' ' :: title ++ [' '])
    ['╭', '─'] ++ shown ++ List.replicate (width - edgeWidth - cells shown) '─' ++ ['─', '╮']

/-- The lower edge of a panel. -/
def lowerEdge (width : Nat) : List Char :=
  crop width ('╰' :: List.replicate (width - 2) '─' ++ ['╯'])

/-- A panel with a title, around lines that are given for the room inside. -/
def panel (width : Nat) (title : String) (inside : Nat → List (List Char)) : List (List Char) :=
  let room := width - edgeWidth
  let shown := if room = 0 then [] else inside room
  let body := shown.map fun line => ['│', ' '] ++ fitted room line ++ [' ', '│']
  upperEdge width title.toList :: body ++ [lowerEdge width]

end BuildSteps.Console
