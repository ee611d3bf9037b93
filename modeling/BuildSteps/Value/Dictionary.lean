import BuildSteps.Decimal.Binary
import BuildSteps.Value.Basic

/-!
# Dictionaries

A dictionary that is built from pairs keeps each key at the place, and in the form, in which it
first arrived, with the value that arrived last.
-/

namespace BuildSteps.Value

/-- A number as a fraction of integers; infinities and the value that is no number have none. -/
def ratio? : Value → Option (Int × Nat)
  | .bool truth => some (if truth then 1 else 0, 1)
  | .int number => some (number, 1)
  | .float number =>
    match Decimal.reading number with
    | .finite negative magnitude =>
      some (Decimal.signed negative magnitude.ratio.1, magnitude.ratio.2)
    | _ => none
  | _ => none

/-- Whether a value is the infinity of a sign. -/
def isInfinity (negative : Bool) : Value → Bool
  | .float number => decide (Decimal.reading number = .infinite negative)
  | _ => false

/-- Whether two values are equal as numbers. -/
def sameNumber (left right : Value) : Bool :=
  match left.ratio?, right.ratio? with
  | some (leftTop, leftBottom), some (rightTop, rightBottom) =>
    decide (leftTop * rightBottom = rightTop * leftBottom)
  | _, _ =>
    (left.isInfinity true && right.isInfinity true) ||
      (left.isInfinity false && right.isInfinity false)

mutual

/-- Whether two values are the same key of a dictionary. -/
def sameKey : Value → Value → Bool
  | .null, .null => true
  | .text left, .text right => decide (left = right)
  | .bytes left, .bytes right => decide (left = right)
  | .path left, .path right => decide (left = right)
  | .tuple left, .tuple right => sameKeys left right
  | left, right => sameNumber left right

/-- Whether two lists hold the same keys in the same order. -/
def sameKeys : List Value → List Value → Bool
  | [], [] => true
  | left :: lefts, right :: rights => sameKey left right && sameKeys lefts rights
  | _, _ => false

end

end BuildSteps.Value

namespace BuildSteps

/-- Writes a value under a key: in place if the same key is there, else at the end. -/
def putBy {α β : Type} (same : α → α → Bool) (key : α) (value : β) :
    List (α × β) → List (α × β)
  | [] => [(key, value)]
  | (first, old) :: rest =>
    if same first key then (first, value) :: rest
    else (first, old) :: putBy same key value rest

/-- The pairs of a list, written one after another. -/
def gatherBy {α β : Type} (same : α → α → Bool) (pairs : List (α × β)) : List (α × β) :=
  pairs.foldl (fun entries pair => putBy same pair.1 pair.2 entries) []

/-- The set of some values; of equal ones the first is kept. -/
def Value.setOfItems (items : List Value) : Value :=
  .set ((gatherBy Value.sameKey (items.map fun item => (item, ()))).map Prod.fst)

/-- The dictionary built from some pairs. -/
def Value.dictOfPairs (pairs : List (Value × Value)) : Value :=
  .dict (gatherBy Value.sameKey pairs)

end BuildSteps
