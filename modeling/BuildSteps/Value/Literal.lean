import BuildSteps.Decimal.Text
import BuildSteps.Text.Quoted
import BuildSteps.Value.Basic

/-!
# Values in messages

A message shows a value as a literal: texts are quoted, containers stand between brackets of their
own, and a tuple of one item keeps its comma. Where a message takes a value as plain text, a text
and a path stand for themselves and every other value for its literal.
-/

namespace BuildSteps.Value

/-- Items between two marks, separated by a comma and a space. -/
def enclosed (opening : List Char) (items : List (List Char)) (closing : List Char) : List Char :=
  opening ++ List.intercalate [',', ' '] items ++ closing

mutual

/-- The literal of a value. -/
def literal : Value → List Char
  | .null => "None".toList
  | .bool true => "True".toList
  | .bool false => "False".toList
  | .int number => (toString number).toList
  | .float number => Decimal.shortestText Decimal.messageSpelling number
  | .text content => Text.quoted content.toList
  | .bytes content => Text.quotedBytes content
  | .path name => enclosed "PosixPath(".toList [Text.quoted name.text.toList] [')']
  | .list items => enclosed ['['] (literals items) [']']
  | .tuple [item] => enclosed ['('] [literal item] [',', ')']
  | .tuple items => enclosed ['('] (literals items) [')']
  | .set [] => "set()".toList
  | .set items => enclosed ['\x7b'] (literals items) ['\x7d']
  | .dict entries => enclosed ['\x7b'] (entryLiterals entries) ['\x7d']
termination_by structural value => value

/-- The literals of some values. -/
def literals : List Value → List (List Char)
  | [] => []
  | item :: items => literal item :: literals items
termination_by structural items => items

/-- The literals of the entries of a dictionary. -/
def entryLiterals : List (Value × Value) → List (List Char)
  | [] => []
  | (key, value) :: entries => (literal key ++ ':' :: ' ' :: literal value) :: entryLiterals entries
termination_by structural entries => entries

end

/-- A value as plain text. -/
def plainText : Value → List Char
  | .text content => content.toList
  | .path name => name.text.toList
  | value => value.literal

end BuildSteps.Value
