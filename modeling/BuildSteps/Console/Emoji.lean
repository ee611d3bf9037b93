import BuildSteps.Console.EmojiTable
import BuildSteps.Text.Blank
import BuildSteps.Text.Casing

/-!
# Emoji codes

A name between two colons, without blanks, is a code. The code of a known emoji, in any letter
case, is replaced by that emoji; the name may end in a wish for one of its two forms. The code of
an unknown emoji stays, and its second colon does not start another code.
-/

namespace BuildSteps.Console

/-- The endings of a name that ask for a form of the emoji, with the selector of that form. -/
def emojiForms : List (List Char × Char) :=
  [("-emoji".toList, '\uFE0F'), ("-text".toList, '\uFE0E')]

/-- A name without its ending, with the selector that the ending stands for. -/
def splitForm (name : List Char) : List Char × List Char :=
  match emojiForms.find? fun form => form.1.isSuffixOf name with
  | some form => (name.take (name.length - form.1.length), [form.2])
  | none => (name, [])

/-- The capital letters outside ASCII whose small form occurs in the name of an emoji, with that
form. -/
def accentedSmalls : List (Char × Char) :=
  [('Ã', 'ã'), ('Å', 'å'), ('\u212B', 'å'), ('Ç', 'ç'), ('É', 'é'), ('Í', 'í'), ('Ô', 'ô')]

/-- The name of an emoji that a text is in some letter case, if it is one. -/
def emojiName (text : List Char) : String :=
  String.ofList ((Text.smalls text).map fun char => (accentedSmalls.lookup char).getD char)

/-- What the code with a given name is replaced by. -/
def expandCode (name : List Char) : List Char :=
  let (base, selector) := splitForm name
  match emojis.lookup (emojiName base) with
  | some emoji => emoji ++ selector
  | none => ':' :: name ++ [':']

/-- Whether a character may stand in the name of a code. -/
def isCodeChar (char : Char) : Bool :=
  !Text.isBlank char && char ≠ ':'

/-- The name of the code that starts with a colon, and the text behind the code. -/
def code? (behind : List Char) : Option (List Char × List Char) :=
  match behind.dropWhile isCodeChar with
  | ':' :: rest => some (behind.takeWhile isCodeChar, rest)
  | _ => none

theorem length_of_code? {behind name rest : List Char} (found : code? behind = some (name, rest)) :
    rest.length < behind.length := by
  have shorter := (List.dropWhile_sublist isCodeChar (l := behind)).length_le
  unfold code? at found
  split at found
  · rename_i tail ends
    simp only [Option.some.injEq, Prod.mk.injEq] at found
    rw [ends, List.length_cons] at shorter
    rw [← found.2]
    omega
  · simp at found

/-- A text with its codes replaced. -/
def expandCodes : List Char → List Char
  | [] => []
  | char :: behind =>
    if char = ':' then
      match _found : code? behind with
      | some (name, rest) => expandCode name ++ expandCodes rest
      | none => char :: expandCodes behind
    else char :: expandCodes behind
termination_by text => text.length
decreasing_by
  · have := length_of_code? _found
    simp only [List.length_cons]
    omega
  · simp
  · simp

end BuildSteps.Console
