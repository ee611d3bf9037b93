import BuildSteps.Text.Hexadecimal
import BuildSteps.Text.Printable

/-!
# Quoted literals

A text that is quoted in a message stands between two quotation marks: apostrophes, unless the
text holds an apostrophe and no double quote, in which case double quotes. A backslash and the
enclosing mark are escaped by a backslash, the line feed, carriage return and tab by their
letters, and every other character that is not printable by its code point, with two, four or
eight hexadecimal digits. Bytes are quoted in the same way, behind the letter b, and every byte
outside printable ASCII is escaped.
-/

namespace BuildSteps.Text

/-- The mark that encloses a quoted text. -/
def quotationMark (text : List Char) : Char :=
  if '\'' ∈ text ∧ '"' ∉ text then '"' else '\''

/-- The letter of the escapes that have one. -/
def escapeLetter : Char → Option Char
  | '\\' => some '\\'
  | '\n' => some 'n'
  | '\r' => some 'r'
  | '\t' => some 't'
  | _ => none

/-- A character written by its code point. -/
def codePointEscape (char : Char) : List Char :=
  if char.toNat < 0x100 then '\\' :: 'x' :: hexDigits 2 char.toNat
  else if char.toNat < 0x10000 then '\\' :: 'u' :: hexDigits 4 char.toNat
  else '\\' :: 'U' :: hexDigits 8 char.toNat

/-- A character as it stands inside a literal enclosed in a given mark. -/
def quotedChar (mark char : Char) : List Char :=
  match escapeLetter char with
  | some letter => ['\\', letter]
  | none =>
    if char = mark then ['\\', mark]
    else if isPrintable char then [char]
    else codePointEscape char

/-- A text between quotation marks. -/
def quoted (text : List Char) : List Char :=
  let mark := quotationMark text
  mark :: text.flatMap (quotedChar mark) ++ [mark]

/-- A byte as it stands inside a literal enclosed in a given mark. -/
def quotedByte (mark : Char) (byte : UInt8) : List Char :=
  if byte.toNat < 0x80 then quotedChar mark (Char.ofNat byte.toNat)
  else '\\' :: 'x' :: hexDigits 2 byte.toNat

/-- The UTF-8 bytes of a text between quotation marks, behind the letter b. -/
def quotedBytes (text : String) : List Char :=
  let mark := quotationMark text.toList
  'b' :: mark :: text.toUTF8.toList.flatMap (quotedByte mark) ++ [mark]

end BuildSteps.Text
