import BuildSteps.Console.Notice

/-!
# Notices of plain text

A text in which nothing is written that markup could read as a tag, an escape or an emoji code is
shown as it stands. This file shows that for the notice of a failed subcommand, whose parts are a
name, a number and a command: its one colon has no other colon to make a code with.
-/

namespace BuildSteps.Console

/-- A plain character is one that markup gives no meaning and that has a place on a line. -/
def isPlain (char : Char) : Bool :=
  char ≠ '[' && char ≠ '\\' && char ≠ ':' && !isLineControl char

/-- A text as it is printed on a console of a width. -/
def printed (width : Nat) (text : List Char) : String :=
  String.ofList ((layout width text).flatMap fun line => line ++ ['\n'])

theorem ne_of_isPlain {char : Char} (plain : isPlain char = true) :
    char ≠ '[' ∧ char ≠ '\\' ∧ char ≠ ':' ∧ isLineControl char = false := by
  simpa [isPlain, and_assoc] using plain

theorem startsTag_cons_of_ne {char : Char} (notBracket : char ≠ '[') (notSlash : char ≠ '\\')
    (rest : List Char) : startsTag (char :: rest) = false := by
  simp [startsTag, notBracket, notSlash]

/-- Text without brackets and backslashes is passed over when a tag is looked for. -/
theorem splitAtTag_append {text : List Char}
    (untagged : ∀ char ∈ text, char ≠ '[' ∧ char ≠ '\\') (rest : List Char) :
    splitAtTag (text ++ rest) = (text ++ (splitAtTag rest).1, (splitAtTag rest).2) := by
  induction text with
  | nil => rfl
  | cons char others ih =>
      rw [List.forall_mem_cons] at untagged
      rcases untagged with ⟨⟨notBracket, notSlash⟩, untagged⟩
      simp [splitAtTag, startsTag_cons_of_ne notBracket notSlash, ih untagged]

theorem markupPieces_red (rest : List Char) :
    markupPieces ("[red]".toList ++ rest) = .tag "red".toList :: markupPieces rest := by
  have opens : "[red]".toList = ['[', 'r', 'e', 'd', ']'] := by decide
  have name : "red".toList = ['r', 'e', 'd'] := by decide
  have cut : splitAtTag ('[' :: 'r' :: 'e' :: 'd' :: ']' :: rest) =
      ([], '[' :: 'r' :: 'e' :: 'd' :: ']' :: rest) := rfl
  have behind : behindTag ('[' :: 'r' :: 'e' :: 'd' :: ']' :: rest) = rest := rfl
  have leading : leadingPieces ('[' :: 'r' :: 'e' :: 'd' :: ']' :: rest) =
      [.tag ['r', 'e', 'd']] := by
    simp [leadingPieces, plainPiece, isTagChar]
  rw [opens, name]
  simp only [List.cons_append, List.nil_append]
  rw [markupPieces, dif_neg (by rw [cut]; simp), cut, leading, behind]
  rfl

/-- Text without brackets in front of the closing tag of red is one plain piece. -/
theorem markupPieces_closing {text : List Char} (nonempty : text ≠ [])
    (untagged : ∀ char ∈ text, char ≠ '[' ∧ char ≠ '\\') :
    markupPieces (text ++ "[/red]".toList) = [.plain text, .tag "/red".toList] := by
  have closing : splitAtTag "[/red]".toList = ([], "[/red]".toList) := by decide
  have leading : leadingPieces "[/red]".toList = [.tag "/red".toList] := by decide
  have behind : behindTag "[/red]".toList = [] := by decide
  have ended : markupPieces [] = [] := by
    simp [markupPieces, splitAtTag, plainPiece]
  have cut : splitAtTag (text ++ "[/red]".toList) = (text, "[/red]".toList) := by
    rw [splitAtTag_append untagged, closing, List.append_nil]
  have tagged : "[/red]".toList ≠ [] := by decide
  rw [markupPieces, dif_neg (by rw [cut]; exact tagged), cut, leading, behind, ended]
  simp [plainPiece, nonempty]

/-- A text without tags in red is shown as it would be on its own. -/
theorem shownText?_red {text : List Char} (nonempty : text ≠ [])
    (untagged : ∀ char ∈ text, char ≠ '[' ∧ char ≠ '\\') :
    shownText? ("[red]".toList ++ (text ++ "[/red]".toList)) = some (shownPiece text) := by
  have opened : applyTag [] "red".toList = some ["red".toList] := by decide
  have closed : applyTag ["red".toList] "/red".toList = some [] := by decide
  rw [shownText?, markupPieces_red, markupPieces_closing nonempty untagged]
  simp only [shownPieces, opened, closed, Option.map_some, List.append_nil]

theorem unescapeBrackets_of_ne {text : List Char} (unescaped : ∀ char ∈ text, char ≠ '\\') :
    unescapeBrackets text = text := by
  induction text using unescapeBrackets.induct with
  | case1 => rfl
  | case2 char => rfl
  | case3 rest ih => exact absurd rfl (unescaped '\\' (List.mem_cons_self ..))
  | case4 char next rest notEscape ih =>
      rw [List.forall_mem_cons] at unescaped
      rw [unescapeBrackets, ih unescaped.2]
      exact notEscape

theorem expandCodes_append {text : List Char} (uncoded : ∀ char ∈ text, char ≠ ':')
    (rest : List Char) : expandCodes (text ++ rest) = text ++ expandCodes rest := by
  induction text with
  | nil => rfl
  | cons char others ih =>
      rw [List.forall_mem_cons] at uncoded
      rw [List.cons_append, expandCodes, if_neg uncoded.1, ih uncoded.2, List.cons_append]

/-- A single colon is no code. -/
theorem expandCodes_colon {text : List Char} (uncoded : ∀ char ∈ text, char ≠ ':') :
    expandCodes (':' :: text) = ':' :: text := by
  have noCode : code? text = none := by
    simp only [code?]
    split
    · rename_i rest ends
      have colon : ':' ∈ text.dropWhile isCodeChar := by
        rw [ends]
        exact List.mem_cons_self ..
      exact absurd rfl (uncoded ':' ((List.dropWhile_sublist isCodeChar).subset colon))
    · rfl
  have same := expandCodes_append uncoded []
  rw [List.append_nil] at same
  rw [expandCodes, if_pos rfl]
  split
  · rename_i name rest found
    rw [noCode] at found
    cases found
  · rw [same, expandCodes, List.append_nil]

section Colon

variable {before behind : List Char}

theorem plain_or_colon (plainBefore : before.all isPlain = true)
    (plainBehind : behind.all isPlain = true) :
    ∀ char ∈ before ++ ':' :: behind, isPlain char = true ∨ char = ':' := by
  rw [List.all_eq_true] at plainBefore plainBehind
  intro char occurs
  rcases List.mem_append.mp occurs with first | colonOrLast
  · exact Or.inl (plainBefore char first)
  · rcases List.mem_cons.mp colonOrLast with colon | last
    · exact Or.inr colon
    · exact Or.inl (plainBehind char last)

/-- Plain text around a colon is shown as it stands. -/
theorem shownPiece_of_plain (plainBefore : before.all isPlain = true)
    (plainBehind : behind.all isPlain = true) :
    shownPiece (before ++ ':' :: behind) = before ++ ':' :: behind := by
  have parts := plain_or_colon plainBefore plainBehind
  rw [List.all_eq_true] at plainBefore plainBehind
  have unescaped : ∀ char ∈ before ++ ':' :: behind, char ≠ '\\' := by
    intro char occurs
    rcases parts char occurs with plain | rfl
    · exact (ne_of_isPlain plain).2.1
    · decide
  have placed : ∀ char ∈ before ++ ':' :: behind, (!isLineControl char) = true := by
    intro char occurs
    rcases parts char occurs with plain | rfl
    · rw [(ne_of_isPlain plain).2.2.2]
      rfl
    · decide
  have uncodedBefore : ∀ char ∈ before, char ≠ ':' :=
    fun char occurs => (ne_of_isPlain (plainBefore char occurs)).2.2.1
  have uncodedBehind : ∀ char ∈ behind, char ≠ ':' :=
    fun char occurs => (ne_of_isPlain (plainBehind char occurs)).2.2.1
  rw [shownPiece, unescapeBrackets_of_ne unescaped, expandCodes_append uncodedBefore,
    expandCodes_colon uncodedBehind, List.filter_eq_self.mpr placed]

/-- Plain text around a colon, in red, is shown as it stands. -/
theorem shownText?_red_of_plain (plainBefore : before.all isPlain = true)
    (plainBehind : behind.all isPlain = true) :
    shownText? ("[red]".toList ++ ((before ++ ':' :: behind) ++ "[/red]".toList)) =
      some (before ++ ':' :: behind) := by
  have untagged : ∀ char ∈ before ++ ':' :: behind, char ≠ '[' ∧ char ≠ '\\' := by
    intro char occurs
    rcases plain_or_colon plainBefore plainBehind char occurs with plain | rfl
    · exact ⟨(ne_of_isPlain plain).1, (ne_of_isPlain plain).2.1⟩
    · decide
  have nonempty : before ++ ':' :: behind ≠ [] := by simp
  rw [shownText?_red nonempty untagged, shownPiece_of_plain plainBefore plainBehind]

end Colon

theorem isPlain_of_isDigit {char : Char} (digit : char.isDigit = true) : isPlain char = true := by
  have bounds : 48 ≤ char.toNat ∧ char.toNat ≤ 57 := by
    simpa [Char.isDigit, UInt32.le_iff_toNat_le] using digit
  have placed : isLineControl char = false := by
    simp only [isLineControl, decide_eq_false_iff_not, List.mem_cons, List.not_mem_nil, or_false,
      not_or]
    refine ⟨?_, ?_, ?_, ?_, ?_⟩ <;> omega
  have other : ∀ special : Char, special.isDigit = false → char ≠ special := by
    rintro special noDigit rfl
    rw [digit] at noDigit
    cases noDigit
  simp [isPlain, placed, other '[' rfl, other '\\' rfl, other ':' rfl]

/-- Integers are written in plain characters. -/
theorem all_isPlain_toString (number : Int) : (toString number).toList.all isPlain = true := by
  have digits : ∀ natural : Nat, natural.repr.toList.all isPlain = true := by
    intro natural
    rw [Nat.toList_repr, List.all_eq_true]
    intro char occurs
    exact isPlain_of_isDigit (Nat.isDigit_of_mem_toDigits (by decide) (by decide) occurs)
  rw [Int.toString_eq_repr, Int.repr_eq_if]
  split
  · exact digits _
  · rw [String.toList_append, List.all_append, digits]
    decide

namespace Notice

theorem markup_eq (notice : Notice) :
    notice.markup = "[red]".toList ++ (("❌ ".toList ++ notice.body) ++ "[/red]".toList) := by
  have front : "[red]❌ ".toList = "[red]".toList ++ "❌ ".toList := by decide
  -- The equation of the definition would be proved by reading its literals.
  delta markup
  rw [front]
  simp only [List.append_assoc]

theorem body_failed (subcommand command : String) (status : Int) :
    (failed subcommand status command).body =
      (subcommand ++ " failed (exit " ++ toString status ++ "): " ++ command).toList := rfl

/-- The notice of a failed subcommand shows its name, its status and the command as they are. -/
theorem shown_failed {subcommand command : String} (status : Int)
    (plainName : subcommand.toList.all isPlain = true)
    (plainCommand : command.toList.all isPlain = true) (width : Nat) :
    (failed subcommand status command).shown width =
      printed width
        ("❌ " ++ subcommand ++ " failed (exit " ++ toString status ++ "): " ++ command).toList := by
  have middle : "): ".toList = ')' :: ':' :: [' '] := by decide
  have plainBefore : ("❌ ".toList ++ (subcommand.toList ++ (" failed (exit ".toList ++
      ((toString status).toList ++ [')'])))).all isPlain = true := by
    simp only [List.all_append, plainName, all_isPlain_toString]
    decide
  have plainBehind : (' ' :: command.toList).all isPlain = true := by
    rw [List.all_cons, plainCommand]
    decide
  have marked := shownText?_red_of_plain plainBefore plainBehind
  have text :
      ("❌ " ++ subcommand ++ " failed (exit " ++ toString status ++ "): " ++ command).toList =
        "❌ ".toList ++ (failed subcommand status command).body := by
    simp only [body_failed, String.toList_append, List.append_assoc]
  have cut : "❌ ".toList ++ (failed subcommand status command).body =
      "❌ ".toList ++ (subcommand.toList ++ (" failed (exit ".toList ++
        ((toString status).toList ++ [')']))) ++ ':' :: ' ' :: command.toList := by
    simp only [body_failed, String.toList_append, middle, List.append_assoc, List.cons_append,
      List.nil_append]
  simp only [shown, joinedLines, markup_eq, text, cut, marked, Option.getD_some, printed]

end Notice

end BuildSteps.Console
