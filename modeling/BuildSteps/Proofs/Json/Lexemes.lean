import BuildSteps.Proofs.Json.Reader
import BuildSteps.Value.Record

/-!
# The reader on written numbers and strings

An integer is written by its sign and its digits, which are read back as that integer. A string is
written in ASCII by the escapes of its UTF-16 units. The reader is followed through it with any rest
behind it: the units reach the reader one by one (`Reader.run_content`) and are joined to the same
characters (`joinUnits?_flatMap`).
-/

namespace BuildSteps.Json

/-! ### Numbers -/

theorem head?_toDigits {number : Nat} (positive : 0 < number) :
    (Nat.toDigits 10 number).head? ≠ some '0' := by
  induction number using Nat.strongRecOn with
  | _ number ih =>
      by_cases small : number < 10
      · rw [Nat.toDigits_of_lt_base small, List.head?_cons, ne_eq, Option.some.injEq,
          Nat.digitChar_eq_zero]
        omega
      · have first := ih (number / 10) (by omega) (by omega)
        rw [Nat.toDigits_of_base_le (by omega) (by omega)]
        cases digits : Nat.toDigits 10 (number / 10) with
        | nil => exact absurd digits Nat.toDigits_ne_nil
        | cons digit others =>
            rw [digits] at first
            exact first

theorem all_isDigit_toDigits (number : Nat) :
    ∀ digit ∈ Nat.toDigits 10 number, digit.isDigit = true := by
  intro digit occurs
  exact Nat.isDigit_of_mem_toDigits (by omega) (by omega) occurs

theorem isWholePart_toDigits (number : Nat) : isWholePart (Nat.toDigits 10 number) = true := by
  rw [isWholePart, decide_eq_true_eq]
  rcases Nat.eq_zero_or_pos number with rfl | positive
  · exact Or.inl (by decide)
  · exact Or.inr ⟨Nat.toDigits_ne_nil, head?_toDigits positive⟩

/-- Integers are written by their sign and their digits. -/
theorem toList_toString (number : Int) :
    (toString number).toList =
      Text.withSign (decide (number < 0)) (Nat.toDigits 10 number.natAbs) := by
  rw [Int.toString_eq_repr, Int.repr_eq_if]
  by_cases negative : number < 0
  · have size : (-number).toNat = number.natAbs := by omega
    rw [if_neg (by omega), String.toList_append, Nat.toList_repr, size, decide_eq_true negative]
    rfl
  · have size : number.toNat = number.natAbs := by omega
    rw [if_pos (by omega), Nat.toList_repr, size, decide_eq_false negative]
    rfl

/-- A sign put in front of digits is split off again. -/
theorem splitSign_withSign {digits : List Char}
    (allDigits : ∀ digit ∈ digits, digit.isDigit = true) (negative : Bool) :
    Text.splitSign (Text.withSign negative digits) = (negative, digits) := by
  cases negative with
  | true => rfl
  | false =>
      simp only [Text.withSign, Text.splitSign, Bool.false_eq_true, if_false]
      split
      · have impossible := allDigits '-' (List.mem_cons_self ..)
        exact absurd impossible (by decide)
      · rfl

/-- An integer that is written is read as itself. -/
theorem number?_toString (number : Int) :
    number? (toString number).toList = some (.number number 0) := by
  have allDigits := all_isDigit_toDigits number.natAbs
  have whole : (Nat.toDigits 10 number.natAbs ++ []).takeWhile Char.isDigit = _ :=
    List.takeWhile_append_of_pos allDigits
  have nothing : (Nat.toDigits 10 number.natAbs ++ []).dropWhile Char.isDigit = _ :=
    List.dropWhile_append_of_pos allDigits
  have value : Decimal.signed (decide (number < 0)) number.natAbs = number := by
    by_cases negative : number < 0
    · simp only [Decimal.signed, negative, decide_true, if_true]
      omega
    · simp only [Decimal.signed, negative, decide_false, Bool.false_eq_true, if_false]
      omega
  simp only [List.append_nil, List.takeWhile_nil, List.dropWhile_nil] at whole nothing
  simp only [number?, toList_toString, splitSign_withSign allDigits, whole, nothing,
    isWholePart_toDigits, if_true, fraction?, exponent?, List.append_nil,
    Nat.ofDigitChars_ten_toDigits, Option.map_some, value]
  rfl

/-- A number is none of the words. -/
theorem scalar?_of_number? {letters : List Char} {json : Json}
    (isNumber : number? letters = some json) : scalar? letters = some json := by
  have noWord : ∀ word : List Char, number? word = none → letters ≠ word := by
    intro word noNumber same
    rw [same, noNumber] at isNumber
    cases isNumber
  rw [scalar?, if_neg (noWord _ rfl), if_neg (noWord _ rfl), if_neg (noWord _ rfl), isNumber]

/-- The digits have code points of their own, without a gap. -/
theorem toNat_of_isDigit {char : Char} (digit : char.isDigit = true) :
    48 ≤ char.toNat ∧ char.toNat ≤ 57 := by
  simpa [Char.isDigit, UInt32.le_iff_toNat_le] using digit

theorem isDelimiter_of_isDigit {char : Char} (digit : char.isDigit = true) :
    isDelimiter char = false := by
  rw [← Bool.not_eq_true]
  intro delimiter
  simp only [isDelimiter, isSpace, isMark, Bool.or_eq_true, beq_iff_eq, or_assoc] at delimiter
  rcases delimiter with rfl | rfl | rfl | rfl | rfl | rfl | rfl | rfl | rfl | rfl | rfl <;>
    exact absurd digit (by decide)

theorem isSpace_of_isMark {char : Char} (marks : isMark char = true) : isSpace char = false := by
  simp only [isMark, Bool.or_eq_true, beq_iff_eq, or_assoc] at marks
  rcases marks with rfl | rfl | rfl | rfl | rfl | rfl <;> rfl

theorem isDelimiter_of_isMark {char : Char} (marks : isMark char = true) :
    isDelimiter char = true := by
  simp [isDelimiter, marks]

theorem isDelimiter_of_mem_toString {number : Int} :
    ∀ letter ∈ (toString number).toList, isDelimiter letter = false := by
  intro letter occurs
  have inDigits : letter ∈ Nat.toDigits 10 number.natAbs → isDelimiter letter = false := by
    intro digit
    exact isDelimiter_of_isDigit (all_isDigit_toDigits _ letter digit)
  rw [toList_toString, Text.withSign] at occurs
  split at occurs
  · rcases List.mem_cons.mp occurs with rfl | digit
    · rfl
    · exact inDigits digit
  · exact inDigits occurs

namespace Reader

theorem run_cons (reader : Reader) (char : Char) (rest : List Char) :
    run reader (char :: rest) = (reader.step char).bind fun next => run next rest := by
  rw [run, List.foldlM_cons]
  rfl

theorem run_cons_of_step {reader next : Reader} {char : Char}
    (stepped : reader.step char = some next) (rest : List Char) :
    run reader (char :: rest) = run next rest := by
  rw [run_cons, stepped, Option.bind_some]

theorem run_mark {stage next : Stage} {mark : Char} (marks : isMark mark = true)
    (taken : stage.takeMark mark = some next) (rest : List Char) :
    run ⟨.between, stage⟩ (mark :: rest) = run ⟨.between, next⟩ rest := by
  apply run_cons_of_step
  simp only [step, start, isSpace_of_isMark marks, marks, taken, Bool.false_eq_true, if_false,
    if_true, Option.map_some]

/-- Letters that are no delimiters are gathered. -/
theorem run_bare (stage : Stage) {letters : List Char} (rest : List Char)
    (bare : ∀ letter ∈ letters, isDelimiter letter = false) (before : List Char) :
    run ⟨.bare before, stage⟩ (letters ++ rest) = run ⟨.bare (before ++ letters), stage⟩ rest := by
  induction letters generalizing before with
  | nil => rw [List.nil_append, List.append_nil]
  | cons letter others ih =>
      have first := bare letter (List.mem_cons_self ..)
      have stepped : step ⟨.bare before, stage⟩ letter =
          some ⟨.bare (before ++ [letter]), stage⟩ := by
        simp only [step, first, Bool.false_eq_true, if_false]
      rw [List.cons_append, run_cons_of_step stepped,
        ih (fun later occurs => bare later (List.mem_cons_of_mem _ occurs)), List.append_assoc]
      rfl

end Reader

/-! ### Strings -/

theorem hexValue?_hexDigit {number : Nat} (small : number < 16) :
    hexValue? (Text.hexDigit number) = some number := by
  have allDigits : ∀ digit : Fin 16, hexValue? (Text.hexDigit digit) = some digit.val := by decide
  exact allDigits ⟨number, small⟩

theorem lt_of_mem_utf16Units {char : Char} : ∀ unit ∈ utf16Units char, unit < 0x10000 := by
  have bound : char.toNat < 0x110000 := by
    rcases char.valid with low | ⟨-, high⟩
    · exact Nat.lt_trans low (by decide)
    · exact high
  intro unit occurs
  simp only [utf16Units] at occurs
  split at occurs
  · simp only [List.mem_singleton] at occurs
    omega
  · simp only [List.mem_cons, List.not_mem_nil, or_false] at occurs
    omega

theorem joinUnits?_cons_of_scalar {unit : Nat} (scalar : unit < 0xD800 ∨ 0xE000 ≤ unit)
    (rest : List Nat) :
    joinUnits? (unit :: rest) = (joinUnits? rest).map (Char.ofNat unit :: ·) := by
  rw [joinUnits?.eq_def]
  simp only [scalar, if_true]

theorem joinUnits?_cons_cons_of_pair {high low : Nat} (opens : 0xD800 ≤ high ∧ high < 0xDC00)
    (closes : 0xDC00 ≤ low ∧ low < 0xE000) (rest : List Nat) :
    joinUnits? (high :: low :: rest) =
      (joinUnits? rest).map
        (Char.ofNat (0x10000 + (high - 0xD800) * 0x400 + (low - 0xDC00)) :: ·) := by
  rw [joinUnits?, if_neg (by omega), if_pos (by omega)]

/-- The units of a character are joined to it, whatever follows. -/
theorem joinUnits?_append (char : Char) (rest : List Nat) :
    joinUnits? (utf16Units char ++ rest) = (joinUnits? rest).map (char :: ·) := by
  have same := Char.ofNat_toNat char
  have scalar : char.toNat < 0xD800 ∨ 0xE000 ≤ char.toNat ∧ char.toNat < 0x110000 := by
    rcases char.valid with low | ⟨above, high⟩
    · exact Or.inl low
    · exact Or.inr ⟨above, high⟩
  -- A character beyond the basic plane has two units, the halves of a surrogate pair.
  simp only [utf16Units]
  split
  · rw [List.singleton_append, joinUnits?_cons_of_scalar (by omega), same]
  · have halves : 0x10000 + (0xD800 + (char.toNat - 0x10000) / 0x400 - 0xD800) * 0x400 +
        (0xDC00 + (char.toNat - 0x10000) % 0x400 - 0xDC00) = char.toNat := by omega
    rw [List.cons_append, List.singleton_append,
      joinUnits?_cons_cons_of_pair (by omega) (by omega), halves, same]

theorem joinUnits?_flatMap (content : List Char) :
    joinUnits? (content.flatMap utf16Units) = some content := by
  induction content with
  | nil => rfl
  | cons char rest ih => rw [List.flatMap_cons, joinUnits?_append, ih, Option.map_some]

theorem unitEscapes_eq (char : Char) :
    Value.unitEscapes char = (utf16Units char).flatMap Value.unitEscape := by
  simp only [Value.unitEscapes, utf16Units]
  split <;> simp

namespace Reader

variable {stage : Stage}

theorem run_backslash (units : List Nat) (rest : List Char) :
    run ⟨.text units, stage⟩ ('\\' :: rest) = run ⟨.escape units, stage⟩ rest :=
  run_cons_of_step rfl rest

theorem run_escape {letter char : Char} (meant : escaped? letter = some char)
    (noUnit : letter ≠ 'u') (units : List Nat) (rest : List Char) :
    run ⟨.escape units, stage⟩ (letter :: rest) =
      run ⟨.text (units ++ utf16Units char), stage⟩ rest := by
  apply run_cons_of_step
  simp only [step, noUnit, if_false, meant, Option.map_some]

theorem run_hexDigit {digit : Nat} (small : digit < 16) (units : List Nat) (more value : Nat)
    (rest : List Char) :
    run ⟨.hex units (more + 1) value, stage⟩ (Text.hexDigit digit :: rest) =
      run ⟨.hex units more (16 * value + digit), stage⟩ rest := by
  apply run_cons_of_step
  simp only [step, hexValue?_hexDigit small, Option.map_some]

theorem run_lastHexDigit {digit : Nat} (small : digit < 16) (units : List Nat) (value : Nat)
    (rest : List Char) :
    run ⟨.hex units 0 value, stage⟩ (Text.hexDigit digit :: rest) =
      run ⟨.text (units ++ [16 * value + digit]), stage⟩ rest := by
  apply run_cons_of_step
  simp only [step, hexValue?_hexDigit small, Option.map_some]

/-- The escape of a unit is read as that unit. -/
theorem run_unitEscape {unit : Nat} (bound : unit < 0x10000) (units : List Nat)
    (rest : List Char) :
    run ⟨.text units, stage⟩ (Value.unitEscape unit ++ rest) =
      run ⟨.text (units ++ [unit]), stage⟩ rest := by
  have digits : Value.unitEscape unit ++ rest =
      '\\' :: 'u' :: Text.hexDigit (unit / 16 / 16 / 16 % 16) ::
        Text.hexDigit (unit / 16 / 16 % 16) :: Text.hexDigit (unit / 16 % 16) ::
          Text.hexDigit (unit % 16) :: rest := rfl
  have value : 16 * (16 * (16 * (16 * 0 + unit / 16 / 16 / 16 % 16) + unit / 16 / 16 % 16) +
      unit / 16 % 16) + unit % 16 = unit := by omega
  have opened : step ⟨.escape units, stage⟩ 'u' = some ⟨.hex units 3 0, stage⟩ := rfl
  have small : ∀ number, number % 16 < 16 := fun number => Nat.mod_lt number (by decide)
  rw [digits, run_backslash, run_cons_of_step opened, run_hexDigit (small _),
    run_hexDigit (small _), run_hexDigit (small _), run_lastHexDigit (small _), value]

/-- The escapes of units are read as those units. -/
theorem run_unitEscapes {further : List Nat} (bounds : ∀ unit ∈ further, unit < 0x10000)
    (units : List Nat) (rest : List Char) :
    run ⟨.text units, stage⟩ (further.flatMap Value.unitEscape ++ rest) =
      run ⟨.text (units ++ further), stage⟩ rest := by
  induction further generalizing units with
  | nil => rw [List.flatMap_nil, List.nil_append, List.append_nil]
  | cons unit others ih =>
      rw [List.flatMap_cons, List.append_assoc,
        run_unitEscape (bounds unit (List.mem_cons_self ..)),
        ih (fun later occurs => bounds later (List.mem_cons_of_mem _ occurs)), List.append_assoc]
      rfl

/-- A character stands for itself, has an escape by a letter, or is escaped by its units. -/
theorem recordChar_cases (char : Char) :
    (∃ letter, Value.recordChar char = ['\\', letter] ∧ escaped? letter = some char ∧
        letter ≠ 'u') ∨
      (Value.recordChar char = [char] ∧ char ≠ '"' ∧ char ≠ '\\' ∧ 0x20 ≤ char.toNat) ∨
      Value.recordChar char = Value.unitEscapes char := by
  unfold Value.recordChar
  split
  · rename_i same
    exact Or.inl ⟨'"', rfl, by rw [same]; rfl, by decide⟩
  · split
    · rename_i same
      exact Or.inl ⟨'\\', rfl, by rw [same]; rfl, by decide⟩
    · iterate 5
        split
        · rename_i same
          exact Or.inl ⟨_, rfl, by rw [same]; rfl, by decide⟩
      split
      · rename_i noQuote noBackslash _ _ _ _ _ plain
        exact Or.inr (Or.inl ⟨rfl, noQuote, noBackslash, plain.1⟩)
      · exact Or.inr (Or.inr rfl)

/-- A character as it is written, escaped or not, is read as its units. -/
theorem run_recordChar (char : Char) (units : List Nat) (rest : List Char) :
    run ⟨.text units, stage⟩ (Value.recordChar char ++ rest) =
      run ⟨.text (units ++ utf16Units char), stage⟩ rest := by
  rcases recordChar_cases char with
    ⟨letter, written, meant, noUnit⟩ | ⟨written, noQuote, noBackslash, noControl⟩ | written
  · rw [written, List.cons_append, List.singleton_append, run_backslash, run_escape meant noUnit]
  · rw [written, List.singleton_append]
    apply run_cons_of_step
    simp only [step, noQuote, noBackslash, if_false, Nat.not_lt.mpr noControl]
  · rw [written, unitEscapes_eq, run_unitEscapes lt_of_mem_utf16Units]

/-- The content of a written string is read as the units of its characters. -/
theorem run_content (content : List Char) (units : List Nat) (rest : List Char) :
    run ⟨.text units, stage⟩ (content.flatMap Value.recordChar ++ rest) =
      run ⟨.text (units ++ content.flatMap utf16Units), stage⟩ rest := by
  induction content generalizing units with
  | nil => rw [List.flatMap_nil, List.flatMap_nil, List.nil_append, List.append_nil]
  | cons char others ih =>
      rw [List.flatMap_cons, List.append_assoc, run_recordChar, ih, List.append_assoc,
        List.flatMap_cons]

/-- A written string is taken as a whole. -/
theorem run_recordText {content : List Char} {next : Stage}
    (taken : stage.takeText (String.ofList content) = some next) (rest : List Char) :
    run ⟨.between, stage⟩ (Value.recordText content ++ rest) = run ⟨.between, next⟩ rest := by
  have opened : step ⟨.between, stage⟩ '"' = some ⟨.text [], stage⟩ := rfl
  have closed : step ⟨.text (content.flatMap utf16Units), stage⟩ '"' = some ⟨.between, next⟩ := by
    simp only [step, if_true, joinUnits?_flatMap, Option.bind_some, taken, Option.map_some]
  rw [Value.recordText, List.cons_append, List.cons_append, List.append_assoc,
    run_cons_of_step opened, run_content, List.nil_append, List.singleton_append,
    run_cons_of_step closed]

end Reader

end BuildSteps.Json
