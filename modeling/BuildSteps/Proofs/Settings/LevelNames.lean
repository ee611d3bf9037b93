import BuildSteps.Proofs.Settings.Supplied
import BuildSteps.Proofs.Text.Capitals
import BuildSteps.Proofs.Text.Trimming
import Mathlib.Data.Bool.AllAny
import Mathlib.Data.List.Infix

/-!
# Names of levels

A level is read from a text by trimming it and bringing it into capitals. This file says which texts
name a level without a look at either: between blanks, each letter of the name is spelled by a
single character. The argument is about the names. They hold no capital form of several characters,
so they are spelled letter by letter, and they hold no S, so the dotless i is the only character
outside ASCII that takes part.
-/

namespace BuildSteps

namespace Level

/-- A character spells a capital letter if it is that letter in either case, or the dotless i for
I. -/
def Spells (char letter : Char) : Prop :=
  char = letter ∨ char = letter.toLower ∨ (char = 'ı' ∧ letter = 'I')

/-- A text names a level if, between blanks, it spells the name of the level letter by letter. -/
def IsNamedBy (level : Level) (text : String) : Prop :=
  ∃ word, Text.StandsIn Text.isBlank word text.toList ∧
    List.Forall₂ Spells word level.name.toList

theorem isUnmixed_name (level : Level) : Text.IsUnmixed level.name.toList := by
  unfold Text.IsUnmixed
  cases level <;> decide

theorem letter_of_name (level : Level) :
    ∀ letter ∈ level.name.toList, letter.isUpper = true ∧ letter ≠ 'S' := by
  refine List.all_iff_forall_prop.mp ?_
  cases level <;> decide

theorem not_isBlank_of_name (level : Level) :
    ∀ letter ∈ level.name.toList,
      Text.isBlank letter = false ∧ Text.isBlank letter.toLower = false := by
  refine List.all_iff_forall_prop.mp ?_
  cases level <;> decide

variable {level : Level} {text : String}

theorem standsFor_iff_spells {letter : Char} (occurs : letter ∈ level.name.toList) (char : Char) :
    Text.StandsFor char letter ↔ Spells char letter := by
  rcases level.letter_of_name letter occurs with ⟨upper, notS⟩
  simp [Text.standsFor_iff upper, Spells, notS]

theorem not_isBlank_of_spells {char letter : Char} (occurs : letter ∈ level.name.toList)
    (spells : Spells char letter) : Text.isBlank char = false := by
  rcases level.not_isBlank_of_name letter occurs with ⟨capital, small⟩
  rcases spells with rfl | rfl | ⟨rfl, -⟩
  · exact capital
  · exact small
  · decide

/-- Characters stand for the letters of a name iff they spell it, where this is so of each letter.
-/
theorem forall₂_standsFor_iff {word name : List Char}
    (letters : ∀ letter ∈ name, ∀ char, Text.StandsFor char letter ↔ Spells char letter) :
    List.Forall₂ Text.StandsFor word name ↔ List.Forall₂ Spells word name := by
  induction name generalizing word with
  | nil => simp
  | cons letter rest ih =>
      rw [List.forall_mem_cons] at letters
      simp only [List.forall₂_cons_right_iff, letters.1, ih letters.2]

/-- A word that spells the name of a level has no blanks at its ends. -/
theorem isBare_of_forall₂ {word : List Char}
    (spelled : List.Forall₂ Spells word level.name.toList) :
    Text.IsBare Text.isBlank word := by
  apply Text.isBare_of_forall
  intro char occurs
  rcases List.getElem_of_mem occurs with ⟨position, inside, rfl⟩
  have within : position < level.name.toList.length := by
    rw [← spelled.length_eq]
    exact inside
  apply not_isBlank_of_spells (List.getElem_mem within)
  exact spelled.get inside within

/-- The trimmed text in capitals is the name of a level iff it names that level. -/
theorem name_eq_capitals_iff :
    level.name.toList = Text.capitals (Text.trim Text.isBlank text.toList) ↔
      level.IsNamedBy text := by
  rw [eq_comm, Text.capitals_eq_iff level.isUnmixed_name,
    forall₂_standsFor_iff fun letter occurs => standsFor_iff_spells occurs]
  constructor
  · intro spelled
    exact ⟨_, Text.standsIn_trim _, spelled⟩
  · rintro ⟨word, stands, spelled⟩
    rw [Text.trim_eq_iff.mpr ⟨isBare_of_forall₂ spelled, stands⟩]
    exact spelled

theorem name_injective {other : Level} (same : level.name.toList = other.name.toList) :
    level = other := by
  revert same
  cases level <;> cases other <;> decide

theorem mem_all (level : Level) : level ∈ all := by
  cases level <;> decide

end Level

namespace Settings

variable {environment : Environment} {keywords : List (String × Value)} {text : String}

/-- A text is read as a level iff it names it. -/
theorem readLevel_text_eq_ok_iff {level : Level} :
    readLevel (.text text) = .ok level ↔ level.IsNamedBy text := by
  rw [← Level.name_eq_capitals_iff]
  simp only [readLevel, Value.plainText]
  split
  · rename_i found named
    have chosen := List.find?_some named
    have spelled := of_decide_eq_true chosen
    rw [← spelled, Except.ok.injEq]
    constructor
    · rintro rfl
      rfl
    · intro same
      exact (Level.name_injective same).symm
  · rename_i unnamed
    rw [List.find?_eq_none] at unnamed
    have other := mt decide_eq_true (unnamed level level.mem_all)
    simp [other]

/-- A text that names no level is refused with that text. -/
theorem readLevel_text_of_unnamed (unnamed : ∀ level : Level, ¬level.IsNamedBy text) :
    readLevel (.text text) = .error (.unknownLevel text.toList) := by
  cases read : readLevel (.text text) with
  | ok level => exact absurd (readLevel_text_eq_ok_iff.mp read) (unnamed level)
  | error problem =>
      simp only [readLevel, Value.plainText] at read
      split at read <;> cases read
      rfl

/-- The message about a text that names no level quotes it and lists the five names. -/
theorem message_unknownLevel (text : String) :
    (Problem.unknownLevel text.toList).message = "Value error, Invalid log level '" ++ text ++
      "' (expected one of: DEBUG, INFO, WARNING, ERROR, CRITICAL)" := by
  have names : ", ".intercalate (Level.all.map Level.name) ++ ")" =
      "DEBUG, INFO, WARNING, ERROR, CRITICAL)" := by decide
  have listed : "' (expected one of: " ++ "DEBUG, INFO, WARNING, ERROR, CRITICAL)" =
      "' (expected one of: DEBUG, INFO, WARNING, ERROR, CRITICAL)" := by decide
  delta Problem.message
  simp only [String.ofList_toList]
  rw [String.append_assoc, String.append_assoc, names, listed]

/-- A text that is supplied as the level is accepted if and only if it names one, and loaded
settings have the level that it names. Otherwise it is reported once, with a message that quotes it
as it was given. -/
theorem load_level_named (supplied : Setting.logLevel.Supplied text environment keywords) :
    let loaded := load environment keywords
    ((∃ settings, loaded = .ok settings) ↔ ∀ setting, reportsOn setting loaded = []) ∧
      (reportsOn .logLevel loaded = [] ↔ ∃ level : Level, level.IsNamedBy text) ∧
      (∀ settings, loaded = .ok settings →
        ∀ level : Level, level.IsNamedBy text ↔ level = settings.logLevel) ∧
      ((∀ level : Level, ¬level.IsNamedBy text) →
        ∃ report, reportsOn .logLevel loaded = [report] ∧ report.problem.kind = "value_error" ∧
          report.problem.message = "Value error, Invalid log level '" ++ text ++
            "' (expected one of: DEBUG, INFO, WARNING, ERROR, CRITICAL)") := by
  intro loaded
  have reports : reportsOn .logLevel loaded = invalid? .logLevel (some (.text text))
      (readLevel (.text text)) := reportsOn_of_supplied supplied
  refine ⟨exists_load_iff, ?_, ?_, ?_⟩
  · rw [reports, invalid?_eq_nil_iff]
    exact exists_congr fun level => readLevel_text_eq_ok_iff
  · intro settings success level
    have holds : readLevel (.text text) = .ok settings.logLevel :=
      holds_of_supplied supplied success
    rw [← readLevel_text_eq_ok_iff, holds, Except.ok.injEq]
    exact eq_comm
  · intro unnamed
    rw [reports, readLevel_text_of_unnamed unnamed]
    refine ⟨⟨.logLevel, .unknownLevel text.toList, .text text⟩, rfl, rfl, ?_⟩
    exact message_unknownLevel text

/-- A level with a wide blank before it, a separator behind it, and the dotless i in it. -/
theorem load_level_named_dotless :
    let text := "\u3000wArnıng\x1f"
    let environment : Environment := [("Ci_Build_Log_Level", text)]
    Setting.logLevel.Supplied text environment [] ∧ Level.warning.IsNamedBy text ∧
      load environment [] = .ok { logLevel := .warning } := by
  intro text environment
  have counts : Setting.logLevel.IsCounted ("Ci_Build_Log_Level", text) := by decide
  have inForce : Setting.logLevel.InForce text environment :=
    ⟨[], _, [], rfl, counts, by simp⟩
  have supplied : Setting.logLevel.Supplied text environment [] := Or.inr ⟨rfl, inForce⟩
  have loaded : load environment [] = .ok { logLevel := .warning } := by
    simp only [environment, text]
    rfl
  have named := (load_level_named supplied).2.2.1 _ loaded .warning
  exact ⟨supplied, named.mpr rfl, loaded⟩

end Settings

end BuildSteps
