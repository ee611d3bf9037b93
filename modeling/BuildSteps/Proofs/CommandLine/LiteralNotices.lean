import BuildSteps.Proofs.CommandLine.StatusTable
import BuildSteps.Proofs.Console.LiteralText
import Mathlib.Data.Bool.AllAny

/-!
# Texts from outside in notices

Two notices quote what was given from outside: the report on invalid settings, and the wording for
an unknown subcommand. Both texts are escaped, and neither ends in a backslash that would reach the
closing tag. So the notice is always shown, none of its text is read as a tag, and
`run_notice_literal` says when the text is shown as it stands.
-/

namespace BuildSteps

namespace Console

section Escaping

variable {text : List Char}

theorem getLast?_escapeTags (text : List Char) : (escapeTags text).getLast? = text.getLast? := by
  induction text with
  | nil => rfl
  | cons char rest ih =>
      have behind : (char :: escapeTags rest).getLast? = (char :: rest).getLast? := by
        rw [List.getLast?_cons, List.getLast?_cons, ih]
      rw [escapeTags]
      split
      · rw [List.getLast?_cons_cons, behind]
      · exact behind

/-- A text that does not end in a backslash is escaped at its tags only. -/
theorem escape_eq (last : text.getLast? ≠ some '\\') : escape text = escapeTags text := by
  have single : endsInBackslash (escapeTags text) = false := by
    rw [← getLast?_escapeTags, ← List.head?_reverse] at last
    unfold endsInBackslash
    split
    · rfl
    · rename_i slash
      rw [slash] at last
      exact absurd rfl last
    · rfl
  simp only [escape, single, Bool.false_eq_true, if_false]

/-- An escaped text behind characters that need no escape is part of a longer escaped text. -/
theorem append_escape {front : List Char} (plain : ∀ char ∈ front, char ≠ '[' ∧ char ≠ '\\')
    (last : text.getLast? ≠ some '\\') : front ++ escape text = escapeTags (front ++ text) := by
  rw [escape_eq last, (isUntagged_of_ne plain text).escapeTags]

end Escaping

/-- Markup announces a text if the markup is the text between the tags of red, where it is cut into
plain pieces, and the text is shown as it stands if and only if all of these are literal. -/
structure Announces (markup text : List Char) : Prop where
  pieces : markupPieces markup =
    .tag "red".toList :: ((segments text).flatMap plainPiece ++ [.tag "/red".toList])
  whole : (segments text).flatten = text
  shown : shownText? markup = some (rendered text)
  literal : rendered text = text ↔ ∀ segment ∈ segments text, IsLiteral segment

theorem announces_red {text : List Char} (last : text.getLast? ≠ some '\\') :
    Announces ("[red]".toList ++ (escapeTags text ++ "[/red]".toList)) text where
  pieces := markupPieces_red_escapeTags last
  whole := flatten_segments text
  shown := shownText?_red_escapeTags last
  literal := rendered_eq_self_iff

/-- A text ends plainly if its last character is no backslash. -/
def EndsPlainly (text : String) : Prop :=
  text.toList.getLast?.any (· ≠ '\\') = true

section Endings

variable {text : String}

theorem EndsPlainly.getLast?_ne (ends : EndsPlainly text) : text.toList.getLast? ≠ some '\\' := by
  intro slash
  rw [EndsPlainly, slash] at ends
  exact absurd ends (by decide)

theorem EndsPlainly.append (ends : EndsPlainly text) (front : String) :
    EndsPlainly (front ++ text) := by
  rw [EndsPlainly] at ends
  cases last : text.toList.getLast? with
  | none =>
      rw [last] at ends
      cases ends
  | some char =>
      rw [last] at ends
      rw [EndsPlainly, String.toList_append, List.getLast?_append, last]
      exact ends

/-- Texts that end plainly, joined by any mark, end plainly. -/
theorem endsPlainly_intercalate {texts : List String} (nonempty : texts ≠ [])
    (each : ∀ text ∈ texts, EndsPlainly text) (mark : String) :
    EndsPlainly (mark.intercalate texts) := by
  induction texts with
  | nil => exact absurd rfl nonempty
  | cons first rest ih =>
      rw [List.forall_mem_cons] at each
      cases rest with
      | nil => simpa using each.1
      | cons next others =>
          rw [String.intercalate_cons_cons]
          exact (ih (List.cons_ne_nil _ _) each.2).append _

theorem endsPlainly_unknownWording (name : String) (known : List String) :
    EndsPlainly (unknownWording name known) :=
  EndsPlainly.append (show EndsPlainly ")" from rfl) _

/-- Each line about an invalid setting ends plainly, whatever was given. -/
theorem endsPlainly_lines (invalid : InvalidSetting) :
    ∀ line ∈ invalid.lines, EndsPlainly line := by
  rcases invalid with ⟨setting, problem, given⟩
  have name : EndsPlainly setting.name := by
    cases setting <;> exact rfl
  have kind : EndsPlainly problem.kind := by
    cases problem <;> simp only [Problem.kind] <;> exact rfl
  have bracket : EndsPlainly "]" := rfl
  intro line occurs
  simp only [InvalidSetting.lines, List.mem_append, List.mem_cons, List.not_mem_nil, or_false]
    at occurs
  rcases occurs with (rfl | rfl) | page
  · exact name
  · exact bracket.append _
  · split at page
    · rw [List.mem_singleton.mp page]
      exact kind.append _
    · cases page

/-- A report on invalid settings ends plainly. -/
theorem endsPlainly_report (invalids : List InvalidSetting) :
    EndsPlainly (InvalidSetting.report invalids) := by
  have heading : EndsPlainly " for CIBuildSettings" := rfl
  apply endsPlainly_intercalate (List.cons_ne_nil _ _)
  rw [List.forall_mem_cons]
  refine ⟨heading.append _, ?_⟩
  intro line occurs
  rcases List.mem_flatMap.mp occurs with ⟨invalid, -, inside⟩
  exact endsPlainly_lines invalid line inside

end Endings

namespace Notice

variable {text : String}

theorem body_unknownSubcommand (text : String) :
    (unknownSubcommand text).body = escape text.toList := rfl

theorem body_invalidSettings (report : String) :
    (invalidSettings report).body = "Invalid settings: ".toList ++ escape report.toList := rfl

theorem announces_unknownSubcommand (ends : EndsPlainly text) :
    Announces (unknownSubcommand text).markup ("❌ " ++ text).toList := by
  have plain : ∀ char ∈ "❌ ".toList, char ≠ '[' ∧ char ≠ '\\' :=
    List.all_iff_forall_prop.mp (by decide)
  rw [markup_eq, body_unknownSubcommand, append_escape plain ends.getLast?_ne,
    ← String.toList_append]
  exact announces_red (ends.append _).getLast?_ne

/-- The notice of invalid settings announces a report that ends plainly. -/
theorem announces_invalidSettings (ends : EndsPlainly text) :
    Announces (invalidSettings text).markup ("❌ Invalid settings: " ++ text).toList := by
  have front : "❌ ".toList ++ "Invalid settings: ".toList = "❌ Invalid settings: ".toList := by
    decide
  have plain : ∀ char ∈ "❌ Invalid settings: ".toList, char ≠ '[' ∧ char ≠ '\\' :=
    List.all_iff_forall_prop.mp (by decide)
  have joined : "❌ ".toList ++ ("Invalid settings: ".toList ++ escape text.toList) =
      escapeTags ("❌ Invalid settings: " ++ text).toList := by
    rw [← List.append_assoc, front, append_escape plain ends.getLast?_ne, ← String.toList_append]
  rw [markup_eq, body_invalidSettings, joined]
  exact announces_red (ends.append _).getLast?_ne

theorem shown_of_announces {notice : Notice} {text : List Char}
    (announces : Announces notice.markup text) (width : Nat) :
    notice.shown width = printed width (rendered text) := by
  simp only [shown, joinedLines, announces.shown, Option.getD_some, printed]

end Notice

end Console

namespace CommandLine

variable {words : List String} {subcommand : Option String} {extra : List String} {world : World}
  {word : String} {width : Nat}

/-- The wording about an unknown word holds one colon outside that word, with a blank behind it.
-/
theorem toList_unknownWording (word : String) :
    ("❌ " ++ unknownWording word ["format", "build", "doc"]).toList =
      ("❌ Unknown subcommand '".toList ++ (word.toList ++ "' (expected one of".toList)) ++
        ':' :: " format, build, doc)".toList := by
  have start : "❌ ".toList ++ "Unknown subcommand '".toList = "❌ Unknown subcommand '".toList := by
    decide
  have ending : "' (expected one of: ".toList ++ ((commaList ["format", "build", "doc"]).toList ++
      ")".toList) = "' (expected one of".toList ++ ':' :: " format, build, doc)".toList := by decide
  delta unknownWording
  simp only [String.toList_append, List.append_assoc]
  rw [ending, ← List.append_assoc, start]

/-- Whatever brackets a harmless word has, it is shown as it stands. -/
theorem rendered_unknownWording (harmless : word.toList.all Console.isHarmless = true) :
    let text := ("❌ " ++ unknownWording word ["format", "build", "doc"]).toList
    Console.rendered text = text := by
  intro text
  have harmlessBefore : ("❌ Unknown subcommand '".toList ++ (word.toList ++
      "' (expected one of".toList)).all Console.isHarmless = true := by
    simp only [List.all_append, harmless]
    decide
  have cut : text = _ := toList_unknownWording word
  rw [cut]
  exact Console.rendered_of_harmless harmlessBefore (by decide) (by decide)

/-- Invalid settings end a run with the status 2 and their notice. -/
theorem run_of_refused_settings (reads : Request.ofWords words = .run subcommand extra)
    (wide : Console.width world.environment = .ok width) {invalids : List InvalidSetting}
    (invalid : Settings.ofEnvironment world.environment = .error invalids) :
    (run words world).ending = .ok 2 ∧
      (run words world).errors =
        (Console.Notice.invalidSettings (InvalidSetting.report invalids)).shown width := by
  simp only [run, reads, Settings.result_get, invalid, announce, showOn, wide]
  exact ⟨rfl, trivial⟩

/-- An unknown word ends a strict run with the status 2 and its notice, behind the records of the
log. -/
theorem run_of_refused_word {word : String} {settings : Settings}
    (reads : Request.ofWords words = .run (some word) extra)
    (wide : Console.width world.environment = .ok width)
    (valid : Settings.ofEnvironment world.environment = .ok settings)
    (strict : settings.strict = true) (nonempty : word ≠ "")
    (unlisted : Table.workspaceActions.steps? (some word) = none) :
    let unknown : Failure := .unknownSubcommand (some word) ["format", "build", "doc"]
    (run words world).ending = .ok 2 ∧
      (run words world).errors = shownLog settings.logLevel (extraRecords extra) ++
        (Console.Notice.unknownSubcommand unknown.message).shown width := by
  intro unknown
  have refused : isRefused settings (some word) = true := by
    simp [isRefused, strict, nonempty]
  have dispatch : dispatched settings (some word) world = ⟨.error unknown, [],
      ⟨world.attempts, none, world.files⟩⟩ :=
    Dispatcher.dispatch_of_refused (stepsFor_of_refused refused unlisted) _
  simp only [dispatched] at dispatch
  simp only [run, reads, Settings.result_get, valid, runWith, dispatch, unknown, conclude, announce,
    showOn, wide, List.append_nil]
  exact ⟨rfl, trivial⟩

/-- The notices on invalid settings and on an unknown word in strict mode are always shown, with no
part of their text read as a tag, and the text is shown as it stands if and only if all of its
segments are literal. It is what the run writes, behind its log, on a console that has a width. -/
theorem run_notice_literal (reads : Request.ofWords words = .run subcommand extra) :
    (∀ invalids, Settings.ofEnvironment world.environment = .error invalids →
      let report := InvalidSetting.report invalids
      let text := ("❌ Invalid settings: " ++ report).toList
      Console.Announces (Console.Notice.invalidSettings report).markup text ∧
        ∀ width, Console.width world.environment = .ok width →
          (run words world).ending = .ok 2 ∧
            (run words world).errors = Console.printed width (Console.rendered text)) ∧
      ∀ settings word, Settings.ofEnvironment world.environment = .ok settings →
        settings.strict = true → subcommand = some word → word ≠ "" →
        Table.workspaceActions.steps? (some word) = none →
        let unknown : Failure := .unknownSubcommand (some word) ["format", "build", "doc"]
        let text := ("❌ " ++ unknown.message).toList
        Console.Announces (Console.Notice.unknownSubcommand unknown.message).markup text ∧
          (word.toList.all Console.isHarmless = true → Console.rendered text = text) ∧
          ∀ width, Console.width world.environment = .ok width →
            (run words world).ending = .ok 2 ∧
              (run words world).errors = shownLog settings.logLevel (extraRecords extra) ++
                Console.printed width (Console.rendered text) := by
  constructor
  · intro invalids invalid report text
    have announces : Console.Announces (Console.Notice.invalidSettings report).markup text :=
      Console.Notice.announces_invalidSettings (Console.endsPlainly_report invalids)
    refine ⟨announces, ?_⟩
    intro width wide
    rcases run_of_refused_settings reads wide invalid with ⟨ending, errors⟩
    exact ⟨ending, errors.trans (Console.Notice.shown_of_announces announces width)⟩
  · rintro settings word valid strict rfl nonempty unlisted unknown text
    have announces :
        Console.Announces (Console.Notice.unknownSubcommand unknown.message).markup text :=
      Console.Notice.announces_unknownSubcommand (Console.endsPlainly_unknownWording _ _)
    refine ⟨announces, rendered_unknownWording, ?_⟩
    intro width wide
    rcases run_of_refused_word reads wide valid strict nonempty unlisted with ⟨ending, errors⟩
    rw [Console.Notice.shown_of_announces announces] at errors
    exact ⟨ending, errors⟩

/-- A closing tag in front of an open bracket is shown as it stands, and the code of a known emoji
is not. -/
theorem run_notice_literal_tag_and_code :
    let world : World := { environment := [("CI_BUILD_STRICT", "1")] }
    let tag := "❌ Unknown subcommand '[/red][' (expected one of: format, build, doc)".toList
    let code := "❌ Unknown subcommand ':x:' (expected one of: format, build, doc)".toList
    (run ["[/red]["] world).errors = Console.printed 80 tag ∧
      (run [":x:"] world).errors = Console.printed 80 (Console.rendered code) ∧
      Console.rendered code ≠ code := by
  intro world tag code
  have wide : Console.width world.environment = .ok 80 := by
    simp only [world]
    rfl
  have valid : Settings.ofEnvironment world.environment = .ok { strict := true } := by
    simp only [world]
    rfl
  have noLog : shownLog .warning (extraRecords []) = "" := rfl
  have readsTag : Request.ofWords ["[/red]["] = .run (some "[/red][") [] := by decide
  have sameTag : ("❌ " ++ (Failure.unknownSubcommand (some "[/red][")
      ["format", "build", "doc"]).message).toList = tag :=
    (toList_unknownWording "[/red][").trans (by decide)
  rcases (run_notice_literal readsTag).2 _ _ valid rfl rfl (by decide) (by decide) with
    ⟨-, literal, writesTag⟩
  rcases writesTag 80 wide with ⟨-, errorsTag⟩
  rw [literal (by decide), sameTag, noLog, String.empty_append] at errorsTag
  have readsCode : Request.ofWords [":x:"] = .run (some ":x:") [] := by decide
  have sameCode : ("❌ " ++ (Failure.unknownSubcommand (some ":x:")
      ["format", "build", "doc"]).message).toList = code :=
    (toList_unknownWording ":x:").trans (by decide)
  rcases (run_notice_literal readsCode).2 _ _ valid rfl rfl (by decide) (by decide) with
    ⟨-, -, writesCode⟩
  rcases writesCode 80 wide with ⟨-, errorsCode⟩
  rw [sameCode, noLog, String.empty_append] at errorsCode
  have cut : code = "❌ Unknown subcommand '".toList ++
      ':' :: "x:' (expected one of: format, build, doc)".toList := by decide
  have found : Console.code? "x:' (expected one of: format, build, doc)".toList =
      some ("x".toList, "' (expected one of: format, build, doc)".toList) := by decide
  have known : Console.IsKnownCode "x".toList := by
    have named : Console.emojiName (Console.splitForm "x".toList).1 = "x" := by decide +kernel
    have listed : ("x", ['❌']) ∈ Console.emojisTToZ := by decide +kernel
    have whole : (Console.emojiName (Console.splitForm "x".toList).1, ['❌']) ∈ Console.emojis := by
      have single : ("x", ['❌']) ∈ Console.singleEmojis :=
        List.mem_flatten.mpr ⟨Console.emojisTToZ, by simp [Console.emojiParts], listed⟩
      simp only [named, Console.emojis, List.mem_append, single, true_or]
    exact Console.isKnownCode_of_mem whole
  refine ⟨errorsTag, errorsCode, ?_⟩
  rw [cut]
  apply Console.rendered_ne_of_code _ _ found known
  · exact List.all_iff_forall_prop.mp (by decide)
  · exact List.all_iff_forall_prop.mp (by decide)

end CommandLine

end BuildSteps
