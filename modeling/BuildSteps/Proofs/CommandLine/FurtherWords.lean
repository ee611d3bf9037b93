import BuildSteps.Proofs.CommandLine.StatusTable

/-!
# Words behind the first one

The first word of a command line names the subcommand, and the words behind it have no part in what
is run, except for one option: a request for help, or a mistake in it, is answered wherever it
stands in front of two dashes that end the options. The answer is shown on a screen, whose width may
be refused. This file says for every command line which of these happens. In particular the words
behind a subcommand can be left out in all circumstances if and only if none of them asks for help.

Two dashes are no word of their own. Behind them the next word is the first one, whatever it is.
-/

namespace BuildSteps.CommandLine

/-- The words that may be options: those in front of the first two dashes. -/
def optionWords (words : List String) : List String :=
  words.takeWhile fun word => decide (word ≠ "--")

/-- Words ask for help if one of those that may be options does, with or without a value. -/
def AsksForHelp (words : List String) : Prop :=
  ∃ word ∈ optionWords words, word = "--help" ∨ isHelpWithValue word = true

/-- How a run ends that answers with a screen: with a status, unless the width of the screen is
refused. -/
def screenEnding (environment : Environment) (status : Int) : Except Failure Int :=
  match Console.screenWidth environment with
  | .ok _ => .ok status
  | .error refused => .error (.passed refused.fault)

/-- Two runs are alike if they start the same commands and end in the same way. -/
def RunsAlike (left right : Conclusion) : Prop :=
  Observation.commands left.trace = Observation.commands right.trace ∧ left.ending = right.ending

section Requests

variable {first word : String} {words rest : List String}

theorem optionWords_cons (notEnd : first ≠ "--") (rest : List String) :
    optionWords (first :: rest) = first :: optionWords rest := by
  simp [optionWords, notEnd]

theorem splitOptions_fst (words : List String) : (splitOptions words).1 = optionWords words := by
  induction words with
  | nil => rfl
  | cons word rest ih =>
      by_cases ends : word = "--"
      · simp [splitOptions, optionWords, ends]
      · rw [optionWords_cons ends, ← ih]
        simp [splitOptions, ends]

theorem ofWords_of_mistake (mistaken : (optionWords words).any isHelpWithValue = true) :
    Request.ofWords words = .mistake := by
  simp only [Request.ofWords, splitOptions_fst, mistaken, if_true]

theorem ofWords_of_help (unmistaken : (optionWords words).any isHelpWithValue = false)
    (help : "--help" ∈ optionWords words) : Request.ofWords words = .help := by
  simp only [Request.ofWords, splitOptions_fst, unmistaken, Bool.false_eq_true, if_false, help,
    if_true]

/-- Words that neither ask for help nor begin with the end of options run their first one. -/
theorem ofWords_of_notEnd (notEnd : first ≠ "--")
    (unmistaken : (optionWords (first :: rest)).any isHelpWithValue = false)
    (noHelp : "--help" ∉ optionWords (first :: rest)) :
    ∃ extra, Request.ofWords (first :: rest) = .run (some first) extra := by
  refine ⟨optionWords rest ++ (splitOptions (first :: rest)).2, ?_⟩
  simp only [Request.ofWords, splitOptions_fst, unmistaken, Bool.false_eq_true, if_false, noHelp]
  rw [optionWords_cons notEnd]
  rfl

theorem ofWords_of_end (rest : List String) :
    ∃ extra, Request.ofWords ("--" :: rest) = .run rest.head? extra := by
  cases rest with
  | nil => exact ⟨[], rfl⟩
  | cons word others => exact ⟨others, rfl⟩

theorem isArgument_of_noHelp (notEnd : first ≠ "--")
    (unmistaken : (optionWords (first :: rest)).any isHelpWithValue = false)
    (noHelp : "--help" ∉ optionWords (first :: rest)) : IsArgument first := by
  rw [optionWords_cons notEnd] at unmistaken noHelp
  simp only [List.any_cons, Bool.or_eq_false_iff] at unmistaken
  simp only [List.mem_cons, not_or] at noHelp
  exact ⟨notEnd, Ne.symm noHelp.1, unmistaken.1⟩

/-- Words that do not ask for help hold the option neither bare nor with a value. -/
theorem noHelp_of_not_asksForHelp (quiet : ¬AsksForHelp words) :
    (optionWords words).any isHelpWithValue = false ∧ "--help" ∉ optionWords words := by
  constructor
  · rw [List.any_eq_false]
    intro word occurs mistaken
    exact quiet ⟨word, occurs, Or.inr mistaken⟩
  · intro help
    exact quiet ⟨"--help", help, Or.inl rfl⟩

end Requests

section Runs

variable {left right : List String} {subcommand : Option String} {extra other : List String}

theorem showOn_screen (environment : Environment) (status : Int) (shown : Nat → String) :
    (showOn (Console.screenWidth environment) (.ok status) shown).1 =
      screenEnding environment status := by
  unfold showOn screenEnding
  cases Console.screenWidth environment <;> rfl

/-- A mistake in the option is answered with a screen, and nothing is started. -/
theorem run_of_mistake {words : List String}
    (mistaken : (optionWords words).any isHelpWithValue = true) (world : World) :
    (run words world).trace = [] ∧
      (run words world).ending = screenEnding world.environment 2 := by
  simp only [run, ofWords_of_mistake mistaken, showOn_screen]
  exact ⟨trivial, rfl⟩

/-- A request for help is answered with a screen, and nothing is started. -/
theorem run_of_help {words : List String}
    (unmistaken : (optionWords words).any isHelpWithValue = false)
    (help : "--help" ∈ optionWords words) (world : World) :
    (run words world).trace = [] ∧
      (run words world).ending = screenEnding world.environment 0 := by
  simp only [run, ofWords_of_help unmistaken help, showOn_screen]
  exact ⟨trivial, trivial⟩

theorem RunsAlike.refl (conclusion : Conclusion) : RunsAlike conclusion conclusion :=
  ⟨rfl, rfl⟩

theorem commands_extraRecords (extra : List String) :
    Observation.commands (extraRecords extra) = [] := by
  unfold extraRecords
  split <;> rfl

/-- Further arguments are logged, and have no other effect. -/
theorem runWith_alike (settings : Settings) (subcommand : Option String)
    (extra other : List String) (world : World) :
    RunsAlike (runWith settings subcommand extra world)
      (runWith settings subcommand other world) := by
  constructor
  · simp only [runWith, Observation.commands_append, commands_extraRecords]
  · simp only [runWith]

theorem run_alike (leftAsks : Request.ofWords left = .run subcommand extra)
    (rightAsks : Request.ofWords right = .run subcommand other) (world : World) :
    RunsAlike (run left world) (run right world) := by
  simp only [run, leftAsks, rightAsks, Settings.result_get]
  split
  · apply runWith_alike
  · apply RunsAlike.refl

/-- Where every process succeeds and no setting is given, an argument alone ends with status zero.
-/
theorem ending_of_argument {first : String} (argument : IsArgument first) :
    (run [first] {}).ending = .ok 0 := by
  have single : ∀ word ∈ some first, IsArgument word := by
    rintro word ⟨⟩
    exact argument
  have own : (World.environment {}).IsOwn := by
    intro entry impossible
    cases impossible
  have valid : Settings.ofEnvironment [] = .ok {} := rfl
  have whole : run [first] {} = runWith {} (some first) [] {} := run_of_valid single valid
  rw [whole]
  cases listed : Table.workspaceActions.steps? (some first) with
  | none => exact (runWith_of_unlisted own listed).2.1
  | some steps =>
      have ordinary : ∀ attempt ∈ World.attempts {}, attempt.outcome.IsOrdinary := by
        intro attempt impossible
        cases impossible
      have allSucceed : Turn.firstFailing? (Turn.schedule steps (World.attempts {})) = none := by
        rw [Turn.firstFailing?_eq_none_iff]
        intro turn occurs
        rcases (Turn.mem_schedule occurs).2 with impossible | unlisted
        · cases impossible
        · rw [unlisted]
      have ended := (@runWith_of_listed {} (some first) {} own ordinary steps listed).2
      rw [allSucceed] at ended
      exact ended.1

/-- Where a setting is given a value that cannot be read, an argument alone is refused. -/
theorem ending_of_invalid {first : String} (argument : IsArgument first) :
    (run [first] { environment := [("CI_BUILD_STRICT", "perhaps")] }).ending = .ok 2 := by
  let world : World := { environment := [("CI_BUILD_STRICT", "perhaps")] }
  have single : ∀ word ∈ some first, IsArgument word := by
    rintro word ⟨⟩
    exact argument
  have own : world.environment.IsOwn := by
    intro entry occurs
    rcases List.mem_singleton.mp occurs with rfl
    decide
  have invalid : Settings.ofEnvironment world.environment =
      .error [⟨.strict, .unreadableSwitch, .text "perhaps"⟩] := rfl
  exact congrArg Conclusion.ending (run_of_invalid single own invalid)

/-- Words behind the first, or behind the one after the end of options, change neither commands
nor ending. -/
theorem run_alike_of_quiet {first : String} {rest : List String}
    (unmistaken : (optionWords (first :: rest)).any isHelpWithValue = false)
    (noHelp : "--help" ∉ optionWords (first :: rest)) (world : World) :
    RunsAlike (run (first :: rest) world)
      (run (if first = "--" then first :: rest.take 1 else [first]) world) := by
  by_cases ends : first = "--"
  · subst ends
    rcases ofWords_of_end rest with ⟨extra, asks⟩
    rcases ofWords_of_end (rest.take 1) with ⟨other, asksOther⟩
    rw [if_pos rfl]
    apply run_alike asks
    rw [asksOther]
    cases rest <;> rfl
  · have argument := isArgument_of_noHelp ends unmistaken noHelp
    have single : ∀ word ∈ some first, IsArgument word := by
      rintro word ⟨⟩
      exact argument
    rcases ofWords_of_notEnd ends unmistaken noHelp with ⟨extra, asks⟩
    rw [if_neg ends]
    exact run_alike asks (ofWords_toList single) world

/-- A request for help, or a mistake in it, is answered in a world where the argument alone would
end differently. -/
theorem not_alike_of_help {first word : String} {rest : List String} (argument : IsArgument first)
    (occurs : word ∈ optionWords rest) (asks : word = "--help" ∨ isHelpWithValue word = true) :
    ¬∀ world, RunsAlike (run (first :: rest) world) (run [first] world) := by
  intro alike
  have occursBehind : word ∈ optionWords (first :: rest) := by
    rw [optionWords_cons argument.1]
    exact List.mem_cons_of_mem _ occurs
  cases mistaken : (optionWords (first :: rest)).any isHelpWithValue with
  | true =>
      have same := (alike {}).2
      rw [ending_of_argument argument, (run_of_mistake mistaken _).2] at same
      cases same
  | false =>
      have help : "--help" ∈ optionWords (first :: rest) := by
        rcases asks with rfl | withValue
        · exact occursBehind
        · rw [List.any_eq_false] at mistaken
          exact absurd withValue (mistaken word occursBehind)
      have same := (alike { environment := [("CI_BUILD_STRICT", "perhaps")] }).2
      rw [ending_of_invalid argument, (run_of_help mistaken help _).2] at same
      cases same

end Runs

/-- What a command line does is decided by its first word, unless one of the words in front of two
dashes asks for help. The words behind an argument can be left out if and only if they do not. -/
theorem run_by_first_word (first : String) (rest : List String) :
    (∀ world,
      let whole := run (first :: rest) world
      if (optionWords (first :: rest)).any isHelpWithValue then
        Observation.commands whole.trace = [] ∧ whole.ending = screenEnding world.environment 2
      else if "--help" ∈ optionWords (first :: rest) then
        Observation.commands whole.trace = [] ∧ whole.ending = screenEnding world.environment 0
      else RunsAlike whole (run (if first = "--" then first :: rest.take 1 else [first]) world)) ∧
    (IsArgument first →
      ((∀ world, RunsAlike (run (first :: rest) world) (run [first] world)) ↔
        ¬AsksForHelp rest)) := by
  constructor
  · intro world whole
    cases mistaken : (optionWords (first :: rest)).any isHelpWithValue with
    | true =>
        rw [if_pos rfl]
        rcases run_of_mistake mistaken world with ⟨traced, ended⟩
        exact ⟨congrArg Observation.commands traced, ended⟩
    | false =>
        rw [if_neg Bool.false_ne_true]
        by_cases help : "--help" ∈ optionWords (first :: rest)
        · rw [if_pos help]
          rcases run_of_help mistaken help world with ⟨traced, ended⟩
          exact ⟨congrArg Observation.commands traced, ended⟩
        · rw [if_neg help]
          exact run_alike_of_quiet mistaken help world
  · intro argument
    constructor
    · rintro alike ⟨word, occurs, asks⟩
      exact not_alike_of_help argument occurs asks alike
    · intro quiet world
      rcases noHelp_of_not_asksForHelp quiet with ⟨unmistaken, noHelp⟩
      rcases argument with ⟨notEnd, notHelp, noValue⟩
      have unmistakenWhole : (optionWords (first :: rest)).any isHelpWithValue = false := by
        rw [optionWords_cons notEnd, List.any_cons, noValue, unmistaken]
        rfl
      have noHelpWhole : "--help" ∉ optionWords (first :: rest) := by
        simp [optionWords_cons notEnd, notHelp.symm, noHelp]
      have alike := run_alike_of_quiet unmistakenWhole noHelpWhole world
      rw [if_neg notEnd] at alike
      exact alike

/-- A request for help behind a subcommand keeps its steps from being run, of which the first would
have failed. -/
theorem run_by_first_word_help :
    let world : World := { attempts := [{ outcome := .exited 101 }] }
    IsArgument "build" ∧
      (Observation.commands (run ["build", "--help"] world).trace = [] ∧
        (run ["build", "--help"] world).ending = .ok 0) ∧
      (Observation.commands (run ["build"] world).trace = [["cargo", "build", "--all"]] ∧
        (run ["build"] world).ending = .ok 101) ∧
      ¬∀ world, RunsAlike (run ["build", "--help"] world) (run ["build"] world) := by
  intro world
  have argument : IsArgument "build" := by
    refine ⟨?_, ?_, ?_⟩ <;> decide
  have decided := run_by_first_word "build" ["--help"]
  have unmistaken : (optionWords ["build", "--help"]).any isHelpWithValue = false := by decide
  have help : "--help" ∈ optionWords ["build", "--help"] := by decide
  have helped := decided.1 world
  rw [unmistaken, if_neg Bool.false_ne_true, if_pos help] at helped
  refine ⟨argument, helped, ⟨rfl, rfl⟩, ?_⟩
  rw [decided.2 argument]
  intro quiet
  exact quiet ⟨"--help", by decide, Or.inl rfl⟩

end BuildSteps.CommandLine
