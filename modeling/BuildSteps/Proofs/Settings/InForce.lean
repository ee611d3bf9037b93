import BuildSteps.Proofs.Settings.Checks

/-!
# Values in force

Of all variables of an environment at most four have a part in the settings: for each setting the
last one that is not empty and is named like it, in whatever letter case. The value of that variable
is in force. This file shows that settings depend on the values in force only, and that each of
these is judged by the reader of its setting, as if it were the only one.
-/

namespace BuildSteps

namespace Setting

/-- A variable counts for a setting if it is not empty and is named like it in some letter case. -/
def IsCounted (setting : Setting) (entry : String × String) : Prop :=
  entry.2 ≠ "" ∧ Text.smalls entry.1.toList = ("ci_build_" ++ setting.name).toList

instance (setting : Setting) (entry : String × String) : Decidable (setting.IsCounted entry) :=
  inferInstanceAs (Decidable (_ ∧ _))

/-- A value is in force for a setting if it is that of the last variable that counts. -/
def InForce (setting : Setting) (value : String) (environment : Environment) : Prop :=
  ∃ front name back, environment = front ++ (name, value) :: back ∧
    setting.IsCounted (name, value) ∧ ∀ entry ∈ back, ¬setting.IsCounted entry

/-- The environment that gives a setting a value, and nothing else. -/
def alone (setting : Setting) (value : String) : Environment :=
  [("ci_build_" ++ setting.name, value)]

/-- The variables that count for some setting. -/
def counted (environment : Environment) : Environment :=
  environment.filter fun entry => Setting.all.any fun setting => setting.IsCounted entry

variable {setting other : Setting} {value : String} {environment : Environment}

theorem fromEnvironment?_eq_find? (setting : Setting) (environment : Environment) :
    setting.fromEnvironment? environment =
      (environment.reverse.find? fun entry => setting.IsCounted entry).map Prod.snd := by
  simp only [fromEnvironment?, isNamed, variableName, List.getLast?_filter, IsCounted]
  simp

/-- The value found for a setting is the one in force. -/
theorem fromEnvironment?_eq_some_iff :
    setting.fromEnvironment? environment = some value ↔ setting.InForce value environment := by
  simp only [fromEnvironment?_eq_find?, Option.map_eq_some_iff, List.find?_eq_some_iff_append]
  constructor
  · rintro ⟨⟨name, _⟩, ⟨counts, back, front, whole, later⟩, rfl⟩
    refine ⟨front.reverse, name, back.reverse, ?_, by simpa using counts, ?_⟩
    · rw [← List.reverse_reverse environment, whole]
      simp
    · intro entry occurs
      simpa using later entry (List.mem_reverse.mp occurs)
  · rintro ⟨front, name, back, rfl, counts, later⟩
    refine ⟨(name, value), ⟨by simpa using counts, back.reverse, front.reverse, by simp, ?_⟩, rfl⟩
    intro entry occurs
    simpa using later entry (List.mem_reverse.mp occurs)

/-- At most one value is in force for a setting. -/
theorem InForce.unique {other : String} (first : setting.InForce value environment)
    (second : setting.InForce other environment) : other = value := by
  rw [← fromEnvironment?_eq_some_iff] at first second
  exact Option.some.inj (second.symm.trans first)

/-- What holds of all values in force for a setting holds of the only one. -/
theorem InForce.forall_iff (inForce : setting.InForce value environment) {Judged : String → Prop} :
    (∀ other, setting.InForce other environment → Judged other) ↔ Judged value := by
  constructor
  · intro each
    exact each value inForce
  · intro judged other otherInForce
    rw [inForce.unique otherInForce]
    exact judged

/-- What holds of some value in force for a setting holds of the only one. -/
theorem InForce.exists_iff (inForce : setting.InForce value environment) {Judged : String → Prop} :
    (∃ other, setting.InForce other environment ∧ Judged other) ↔ Judged value := by
  constructor
  · rintro ⟨other, otherInForce, judged⟩
    rwa [inForce.unique otherInForce] at judged
  · intro judged
    exact ⟨value, inForce, judged⟩

/-- Variables that count for no setting do not matter to any. -/
theorem fromEnvironment?_counted (setting : Setting) (environment : Environment) :
    setting.fromEnvironment? (counted environment) = setting.fromEnvironment? environment := by
  have narrower : ∀ entry : String × String,
      ((Setting.all.any fun other => decide (other.IsCounted entry)) &&
        decide (setting.IsCounted entry)) = decide (setting.IsCounted entry) := by
    intro entry
    by_cases counts : setting.IsCounted entry
    · have countsSomewhere : (Setting.all.any fun other => decide (other.IsCounted entry)) = true :=
        List.any_eq_true.mpr ⟨setting, Settings.mem_all setting, by simpa using counts⟩
      rw [countsSomewhere, Bool.true_and]
    · simp [counts]
  simp only [fromEnvironment?_eq_find?, counted, ← List.filter_reverse, List.find?_filter,
    Bool.decide_and, Bool.decide_eq_true, narrower]

/-- The variable of a setting counts for that setting only. -/
theorem isCounted_alone_iff (nonempty : value ≠ "") :
    other.IsCounted ("ci_build_" ++ setting.name, value) ↔ other = setting := by
  have names : ∀ setting other : Setting,
      Text.smalls ("ci_build_" ++ setting.name).toList = ("ci_build_" ++ other.name).toList ↔
        other = setting := by
    intro setting other
    cases setting <;> cases other <;> decide
  simp only [IsCounted, names, nonempty, ne_eq, not_false_eq_true, true_and]

theorem fromEnvironment?_alone (nonempty : value ≠ "") :
    other.fromEnvironment? (setting.alone value) =
      if other = setting then some value else none := by
  simp only [fromEnvironment?_eq_find?, alone, List.reverse_singleton, List.find?_singleton,
    isCounted_alone_iff nonempty, decide_eq_true_eq]
  split <;> rfl

end Setting

namespace Settings

open Setting (counted)

variable {setting : Setting} {value : String} {environment : Environment} {settings : Settings}
  {invalids : List InvalidSetting}

/-- The value that an environment gives for a setting, as it is read. -/
def effective (environment : Environment) (setting : Setting) : Option Value :=
  (setting.fromEnvironment? environment).map Value.text

theorem ofEnvironment_eq_ofGiven (environment : Environment) :
    ofEnvironment environment = ofGiven (effective environment) := rfl

theorem effective_of_inForce (inForce : setting.InForce value environment) :
    effective environment setting = some (.text value) := by
  rw [effective, Setting.fromEnvironment?_eq_some_iff.mpr inForce, Option.map_some]

/-- A setting has the value in force as its effective one, and none if none is. -/
theorem effective_cases (environment : Environment) (setting : Setting) :
    (∃ value, setting.InForce value environment ∧
        effective environment setting = some (.text value)) ∨
      ((∀ value, ¬setting.InForce value environment) ∧ effective environment setting = none) := by
  cases found : setting.fromEnvironment? environment with
  | some value =>
      have inForce := Setting.fromEnvironment?_eq_some_iff.mp found
      exact Or.inl ⟨value, inForce, effective_of_inForce inForce⟩
  | none =>
      refine Or.inr ⟨?_, by rw [effective, found, Option.map_none]⟩
      intro value inForce
      rw [Setting.fromEnvironment?_eq_some_iff.mpr inForce] at found
      cases found

theorem effective_alone (nonempty : value ≠ "") (other : Setting) :
    effective (setting.alone value) other =
      if other = setting then some (.text value) else none := by
  rw [effective, Setting.fromEnvironment?_alone nonempty]
  split <;> rfl

/-- A value alone gives what its reader makes of it. -/
theorem ofEnvironment_alone (setting : Setting) (nonempty : value ≠ "") :
    ofEnvironment (setting.alone value) =
      match readFor setting (.text value) with
      | .ok single => .ok single
      | .error problem => .error [⟨setting, problem, .text value⟩] := by
  rw [ofEnvironment_eq_ofGiven]
  cases read : readFor setting (.text value) with
  | ok single =>
      refine ofGiven_eq_ok_iff.mpr ?_
      intro other
      rw [effective_alone nonempty]
      by_cases same : other = setting
      · rw [if_pos same, same]
        exact holds_some_iff.mpr ⟨single, read, Agree.refl setting single⟩
      · rw [if_neg same]
        exact holds_none_iff.mpr (agree_of_readFor read same)
  | error problem =>
      refine ofGiven_eq_error_iff.mpr ⟨?_, List.cons_ne_nil _ _⟩
      rw [← objections_of_error read]
      cases setting <;>
        simp [allObjections, Setting.all, effective_alone nonempty, objections_none]

/-- Environments with the same values in force give the same settings. -/
theorem ofEnvironment_congr {other : Environment}
    (same : ∀ (setting : Setting) value,
      setting.InForce value other ↔ setting.InForce value environment) :
    ofEnvironment other = ofEnvironment environment := by
  have effectively : effective other = effective environment := by
    funext setting
    rcases effective_cases environment setting with ⟨value, inForce, given⟩ | ⟨unset, absent⟩
    · rw [given, effective_of_inForce ((same setting value).mpr inForce)]
    · rcases effective_cases other setting with ⟨value, inForce, -⟩ | ⟨-, otherAbsent⟩
      · exact absurd ((same setting value).mp inForce) (unset value)
      · rw [absent, otherAbsent]
  rw [ofEnvironment_eq_ofGiven, ofEnvironment_eq_ofGiven, effectively]

theorem inForce_counted_iff :
    setting.InForce value (counted environment) ↔ setting.InForce value environment := by
  rw [← Setting.fromEnvironment?_eq_some_iff, Setting.fromEnvironment?_counted,
    Setting.fromEnvironment?_eq_some_iff]

theorem ofEnvironment_counted (environment : Environment) :
    ofEnvironment (counted environment) = ofEnvironment environment :=
  ofEnvironment_congr fun _ _ => inForce_counted_iff

/-- Settings result if and only if they have what is read from each value in force, and defaults
where none is. -/
theorem ofEnvironment_eq_ok_iff :
    ofEnvironment environment = .ok settings ↔ ∀ setting : Setting,
      (∀ value, setting.InForce value environment →
        ∃ single, readFor setting (.text value) = .ok single ∧ Agree setting settings single) ∧
      ((∀ value, ¬setting.InForce value environment) → Agree setting settings {}) := by
  rw [ofEnvironment_eq_ofGiven, ofGiven_eq_ok_iff]
  apply forall_congr'
  intro setting
  rcases effective_cases environment setting with ⟨value, inForce, given⟩ | ⟨unset, absent⟩
  · rw [given, holds_some_iff, inForce.forall_iff]
    exact ⟨fun read => ⟨read, fun unset => absurd inForce (unset value)⟩, And.left⟩
  · rw [absent, holds_none_iff]
    exact ⟨fun agree => ⟨fun value inForce => absurd inForce (unset value), fun _ => agree⟩,
      fun both => both.2 unset⟩

/-- An environment gives settings iff every value in force can be read for its setting. -/
theorem exists_ofEnvironment_iff :
    (∃ settings, ofEnvironment environment = .ok settings) ↔
      ∀ (setting : Setting) value, setting.InForce value environment →
        ∃ single, readFor setting (.text value) = .ok single := by
  rw [ofEnvironment_eq_ofGiven, exists_ofGiven_ok_iff, allObjections_eq_nil_iff]
  apply forall_congr'
  intro setting
  rcases effective_cases environment setting with ⟨value, inForce, given⟩ | ⟨unset, absent⟩
  · rw [given, inForce.forall_iff, objections_some_eq_nil_iff]
  · rw [absent]
    exact ⟨fun _ value inForce => absurd inForce (unset value), fun _ => objections_none setting⟩

/-- What is reported about a setting is the problem that its reader finds in the value in force. -/
theorem mem_of_ofEnvironment_error (refused : ofEnvironment environment = .error invalids)
    (invalid : InvalidSetting) :
    invalid ∈ invalids ↔ ∃ value, invalid.setting.InForce value environment ∧
      invalid.given = .text value ∧
      readFor invalid.setting (.text value) = .error invalid.problem := by
  rw [ofEnvironment_eq_ofGiven, ofGiven_eq_error_iff] at refused
  rw [refused.1, mem_allObjections_iff]
  rcases effective_cases environment invalid.setting with
    ⟨value, inForce, given⟩ | ⟨unset, absent⟩
  · rw [given, inForce.exists_iff, objections_eq_singleton_iff]
  · rw [absent, objections_none]
    constructor
    · intro impossible
      cases impossible
    · rintro ⟨value, inForce, -⟩
      exact absurd inForce (unset value)

theorem get_congr {other : Environment}
    (same : ofEnvironment other = ofEnvironment environment) : get other = get environment := by
  simp only [get, same]

/-- Settings depend on the values in force only, so variables that do not count have no part in
them. They are given if and only if the reader of each setting accepts the value in force for it,
and then consist of what the readers make of these and of defaults. Otherwise the reports are, in
the order of the settings, one for each value in force that its reader refuses, with the problem
that the reader finds. A value that is the only one gives what its reader makes of it. -/
theorem get_by_values_in_force (environment : Environment) :
    (∀ other, (∀ (setting : Setting) value,
        setting.InForce value other ↔ setting.InForce value environment) →
      get other = get environment) ∧
    (∀ other, counted other = counted environment → get other = get environment) ∧
    ((∃ settings, (get environment).result = .ok settings) ↔
      ∀ (setting : Setting) value, setting.InForce value environment →
        ∃ single, readFor setting (.text value) = .ok single) ∧
    (∀ settings, (get environment).result = .ok settings ↔ ∀ setting : Setting,
      (∀ value, setting.InForce value environment →
        ∃ single, readFor setting (.text value) = .ok single ∧ Agree setting settings single) ∧
      ((∀ value, ¬setting.InForce value environment) → Agree setting settings {})) ∧
    (∀ invalids, (get environment).result = .error invalids →
      (invalids.map InvalidSetting.setting).Sublist Setting.all ∧
      ∀ invalid, invalid ∈ invalids ↔ ∃ value, invalid.setting.InForce value environment ∧
        invalid.given = .text value ∧
        readFor invalid.setting (.text value) = .error invalid.problem) ∧
    ∀ (setting : Setting) value, value ≠ "" →
      (get (setting.alone value)).result =
        match readFor setting (.text value) with
        | .ok single => .ok single
        | .error problem => .error [⟨setting, problem, .text value⟩] := by
  simp only [result_get]
  refine ⟨fun other same => get_congr (ofEnvironment_congr same), ?_, exists_ofEnvironment_iff,
    fun settings => ofEnvironment_eq_ok_iff, ?_, fun setting value => ofEnvironment_alone setting⟩
  · intro other same
    apply get_congr
    rw [← ofEnvironment_counted, same, ofEnvironment_counted]
  · intro invalids refused
    refine ⟨?_, mem_of_ofEnvironment_error refused⟩
    rw [ofEnvironment_eq_ofGiven, ofGiven_eq_error_iff] at refused
    rw [refused.1]
    exact settings_allObjections_sublist _

/-- Of two variables for the level the empty one does not count. A later one that does, and a limit,
are refused. -/
theorem get_by_values_in_force_refused :
    let valid : Environment :=
      [("Ci_Build_Log_Level", "debug"), ("ci_build_log_level", ""), ("CI_BUILD_STRICT", "on"),
        ("LOG_LEVEL", "error")]
    let refused := valid ++ [("CI_BUILD_LOG_LEVEL", "loud"), ("CI_BUILD_TELEMETRY_MAX_MB", "0")]
    (get valid).result = .ok { logLevel := .debug, strict := true } ∧
      (get refused).result =
        .error [⟨.logLevel, .unknownLevel "loud".toList, .text "loud"⟩,
          ⟨.telemetryMaxMegabytes, .notPositive, .text "0"⟩] ∧
      ∃ value, Setting.telemetryMaxMegabytes.InForce value refused ∧
        readFor .telemetryMaxMegabytes (.text value) = .error .notPositive := by
  intro valid refused
  have level : Setting.logLevel.InForce "debug" valid :=
    Setting.fromEnvironment?_eq_some_iff.mp (by decide)
  have strict : Setting.strict.InForce "on" valid :=
    Setting.fromEnvironment?_eq_some_iff.mp (by decide)
  have unset : ∀ setting : Setting, setting.fromEnvironment? valid = none →
      ∀ value, ¬setting.InForce value valid := by
    intro setting nothing value inForce
    rw [Setting.fromEnvironment?_eq_some_iff.mpr inForce] at nothing
    cases nothing
  have reports : (get refused).result =
      .error [⟨.logLevel, .unknownLevel "loud".toList, .text "loud"⟩,
        ⟨.telemetryMaxMegabytes, .notPositive, .text "0"⟩] := rfl
  refine ⟨?_, reports, ?_⟩
  · refine ((get_by_values_in_force valid).2.2.2.1 _).mpr ?_
    intro setting
    cases setting with
    | logLevel =>
        exact ⟨level.forall_iff.mpr ⟨{ logLevel := .debug }, rfl, rfl⟩,
          fun nothing => absurd level (nothing _)⟩
    | strict =>
        exact ⟨strict.forall_iff.mpr ⟨{ strict := true }, rfl, rfl⟩,
          fun nothing => absurd strict (nothing _)⟩
    | telemetryDirectory =>
        exact ⟨fun value inForce => absurd inForce (unset _ (by decide) value), fun _ => rfl⟩
    | telemetryMaxMegabytes =>
        exact ⟨fun value inForce => absurd inForce (unset _ (by decide) value), fun _ => rfl⟩
  · have reported := ((get_by_values_in_force refused).2.2.2.2.1 _ reports).2
      ⟨.telemetryMaxMegabytes, .notPositive, .text "0"⟩
    rcases reported.mp (by simp) with ⟨value, inForce, -, problem⟩
    exact ⟨value, inForce, problem⟩

end Settings

end BuildSteps
