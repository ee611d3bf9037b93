import BuildSteps.Settings.Load

/-!
# The checks of the settings, one by one

Settings are made from at most four values, and each value is checked for itself: what is read for
one setting, and what is reported about it, depends on the value given for that setting only. This
file takes the making of settings apart along these lines. `ofGiven_eq_ok_iff` says which settings
result, and `ofGiven_eq_error_iff` which reports do.
-/

namespace BuildSteps.Settings

/-- What is reported about the value given for a setting: nothing if there is none, or if it is
valid. -/
def objections (setting : Setting) (given : Option Value) : List InvalidSetting :=
  let standard : Settings := {}
  match setting with
  | .logLevel => invalid? setting given (readOr standard.logLevel readLevel given)
  | .strict => invalid? setting given (readOr standard.strict readSwitch given)
  | .telemetryDirectory =>
    invalid? setting given (readOr standard.telemetryDirectory readDirectory given)
  | .telemetryMaxMegabytes =>
    invalid? setting given (readOr standard.telemetryMaxMegabytes readLimit given)

/-- Settings hold a given value if they have, for one setting, what is read from that value, or the
default if there is none. -/
def Holds (setting : Setting) (given : Option Value) (settings : Settings) : Prop :=
  let standard : Settings := {}
  match setting with
  | .logLevel => readOr standard.logLevel readLevel given = .ok settings.logLevel
  | .strict => readOr standard.strict readSwitch given = .ok settings.strict
  | .telemetryDirectory =>
    readOr standard.telemetryDirectory readDirectory given = .ok settings.telemetryDirectory
  | .telemetryMaxMegabytes =>
    readOr standard.telemetryMaxMegabytes readLimit given = .ok settings.telemetryMaxMegabytes

/-- Two settings agree on one of the four. -/
def Agree (setting : Setting) (left right : Settings) : Prop :=
  match setting with
  | .logLevel => left.logLevel = right.logLevel
  | .strict => left.strict = right.strict
  | .telemetryDirectory => left.telemetryDirectory = right.telemetryDirectory
  | .telemetryMaxMegabytes => left.telemetryMaxMegabytes = right.telemetryMaxMegabytes

/-- What is read from a value for one setting: the defaults with that setting, or a problem. -/
def readFor (setting : Setting) (value : Value) : Except Problem Settings :=
  match setting with
  | .logLevel => (readLevel value).map fun level => { logLevel := level }
  | .strict => (readSwitch value).map fun strict => { strict := strict }
  | .telemetryDirectory => (readDirectory value).map fun name => { telemetryDirectory := name }
  | .telemetryMaxMegabytes => (readLimit value).map fun limit => { telemetryMaxMegabytes := limit }

theorem Agree.refl (setting : Setting) (settings : Settings) : Agree setting settings settings := by
  cases setting <;> rfl

theorem holds_none_iff {setting : Setting} {settings : Settings} :
    Holds setting none settings ↔ Agree setting settings {} := by
  cases setting <;> simp only [Holds, Agree, readOr, Except.ok.injEq, eq_comm]

section Readers

variable {setting other : Setting} {value : Value} {settings single : Settings}

theorem map_eq_ok_iff {α β : Type} {read : Except Problem α} {make : α → β} {made : β} :
    read.map make = .ok made ↔ ∃ found, read = .ok found ∧ make found = made := by
  cases read <;> simp [Except.map]

/-- What is read for one setting has that setting, and the defaults for the others. -/
theorem agree_of_readFor (read : readFor setting value = .ok single) (different : other ≠ setting) :
    Agree other single {} := by
  cases setting <;>
    · rcases map_eq_ok_iff.mp read with ⟨_, -, rfl⟩
      cases other <;> first | rfl | exact absurd rfl different

theorem eq_ok_iff_of_map {α β : Type} {read : Except Problem α} {make : α → β} {get : β → α}
    (same : ∀ found, get (make found) = found) {found : α} :
    read = .ok found ↔ ∃ made, read.map make = .ok made ∧ found = get made := by
  cases read <;> simp [Except.map, same, eq_comm]

/-- Settings hold a value if they have, for one setting, what is read from it. -/
theorem holds_some_iff :
    Holds setting (some value) settings ↔
      ∃ single, readFor setting value = .ok single ∧ Agree setting settings single := by
  cases setting <;> exact eq_ok_iff_of_map fun _ => rfl

theorem invalid?_map {α β : Type} (given : Option Value) (read : Except Problem α) (make : α → β) :
    invalid? setting given (read.map make) = invalid? setting given read := by
  cases read <;> rfl

/-- What is reported about a value is the problem that its reader finds. -/
theorem objections_some (setting : Setting) (value : Value) :
    objections setting (some value) = invalid? setting (some value) (readFor setting value) := by
  cases setting <;> exact (invalid?_map _ _ _).symm

theorem objections_of_ok (read : readFor setting value = .ok single) :
    objections setting (some value) = [] := by
  rw [objections_some, read]
  rfl

theorem objections_of_error {problem : Problem} (read : readFor setting value = .error problem) :
    objections setting (some value) = [⟨setting, problem, value⟩] := by
  rw [objections_some, read]
  rfl

theorem objections_some_eq_nil_iff :
    objections setting (some value) = [] ↔ ∃ single, readFor setting value = .ok single := by
  cases read : readFor setting value with
  | ok single => simp [objections_of_ok read]
  | error problem => simp [objections_of_error read]

theorem objections_eq_singleton_iff {invalid : InvalidSetting} :
    objections invalid.setting (some value) = [invalid] ↔
      invalid.given = value ∧ readFor invalid.setting value = .error invalid.problem := by
  rcases invalid with ⟨setting, problem, given⟩
  cases read : readFor setting value with
  | ok single => simp [objections_of_ok read]
  | error other => simp [objections_of_error read, eq_comm, and_comm]

end Readers

section Checks

variable {setting : Setting} {given : Option Value} {left right : Settings}

theorem Holds.agree (leftHolds : Holds setting given left)
    (rightHolds : Holds setting given right) :
    Agree setting left right := by
  cases setting <;> exact Except.ok.inj (leftHolds.symm.trans rightHolds)

theorem invalid?_eq_nil_iff {α : Type} {result : Except Problem α} :
    invalid? setting given result = [] ↔ ∃ value, result = .ok value := by
  cases result <;> simp [invalid?]

/-- There is no objection to a given value iff some settings hold it. -/
theorem objections_eq_nil_iff :
    objections setting given = [] ↔ ∃ settings, Holds setting given settings := by
  cases setting with
  | logLevel =>
      simp only [objections, invalid?_eq_nil_iff, Holds]
      exact ⟨fun ⟨level, read⟩ => ⟨{ logLevel := level }, read⟩, fun ⟨_, read⟩ => ⟨_, read⟩⟩
  | strict =>
      simp only [objections, invalid?_eq_nil_iff, Holds]
      exact ⟨fun ⟨strict, read⟩ => ⟨{ strict := strict }, read⟩, fun ⟨_, read⟩ => ⟨_, read⟩⟩
  | telemetryDirectory =>
      simp only [objections, invalid?_eq_nil_iff, Holds]
      exact ⟨fun ⟨name, read⟩ => ⟨{ telemetryDirectory := name }, read⟩,
        fun ⟨_, read⟩ => ⟨_, read⟩⟩
  | telemetryMaxMegabytes =>
      simp only [objections, invalid?_eq_nil_iff, Holds]
      exact ⟨fun ⟨limit, read⟩ => ⟨{ telemetryMaxMegabytes := limit }, read⟩,
        fun ⟨_, read⟩ => ⟨_, read⟩⟩

theorem objections_none (setting : Setting) : objections setting none = [] := by
  cases setting <;> rfl

/-- There is at most one report on a setting. It names the setting and the value. -/
theorem objections_cases (setting : Setting) (given : Option Value) :
    objections setting given = [] ∨
      ∃ value problem, given = some value ∧
        objections setting given = [⟨setting, problem, value⟩] := by
  cases given with
  | none => exact Or.inl (objections_none setting)
  | some value =>
      cases read : readFor setting value with
      | ok single => exact Or.inl (objections_of_ok read)
      | error problem => exact Or.inr ⟨value, problem, rfl, objections_of_error read⟩

end Checks

section Making

variable {given : Setting → Option Value} {settings : Settings}

/-- All reports on the given values, in the order of the settings. -/
def allObjections (given : Setting → Option Value) : List InvalidSetting :=
  Setting.all.flatMap fun setting => objections setting (given setting)

theorem mem_all (setting : Setting) : setting ∈ Setting.all := by
  cases setting <;> decide

theorem allObjections_eq_nil_iff :
    allObjections given = [] ↔ ∀ setting, objections setting (given setting) = [] := by
  simp only [allObjections, List.flatMap_eq_nil_iff]
  exact ⟨fun silent setting => silent setting (mem_all setting),
    fun silent setting _ => silent setting⟩

/-- A report is made iff it is the one on the value given for its setting. -/
theorem mem_allObjections_iff {invalid : InvalidSetting} :
    invalid ∈ allObjections given ↔
      objections invalid.setting (given invalid.setting) = [invalid] := by
  simp only [allObjections, List.mem_flatMap]
  constructor
  · rintro ⟨setting, -, reported⟩
    rcases objections_cases setting (given setting) with silent | ⟨value, problem, -, single⟩
    · rw [silent] at reported
      cases reported
    · rw [single] at reported
      rcases List.mem_singleton.mp reported with rfl
      exact single
  · intro single
    refine ⟨invalid.setting, mem_all _, ?_⟩
    rw [single]
    exact List.mem_singleton_self invalid

/-- The reports follow the order of the settings, with at most one for each. -/
theorem settings_allObjections_sublist (given : Setting → Option Value) :
    ((allObjections given).map InvalidSetting.setting).Sublist Setting.all := by
  have each : ∀ settings : List Setting,
      ((settings.flatMap fun setting => objections setting (given setting)).map
        InvalidSetting.setting).Sublist settings := by
    intro settings
    induction settings with
    | nil => exact List.Sublist.refl []
    | cons setting rest ih =>
        rw [List.flatMap_cons, List.map_append]
        rcases objections_cases setting (given setting) with silent | ⟨value, problem, -, single⟩
        · rw [silent]
          exact ih.cons setting
        · rw [single]
          exact ih.cons_cons setting
  exact each Setting.all

/-- Either all values are read, or all reports are given. -/
theorem ofGiven_cases (given : Setting → Option Value) :
    (∃ settings, ofGiven given = .ok settings ∧ ∀ setting, Holds setting (given setting) settings) ∨
      (ofGiven given = .error (allObjections given) ∧ allObjections given ≠ []) := by
  have whole : allObjections given =
      objections .logLevel (given .logLevel) ++ objections .strict (given .strict) ++
        objections .telemetryDirectory (given .telemetryDirectory) ++
        objections .telemetryMaxMegabytes (given .telemetryMaxMegabytes) := by
    simp [allObjections, Setting.all]
  simp only [ofGiven]
  split
  · rename_i level strict directory limit levelRead strictRead directoryRead limitRead
    refine Or.inl ⟨_, rfl, ?_⟩
    intro setting
    cases setting with
    | logLevel => exact levelRead
    | strict => exact strictRead
    | telemetryDirectory => exact directoryRead
    | telemetryMaxMegabytes => exact limitRead
  · rename_i notAllRead
    refine Or.inr ⟨congrArg Except.error whole.symm, ?_⟩
    intro silent
    rw [allObjections_eq_nil_iff] at silent
    rcases invalid?_eq_nil_iff.mp (silent .logLevel) with ⟨level, levelRead⟩
    rcases invalid?_eq_nil_iff.mp (silent .strict) with ⟨strict, strictRead⟩
    rcases invalid?_eq_nil_iff.mp (silent .telemetryDirectory) with ⟨directory, directoryRead⟩
    rcases invalid?_eq_nil_iff.mp (silent .telemetryMaxMegabytes) with ⟨limit, limitRead⟩
    exact notAllRead level strict directory limit levelRead strictRead directoryRead limitRead

/-- Settings that agree on all four are the same. -/
theorem eq_of_agree {left right : Settings} (agree : ∀ setting, Agree setting left right) :
    left = right := by
  cases left with
  | mk level strict directory limit =>
      cases right with
      | mk _ _ _ _ =>
          obtain rfl : level = _ := agree .logLevel
          obtain rfl : strict = _ := agree .strict
          obtain rfl : directory = _ := agree .telemetryDirectory
          obtain rfl : limit = _ := agree .telemetryMaxMegabytes
          rfl

/-- Given values make settings iff there is no objection to any. -/
theorem exists_ofGiven_ok_iff :
    (∃ settings, ofGiven given = .ok settings) ↔ allObjections given = [] := by
  rcases ofGiven_cases given with ⟨made, ok, holds⟩ | ⟨error, objected⟩
  · have silent : allObjections given = [] := by
      rw [allObjections_eq_nil_iff]
      intro setting
      exact objections_eq_nil_iff.mpr ⟨made, holds setting⟩
    simp [ok, silent]
  · simp [error, objected]

/-- Settings result if and only if they hold all given values. -/
theorem ofGiven_eq_ok_iff :
    ofGiven given = .ok settings ↔ ∀ setting, Holds setting (given setting) settings := by
  rcases ofGiven_cases given with ⟨made, ok, holds⟩ | ⟨error, objected⟩
  · rw [ok, Except.ok.injEq]
    constructor
    · rintro rfl
      exact holds
    · intro others
      exact eq_of_agree fun setting => (holds setting).agree (others setting)
  · rw [error]
    constructor
    · intro impossible
      cases impossible
    · intro holds
      refine absurd (allObjections_eq_nil_iff.mpr ?_) objected
      intro setting
      exact objections_eq_nil_iff.mpr ⟨settings, holds setting⟩

/-- Reports result if and only if they are all reports on the given values, and there are some. -/
theorem ofGiven_eq_error_iff {invalids : List InvalidSetting} :
    ofGiven given = .error invalids ↔ invalids = allObjections given ∧ invalids ≠ [] := by
  rcases ofGiven_cases given with ⟨made, ok, -⟩ | ⟨error, objected⟩
  · have silent : allObjections given = [] := exists_ofGiven_ok_iff.mp ⟨made, ok⟩
    simp [ok, silent]
  · rw [error, Except.error.injEq]
    constructor
    · rintro rfl
      exact ⟨rfl, objected⟩
    · rintro ⟨rfl, -⟩
      rfl

end Making

end BuildSteps.Settings
