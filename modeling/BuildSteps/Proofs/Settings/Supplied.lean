import BuildSteps.Proofs.Settings.InForce

/-!
# Supplied texts

A text is supplied for a setting by a keyword, or by the environment if no keyword is named like the
setting. What is reported on that setting when all settings are loaded is what the text gives rise
to by itself, and loading succeeds if and only if there is no report on any setting.
-/

namespace BuildSteps

/-- A text is supplied for a setting by the first keyword of that name, or else by the variable in
force. -/
def Setting.Supplied (setting : Setting) (text : String) (environment : Environment)
    (keywords : List (String × Value)) : Prop :=
  setting.fromKeywords? keywords = some (.text text) ∨
    (setting.fromKeywords? keywords = none ∧ setting.InForce text environment)

namespace Settings

/-- The reports on a setting when settings are loaded. -/
def reportsOn (setting : Setting) : Except (List InvalidSetting) Settings → List InvalidSetting
  | .ok _ => []
  | .error invalids => invalids.filter fun invalid => invalid.setting = setting

variable {environment : Environment} {keywords : List (String × Value)} {setting : Setting}
  {text : String}

theorem given?_of_supplied (supplied : setting.Supplied text environment keywords) :
    setting.given? environment keywords = some (.text text) := by
  rcases supplied with keyword | ⟨noKeyword, inForce⟩
  · simp only [Setting.given?, keyword]
  · simp only [Setting.given?, noKeyword, Setting.fromEnvironment?_eq_some_iff.mpr inForce,
      Option.map_some]

/-- The objections about one setting are those to the value given for it. -/
theorem filter_objections (setting other : Setting) (given : Option Value) :
    (objections other given).filter (fun invalid => invalid.setting = setting) =
      if other = setting then objections setting given else [] := by
  rcases objections_cases other given with silent | ⟨value, problem, -, single⟩
  · by_cases same : other = setting
    · rw [if_pos same, ← same, silent]
      rfl
    · rw [if_neg same, silent]
      rfl
  · by_cases same : other = setting
    · rw [if_pos same, ← same, single]
      simp
    · rw [if_neg same, single]
      simp [same]

theorem filter_allObjections (given : Setting → Option Value) (setting : Setting) :
    (allObjections given).filter (fun invalid => invalid.setting = setting) =
      objections setting (given setting) := by
  simp only [allObjections, List.filter_flatMap, filter_objections]
  cases setting <;> simp [Setting.all]

/-- What is reported on a setting is what its own value gives rise to. -/
theorem reportsOn_ofGiven (given : Setting → Option Value) (setting : Setting) :
    reportsOn setting (ofGiven given) = objections setting (given setting) := by
  rcases ofGiven_cases given with ⟨settings, loaded, holds⟩ | ⟨refused, -⟩
  · rw [loaded, objections_eq_nil_iff.mpr ⟨settings, holds setting⟩]
    rfl
  · rw [refused]
    exact filter_allObjections given setting

theorem reportsOn_of_supplied (supplied : setting.Supplied text environment keywords) :
    reportsOn setting (load environment keywords) = objections setting (some (.text text)) := by
  rw [load, reportsOn_ofGiven, given?_of_supplied supplied]

theorem exists_load_iff :
    (∃ settings, load environment keywords = .ok settings) ↔
      ∀ setting, reportsOn setting (load environment keywords) = [] := by
  simp only [load, exists_ofGiven_ok_iff, allObjections_eq_nil_iff, reportsOn_ofGiven]

theorem holds_of_supplied (supplied : setting.Supplied text environment keywords)
    {settings : Settings} (loaded : load environment keywords = .ok settings) :
    Holds setting (some (.text text)) settings := by
  rw [load, ofGiven_eq_ok_iff] at loaded
  rw [← given?_of_supplied supplied]
  exact loaded setting

end Settings

end BuildSteps
