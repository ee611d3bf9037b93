import BuildSteps.Proofs.Turn.Account

/-!
# How the end of a process is told

What is to be logged when a process has ended is written down from the way it ended, without a look
at the runner. The records that tell an end are recognized by their level, the part of the program
that they come from, and their wording.
-/

namespace BuildSteps

namespace LogRecord

/-- How the records begin that tell the end of a process. -/
def endOpenings : List String :=
  ["Completed in ", "Command failed with exit ", "Toolchain binary not found: ", "Interrupted: "]

/-- Whether a record begins with one of some openings. -/
def opensWith (record : LogRecord) (openings : List String) : Bool :=
  openings.any fun opening => opening.toList.isPrefixOf record.message.toList

/-- Whether a record is, for a reader of the log, one that tells the end of a process. -/
def tellsEnd (record : LogRecord) : Bool :=
  decide (record.level = .info) && decide (record.source = .toolchain) &&
    record.opensWith endOpenings

section Wording

variable {record : LogRecord} {openings : List String} {opening : String}

theorem opensWith_of_mem (occurs : opening ∈ openings)
    (opens : opening.toList <+: record.message.toList) : record.opensWith openings = true := by
  rw [opensWith, List.any_eq_true]
  exact ⟨opening, occurs, List.isPrefixOf_iff_prefix.mpr opens⟩

/-- A record that begins with one opening begins with no other one, if neither opening is the start
of the other. -/
theorem not_opensWith_of_distinct (opens : opening.toList <+: record.message.toList)
    (distinct : ∀ other ∈ openings,
      ¬other.toList <+: opening.toList ∧ ¬opening.toList <+: other.toList) :
    record.opensWith openings = false := by
  rw [opensWith, List.any_eq_false]
  intro other occurs begins
  rw [List.isPrefixOf_iff_prefix] at begins
  rcases List.prefix_or_prefix_of_prefix begins opens with inner | outer
  · exact (distinct other occurs).1 inner
  · exact (distinct other occurs).2 outer

theorem opens_of_message {rest : String} (wording : record.message = opening ++ rest) :
    opening.toList <+: record.message.toList := by
  rw [wording, String.toList_append]
  exact List.prefix_append _ _

theorem tellsEnd_of_message {rest : String} (level : record.level = .info)
    (source : record.source = .toolchain) (occurs : opening ∈ endOpenings)
    (wording : record.message = opening ++ rest) : record.tellsEnd = true := by
  have opens := opensWith_of_mem occurs (opens_of_message wording)
  simp only [tellsEnd, level, source, opens, decide_true, Bool.and_true]

theorem tellsEnd_executing (invocation : Invocation) :
    (executing invocation).tellsEnd = false := by
  have wording : (executing invocation).message = "Executing: " ++ invocation.text := rfl
  have opens : (executing invocation).opensWith endOpenings = false := by
    apply not_opensWith_of_distinct (opens_of_message wording)
    decide
  rw [tellsEnd, opens, Bool.and_false]

theorem tellsEnd_completed (duration : Float) (invocation : Invocation) :
    (completed duration invocation).tellsEnd = true := by
  have wording : (completed duration invocation).message =
      "Completed in " ++ (String.ofList (Decimal.fixedText 2 duration) ++ "s: ") ++
        invocation.text :=
    congrArg (· ++ invocation.text) (String.append_assoc ..)
  rw [String.append_assoc] at wording
  exact tellsEnd_of_message rfl rfl (by decide) wording

theorem tellsEnd_failed (exitCode : Int) (invocation : Invocation) :
    (failed exitCode invocation).tellsEnd = true := by
  have wording : (failed exitCode invocation).message =
      "Command failed with exit " ++ (toString exitCode ++ ": ") ++ invocation.text :=
    congrArg (· ++ invocation.text) (String.append_assoc ..)
  rw [String.append_assoc] at wording
  exact tellsEnd_of_message rfl rfl (by decide) wording

theorem tellsEnd_notFound (text : String) : (notFound text).tellsEnd = true := by
  have wording : (notFound text).message = "Toolchain binary not found: " ++ text := rfl
  exact tellsEnd_of_message rfl rfl (by decide) wording

theorem tellsEnd_interrupted (invocation : Invocation) :
    (interrupted invocation).tellsEnd = true := by
  have wording : (interrupted invocation).message = "Interrupted: " ++ invocation.text := rfl
  exact tellsEnd_of_message rfl rfl (by decide) wording

end Wording

end LogRecord

namespace Turn

/-- What is to be logged when the process of a turn has ended. -/
def ending? (turn : Turn) : Option LogRecord :=
  match turn.attempt.outcome with
  | .exited returnCode =>
    if returnCode = 0 then some (.completed turn.attempt.duration turn.invocation)
    else if 0 < returnCode then some (.failed returnCode turn.invocation)
    else some (.failed (128 + (returnCode.natAbs : Int)) turn.invocation)
  | .raised fault =>
    match fault.kind with
    | .missingFile => some (.notFound fault.text)
    | .interrupt => some (.interrupted turn.invocation)
    | _ => none

/-- A process that returned is logged as completed for the status 0 and as failed for any other.
-/
theorem ending?_exited {turn : Turn} {returnCode : Int}
    (outcome : turn.attempt.outcome = .exited returnCode) :
    turn.ending? =
      if exitStatus returnCode = 0 then some (.completed turn.attempt.duration turn.invocation)
      else some (.failed (exitStatus returnCode) turn.invocation) := by
  simp only [ending?, outcome]
  by_cases zero : returnCode = 0
  · subst zero
    rfl
  · by_cases positive : 0 < returnCode
    · have status : exitStatus returnCode = returnCode := if_neg (by omega)
      rw [status, if_neg zero, if_neg zero, if_pos positive]
    · have status : exitStatus returnCode = 128 + (returnCode.natAbs : Int) := by
        rw [exitStatus, if_pos (by omega)]
        omega
      rw [status, if_neg zero, if_neg positive, if_neg (by omega)]

/-- The remark of a handled outcome is the record that is due. -/
theorem ending?_of_handled {turn : Turn} {handling : Handling}
    (handled : Runner.handle turn.invocation turn.attempt = .ok handling) :
    turn.ending? = some handling.remark := by
  unfold Runner.handle at handled
  cases outcome : turn.attempt.outcome with
  | exited returnCode =>
      simp only [outcome] at handled
      rw [ending?_exited outcome]
      split at handled
      · rename_i zero
        cases handled
        rw [if_pos zero]
      · rename_i nonzero
        cases handled
        rw [if_neg nonzero]
  | raised fault =>
      simp only [outcome] at handled
      cases kind : fault.kind with
      | missingFile | interrupt =>
          simp only [kind] at handled
          cases handled
          simp only [ending?, outcome, kind]
      | _ =>
          simp only [kind] at handled
          cases handled

/-- For a fault that passes no record is due. -/
theorem ending?_of_passed {turn : Turn} {fault : Fault}
    (passed : Runner.handle turn.invocation turn.attempt = .error fault) :
    turn.ending? = none := by
  unfold Runner.handle at passed
  cases outcome : turn.attempt.outcome with
  | exited returnCode =>
      simp only [outcome] at passed
      split at passed <;> cases passed
  | raised raised =>
      simp only [outcome] at passed
      cases kind : raised.kind with
      | missingFile | interrupt =>
          simp only [kind] at passed
          cases passed
      | _ => simp only [ending?, outcome, kind]

/-- Every record that is due for the end of a process tells that end. -/
theorem tellsEnd_of_ending? {turn : Turn} {record : LogRecord}
    (ends : turn.ending? = some record) : record.tellsEnd = true := by
  simp only [ending?] at ends
  split at ends
  · split at ends
    · cases ends
      apply LogRecord.tellsEnd_completed
    · split at ends
      · cases ends
        apply LogRecord.tellsEnd_failed
      · cases ends
        apply LogRecord.tellsEnd_failed
  · split at ends
    · cases ends
      apply LogRecord.tellsEnd_notFound
    · cases ends
      apply LogRecord.tellsEnd_interrupted
    · cases ends

end Turn

end BuildSteps
