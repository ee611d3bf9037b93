import BuildSteps.Proofs.Dispatch.LogOrder

/-!
# Strict and lenient dispatchers

A strict and a lenient dispatcher with the same table are run side by side, from the same session
and with the same sink. Only the look-up of a name asks for the mode, and only behind a name that
says something and is not listed. So for every other name the two come to the same effect, whatever
the steps of the name do.

At an unknown name the strict one fails with the names that are listed, in order, and the lenient
one warns of them and succeeds. An absent name among them has no wording, so then both fail in the
same way. Nothing is run in any of these cases and the session is left as it was found. That is the
invariant of longer runs: the sessions of the two never drift apart.
-/

namespace BuildSteps

/-- Whether a name says something and is not listed. -/
def Table.IsUnknown (table : Table) : Option String → Prop
  | none => False
  | some word => word ≠ "" ∧ some word ∉ table.names

instance (table : Table) : DecidablePred table.IsUnknown
  | none => inferInstanceAs (Decidable False)
  | some word => inferInstanceAs (Decidable (word ≠ "" ∧ some word ∉ table.names))

namespace Dispatcher

variable {State : Type} {sink : Sink State} {table : Table} {name : Option String} {word : String}
  {known : List String}

/-! ### Names that the mode has no part in -/

/-- Strictness does not matter to a name that is listed or says nothing. -/
theorem stepsFor_of_not_isUnknown (plain : ¬table.IsUnknown name) (strict : Bool) :
    stepsFor ⟨table, strict⟩ name =
      match table.steps? name with
      | some steps => (.ok steps, [])
      | none => (.ok [], [.noSubcommand]) := by
  rcases stepsFor_cases ⟨table, strict⟩ name with
    ⟨-, steps, listed, resolved⟩ | ⟨-, unlisted, resolved⟩ |
      ⟨word, rfl, nonempty, unlisted, -, -⟩
  · rw [resolved, show table.steps? name = some steps from listed]
  · rw [resolved, show table.steps? name = none from unlisted]
  · exact absurd ⟨nonempty, unlisted⟩ plain

theorem dispatch_of_not_isUnknown (plain : ¬table.IsUnknown name) (session : Session State) :
    dispatch ⟨table, true⟩ sink name session = dispatch ⟨table, false⟩ sink name session := by
  simp only [dispatch, stepsFor_of_not_isUnknown plain]

/-! ### Unknown names -/

/-- An unknown name is refused or passed over by strictness, if the names of the table can be
told. -/
theorem stepsFor_of_isUnknown (unknown : table.IsUnknown (some word)) (strict : Bool) :
    stepsFor ⟨table, strict⟩ (some word) =
      match presentNames table.names with
      | .error position => (.error (.namelessEntry position), [])
      | .ok known =>
        if strict then (.error (.unknownSubcommand (some word) known), [])
        else (.ok [], [.unknownSubcommand word known]) := by
  rcases stepsFor_cases ⟨table, strict⟩ (some word) with
    ⟨listed, -⟩ | ⟨empty, -⟩ | ⟨other, same, -, -, -, resolved⟩
  · exact absurd listed unknown.2
  · simp [unknown.1] at empty
  · cases same
    simp only [resolved, Failure.ofUnknownName]
    cases strict <;> cases presentNames table.names <;> rfl

/-- An unknown name fails with its failure, or comes to 0 behind one warning, and the session
stays as it is. -/
theorem dispatch_of_isUnknown (unknown : table.IsUnknown (some word))
    (present : table.names = known.map some) (strict : Bool) (session : Session State) :
    dispatch ⟨table, strict⟩ sink (some word) session =
      if strict then ⟨.error (.unknownSubcommand (some word) known), [], session⟩
      else ⟨.ok 0, [.logged (.unknownSubcommand word known)], session⟩ := by
  have resolved := stepsFor_of_isUnknown unknown strict
  rw [present, presentNames_some] at resolved
  cases strict with
  | true => exact dispatch_of_refused resolved session
  | false => exact dispatch_of_resolved resolved session

theorem dispatch_of_isUnknown_of_absent (unknown : table.IsUnknown (some word))
    (absent : none ∈ table.names) (strict : Bool) (session : Session State) :
    dispatch ⟨table, strict⟩ sink (some word) session =
      ⟨.error (.namelessEntry (table.names.idxOf none)), [], session⟩ := by
  have resolved := stepsFor_of_isUnknown unknown strict
  rw [presentNames_of_none_mem absent] at resolved
  exact dispatch_of_refused resolved session

theorem exists_known_or_absent (names : List (Option String)) :
    (∃ known : List String, names = known.map some) ∨ none ∈ names := by
  induction names with
  | nil => exact Or.inl ⟨[], rfl⟩
  | cons name rest ih =>
      cases name with
      | none => simp
      | some word =>
          rcases ih with ⟨known, rfl⟩ | absent
          · exact Or.inl ⟨word :: known, rfl⟩
          · exact Or.inr (List.mem_cons_of_mem _ absent)

theorem session_dispatch_of_isUnknown (unknown : table.IsUnknown (some word)) (strict : Bool)
    (session : Session State) :
    (dispatch ⟨table, strict⟩ sink (some word) session).session = session := by
  rcases exists_known_or_absent table.names with ⟨known, present⟩ | absent
  · rw [dispatch_of_isUnknown unknown present]
    split <;> rfl
  · rw [dispatch_of_isUnknown_of_absent unknown absent]

/-! ### Runs in step -/

/-- Rounds of two dispatchers with a table, made at the same place of two runs: they have the same
name, find and leave the same session, and come to the same effect unless the name is unknown. -/
structure InStep (table : Table) (left right : Round State) : Prop where
  name : left.name = right.name
  found : left.found = right.found
  session : left.effect.session = right.effect.session
  effect : ¬table.IsUnknown left.name → left.effect = right.effect

/-- One dispatch leaves the same session in both modes. -/
theorem session_dispatch_modes (table : Table) (sink : Sink State) (name : Option String)
    (session : Session State) :
    (dispatch ⟨table, true⟩ sink name session).session =
      (dispatch ⟨table, false⟩ sink name session).session := by
  by_cases unknown : table.IsUnknown name
  · cases name with
    | none => exact unknown.elim
    | some word =>
        rw [session_dispatch_of_isUnknown unknown, session_dispatch_of_isUnknown unknown]
  · rw [dispatch_of_not_isUnknown unknown]

/-- Strict and lenient rounds of one table stay in step. -/
theorem inStep_rounds (table : Table) (sink : Sink State) (names : List (Option String))
    (session : Session State) :
    List.Forall₂ (InStep table) (rounds ⟨table, true⟩ sink names session)
      (rounds ⟨table, false⟩ sink names session) := by
  induction names generalizing session with
  | nil => exact List.Forall₂.nil
  | cons name rest ih =>
      have left := session_dispatch_modes table sink name session
      simp only [rounds]
      rw [left]
      exact List.Forall₂.cons
        ⟨rfl, rfl, left, fun plain => dispatch_of_not_isUnknown plain session⟩ (ih _)

/-- Strict and lenient dispatchers differ at unknown names only. There the strict one fails with
the listed names, the lenient one warns and succeeds, and neither does anything else; if an absent
name is listed, both fail alike. Over dispatches of any names the two runs stay in step. -/
theorem modes_differ_at_unknown (table : Table) (sink : Sink State) :
    let strict : Dispatcher := ⟨table, true⟩
    let lenient : Dispatcher := ⟨table, false⟩
    (∀ name session, ¬table.IsUnknown name →
        strict.dispatch sink name session = lenient.dispatch sink name session) ∧
      (∀ word known session, table.IsUnknown (some word) → table.names = known.map some →
        strict.dispatch sink (some word) session =
            ⟨.error (.unknownSubcommand (some word) known), [], session⟩ ∧
          lenient.dispatch sink (some word) session =
            ⟨.ok 0, [.logged (.unknownSubcommand word known)], session⟩ ∧
          (LogRecord.unknownSubcommand word known).level = .warning) ∧
      (∀ word session, table.IsUnknown (some word) → none ∈ table.names →
        let failed : Effect State Int :=
          ⟨.error (.namelessEntry (table.names.idxOf none)), [], session⟩
        strict.dispatch sink (some word) session = failed ∧
          lenient.dispatch sink (some word) session = failed) ∧
      ∀ names session, List.Forall₂ (InStep table) (strict.rounds sink names session)
        (lenient.rounds sink names session) := by
  intro strict lenient
  refine ⟨?_, ?_, ?_, fun names session => inStep_rounds table sink names session⟩
  · intro name session plain
    exact dispatch_of_not_isUnknown plain session
  · intro word known session unknown present
    exact ⟨dispatch_of_isUnknown unknown present true session,
      dispatch_of_isUnknown unknown present false session, rfl⟩
  · intro word session unknown absent
    exact ⟨dispatch_of_isUnknown_of_absent unknown absent true session,
      dispatch_of_isUnknown_of_absent unknown absent false session⟩

/-- A process is killed by a signal, and another name is not listed. -/
theorem modes_differ_at_unknown_deploy :
    let table : Table := ⟨[(some "", []), (some "build", [⟨"make", ["all"]⟩])]⟩
    let nameless : Table := ⟨(none, []) :: table.entries⟩
    let sink := Sink.recorder fun _ => some ⟨.telemetry, "full"⟩
    let session : Session Nat := ⟨[{ outcome := .exited (-9) }], some ["old"], 0⟩
    ¬table.IsUnknown (some "build") ∧ table.IsUnknown (some "deploy") ∧
      nameless.IsUnknown (some "deploy") ∧
      (dispatch ⟨table, true⟩ sink (some "build") session).result = .ok 137 ∧
      dispatch ⟨table, true⟩ sink (some "build") session =
        dispatch ⟨table, false⟩ sink (some "build") session ∧
      dispatch ⟨table, true⟩ sink (some "deploy") session =
        ⟨.error (.unknownSubcommand (some "deploy") ["", "build"]), [], session⟩ ∧
      dispatch ⟨table, false⟩ sink (some "deploy") session =
        ⟨.ok 0, [.logged (.unknownSubcommand "deploy" ["", "build"])], session⟩ ∧
      dispatch ⟨nameless, true⟩ sink (some "deploy") session =
        dispatch ⟨nameless, false⟩ sink (some "deploy") session := by
  intro table nameless sink session
  have plain : ¬table.IsUnknown (some "build") := by decide
  have unknown : table.IsUnknown (some "deploy") := by decide
  have namelessUnknown : nameless.IsUnknown (some "deploy") := by decide
  rcases modes_differ_at_unknown table sink with ⟨same, apart, -, -⟩
  rcases modes_differ_at_unknown nameless sink with ⟨-, -, alike, -⟩
  rcases apart "deploy" ["", "build"] session unknown rfl with ⟨strict, lenient, -⟩
  rcases alike "deploy" session namelessUnknown (by decide) with ⟨left, right⟩
  exact ⟨plain, unknown, namelessUnknown, rfl, same _ session plain, strict, lenient,
    left.trans right.symm⟩

/-- An unknown name is neither reported as such nor let pass with a warning if an absent name is
listed. -/
theorem modes_agree_at_nameless :
    let table : Table := ⟨[(some "build", [⟨"cargo", ["build"]⟩]), (none, [])]⟩
    let sink := Sink.recorder fun _ => none
    let strict := dispatch ⟨table, true⟩ sink (some "deploy") ⟨[], none, 0⟩
    let lenient := dispatch ⟨table, false⟩ sink (some "deploy") ⟨[], none, 0⟩
    table.IsUnknown (some "deploy") ∧
      (∀ known, strict.result ≠ .error (.unknownSubcommand (some "deploy") known)) ∧
      lenient.result ≠ .ok 0 ∧ Observation.records lenient.trace = [] := by
  intro table sink strict lenient
  refine ⟨by decide, ?_, ?_, rfl⟩
  · intro known impossible
    cases impossible
  · intro impossible
    cases impossible

end Dispatcher

end BuildSteps
