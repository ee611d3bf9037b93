import BuildSteps.Proofs.Dispatch.Status

/-!
# Rounds of dispatches

Dispatches that are made one after another share a session: each round finds the session that the
one before it leaves. A process is described by its command and by how it ended. The processes of a
trace are its commands, in order, paired with the attempts of the session at its start; every
dispatch takes from these as many as it starts processes, so the processes of all rounds are those
of each round, one after another.
-/

namespace BuildSteps

/-- A process that was started, with how it ended. -/
structure Spawn where
  command : List String
  attempt : Attempt

namespace Spawn

/-- Commands paired with the attempts that they meet. One that no attempt is listed for succeeds. -/
def pair : List (List String) → List Attempt → List Spawn
  | [], _ => []
  | command :: rest, attempts => ⟨command, attempts.head?.getD {}⟩ :: pair rest attempts.tail

/-- The processes of a trace that starts with some attempts. -/
def ofTrace (trace : List Observation) (attempts : List Attempt) : List Spawn :=
  pair (Observation.commands trace) attempts

theorem pair_append (first second : List (List String)) (attempts : List Attempt) :
    pair (first ++ second) attempts =
      pair first attempts ++ pair second (attempts.drop first.length) := by
  induction first generalizing attempts with
  | nil => rfl
  | cons command rest ih => simp [pair, ih]

theorem ofTrace_append (first second : List Observation) (attempts : List Attempt) :
    ofTrace (first ++ second) attempts =
      ofTrace first attempts ++
        ofTrace second (attempts.drop (Observation.commands first).length) := by
  simp only [ofTrace, Observation.commands_append, pair_append]

end Spawn

namespace Turn

/-- The process of a turn. -/
def spawn (turn : Turn) : Spawn :=
  ⟨turn.invocation.argv, turn.attempt⟩

/-- The reached turns meet the attempts in order, so their commands are paired with their own. -/
theorem pair_reached (steps : List Invocation) (attempts : List Attempt) :
    Spawn.pair ((reached (schedule steps attempts)).map fun turn => turn.invocation.argv)
        attempts =
      (reached (schedule steps attempts)).map spawn := by
  induction steps generalizing attempts with
  | nil => rfl
  | cons step rest ih =>
      simp only [schedule]
      cases succeeds : (Turn.mk step (attempts.head?.getD {})).succeeds with
      | true =>
          rw [reached_cons_of_succeeds succeeds]
          simp only [List.map_cons, Spawn.pair, ih]
          rfl
      | false =>
          rw [reached_cons_of_fails succeeds]
          rfl

end Turn

/-- One dispatch of several: its name, the session that it finds, and what it comes to. -/
structure Round (State : Type) where
  name : Option String
  found : Session State
  effect : Effect State Int

namespace Round

variable {State : Type}

/-- The trace of some rounds. -/
def trace (rounds : List (Round State)) : List Observation :=
  rounds.flatMap fun round => round.effect.trace

/-- The session that some rounds leave. -/
def left (rounds : List (Round State)) (session : Session State) : Session State :=
  rounds.foldl (fun _ round => round.effect.session) session

theorem left_cons (round : Round State) (rest : List (Round State)) (session : Session State) :
    left (round :: rest) session = left rest round.effect.session := rfl

theorem trace_cons (round : Round State) (rest : List (Round State)) :
    trace (round :: rest) = round.effect.trace ++ trace rest := by
  simp [trace]

end Round

namespace Dispatcher

variable {State : Type} {sink : Sink State} {dispatcher : Dispatcher} {name : Option String}
  {steps : List Invocation} {records : List LogRecord}

/-- Dispatches of some names, one after another. -/
def rounds (dispatcher : Dispatcher) (sink : Sink State) :
    List (Option String) → Session State → List (Round State)
  | [], _ => []
  | name :: rest, session =>
    let effect := dispatcher.dispatch sink name session
    ⟨name, session, effect⟩ :: dispatcher.rounds sink rest effect.session

/-- The effect of each round is that of a dispatch of its name in the session it finds. -/
theorem effect_of_mem_rounds {names : List (Option String)} {session : Session State}
    {round : Round State} (occurs : round ∈ dispatcher.rounds sink names session) :
    round.effect = dispatcher.dispatch sink round.name round.found := by
  induction names generalizing session with
  | nil => cases occurs
  | cons name rest ih =>
      simp only [rounds, List.mem_cons] at occurs
      rcases occurs with rfl | later
      · rfl
      · exact ih later

theorem ofTrace_dispatch (tolerated : sink.Tolerated)
    (resolved : dispatcher.stepsFor name = (.ok steps, records)) (session : Session State) :
    Spawn.ofTrace (dispatcher.dispatch sink name session).trace session.attempts =
      (Turn.reached (Turn.schedule steps session.attempts)).map Turn.spawn := by
  rw [Spawn.ofTrace, commands_dispatch tolerated resolved, Turn.pair_reached]

/-- A dispatch takes as many attempts as it starts processes. -/
theorem attempts_dispatch (dispatcher : Dispatcher) (tolerated : sink.Tolerated)
    (name : Option String) (session : Session State) :
    (dispatcher.dispatch sink name session).session.attempts =
      session.attempts.drop
        (Observation.commands (dispatcher.dispatch sink name session).trace).length := by
  rcases resolved : dispatcher.stepsFor name with ⟨looked, records⟩
  cases looked with
  | ok steps =>
      rcases session_dispatch tolerated resolved session with ⟨store, left⟩
      rw [left, commands_dispatch tolerated resolved, List.length_map]
  | error failure =>
      rw [dispatch_of_refused resolved, Observation.commands_logged]
      rfl

end Dispatcher

end BuildSteps
