import BuildSteps.Proofs.Json.Values
import BuildSteps.Proofs.Telemetry.Appending

/-!
# Lines of the log decode to their records

The record of a call consists of the timestamp, the event and the fields of the call, in order. A
field that is named like the timestamp takes its place. If the values have a counterpart in JSON,
the line that the call appends to the log is read back as one object with these members, and so
calls with the same line have the same record, up to tuples that are lists.

The client builds the record as a dictionary, key by key. `PlainCall.members_eq` shows by induction
on the fields that this is the record described above; the rest follows from the way in which the
value of a dictionary is written and read.
-/

namespace BuildSteps

theorem putBy_of_not_mem {Key Item : Type} [DecidableEq Key] {key : Key} {item : Item}
    {entries : List (Key × Item)} (absent : key ∉ entries.map Prod.fst) :
    putBy (fun left right => decide (left = right)) key item entries =
      entries ++ [(key, item)] := by
  induction entries with
  | nil => rfl
  | cons entry rest ih =>
      simp only [List.map_cons, List.mem_cons, not_or] at absent
      have other : decide (entry.1 = key) = false := decide_eq_false (Ne.symm absent.1)
      simp only [putBy, other, Bool.false_eq_true, if_false, ih absent.2, List.cons_append]

/-- Fields are written behind the timestamp, the event and the fields before them. -/
theorem foldl_putBy_fields {fields before : List (String × Value)} (time event : Value)
    (distinct : (fields.map Prod.fst).Nodup) (noEvent : ∀ field ∈ fields, field.1 ≠ "event")
    (fresh : ∀ field ∈ fields, field.1 ∉ before.map Prod.fst) :
    fields.foldl (fun entries field =>
        putBy (fun left right => decide (left = right)) field.1 field.2 entries)
      (("timestamp", time) :: ("event", event) :: before) =
      ("timestamp", (fields.lookup "timestamp").getD time) :: ("event", event) ::
        (before ++ fields.filter fun field => decide (field.1 ≠ "timestamp")) := by
  induction fields generalizing time before with
  | nil => simp
  | cons field rest ih =>
      rcases field with ⟨name, value⟩
      rcases List.nodup_cons.mp distinct with ⟨once, distinctLater⟩
      have apart : ∀ later ∈ rest, later.1 ≠ name := by
        rintro later occurs rfl
        exact once (List.mem_map.mpr ⟨later, occurs, rfl⟩)
      have noEventLater := fun later occurs => noEvent later (List.mem_cons_of_mem _ occurs)
      have freshLater := fun later occurs => fresh later (List.mem_cons_of_mem _ occurs)
      rw [List.foldl_cons]
      -- A field takes the place of the timestamp, which no later one does again, or is the last.
      by_cases isTime : name = "timestamp"
      · subst isTime
        have noOther : rest.lookup "timestamp" = none := by
          rw [List.lookup_eq_none_iff]
          intro later occurs
          exact bne_iff_ne.mpr (apart later occurs).symm
        have replaced := ih value distinctLater noEventLater freshLater
        rw [noOther, Option.getD_none] at replaced
        simp only [putBy, decide_true, if_true, replaced]
        simp
      · have absent : name ∉ (("timestamp", time) :: ("event", event) :: before).map Prod.fst := by
          have noEventHere := noEvent _ (List.mem_cons_self ..)
          have freshHere := fresh _ (List.mem_cons_self ..)
          simp only [List.map_cons, List.mem_cons, not_or]
          exact ⟨isTime, noEventHere, freshHere⟩
        have freshStill : ∀ later ∈ rest, later.1 ∉ (before ++ [(name, value)]).map Prod.fst := by
          intro later occurs
          simp only [List.map_append, List.map_cons, List.map_nil, List.mem_append,
            List.mem_singleton, not_or]
          exact ⟨freshLater later occurs, apart later occurs⟩
        have appended := ih time distinctLater noEventLater freshStill
        have skipped : ((name, value) :: rest).lookup "timestamp" = rest.lookup "timestamp" := by
          rw [List.lookup_cons, beq_eq_false_iff_ne.mpr (Ne.symm isTime)]
        rw [putBy_of_not_mem absent, List.cons_append, List.cons_append, appended, skipped]
        simp [isTime]

/-- A call with a text for its event and distinct names for its fields, none of them that of an
argument, and with values that have a counterpart in JSON. -/
structure PlainCall where
  now : Int
  event : String
  fields : List (String × Value)
  distinct : (fields.map Prod.fst).Nodup
  unreserved : ∀ field ∈ fields, field.1 ≠ "event" ∧ field.1 ≠ "self"
  plain : ∀ field ∈ fields, field.2.json?.isSome = true

namespace PlainCall

/-- The call itself. -/
def call (plain : PlainCall) : Call :=
  ⟨plain.now, .text plain.event, plain.fields⟩

/-- The names and values of the record of a call. -/
def record (call : PlainCall) : List (String × Value) :=
  ("timestamp", (call.fields.lookup "timestamp").getD (.text (Timestamp.text call.now))) ::
    ("event", .text call.event) ::
      call.fields.filter fun field => decide (field.1 ≠ "timestamp")

/-- The client builds the record of a call. -/
theorem members_eq (call : PlainCall) :
    TelemetryClient.members call.now (.text call.event) call.fields = call.record := by
  have noEvent : ∀ field ∈ call.fields, field.1 ≠ "event" := by
    intro field occurs
    exact (call.unreserved field occurs).1
  have fresh : ∀ field ∈ call.fields, field.1 ∉ ([] : List (String × Value)).map Prod.fst := by
    simp
  exact foldl_putBy_fields (.text (Timestamp.text call.now)) (.text call.event) call.distinct
    noEvent fresh

/-- Every value of a plain record can be written. -/
theorem plain_record (call : PlainCall) : ∀ member ∈ call.record, member.2.json?.isSome = true := by
  intro member occurs
  simp only [record, List.mem_cons] at occurs
  rcases occurs with rfl | rfl | field
  · cases given : call.fields.lookup "timestamp" with
    | none => rfl
    | some value =>
        rcases List.lookup_eq_some_iff.mp given with ⟨before, after, parts, -⟩
        exact call.plain ("timestamp", value) (by simp [parts])
  · rfl
  · exact call.plain member (List.mem_filter.mp field).1

/-- The line of a call stands for the object with the members of its record. -/
theorem exists_line (call : PlainCall) :
    ∃ line members, call.call.line = .ok line ∧
      (members.map fun member => (member.1, some member.2)) =
        (call.record.map fun member => (member.1, member.2.json?)) ∧
      Json.read? line.toList = some (.object members) := by
  rcases Value.exists_jsonMembers? call.plain_record with ⟨members, each, same⟩
  have counterpart : (Value.dict (call.record.map fun member => (.text member.1, member.2))).json? =
      some (.object members) := by
    rw [Value.json?, each, Option.map_some]
  rcases Value.exists_record_of_json? _ counterpart with ⟨written, recorded, isWritten⟩
  refine ⟨String.ofList (written ++ ['\n']), members, ?_, same, ?_⟩
  · simp only [Call.line, PlainCall.call, TelemetryClient.recordLine, members_eq, recorded]
  · rw [String.toList_ofList]
    exact Json.read?_of_isWrittenAs isWritten

/-- Calls with the same line have the same record, up to tuples that are lists. -/
theorem record_eq_of_line {left right : PlainCall} {line : String}
    (first : left.call.line = .ok line) (second : right.call.line = .ok line) :
    (left.record.map fun member => (member.1, member.2.listed)) =
      right.record.map fun member => (member.1, member.2.listed) := by
  rcases left.exists_line with ⟨leftLine, leftMembers, leftLined, leftSame, leftRead⟩
  rcases right.exists_line with ⟨rightLine, rightMembers, rightLined, rightSame, rightRead⟩
  rw [first, Except.ok.injEq] at leftLined
  rw [second, Except.ok.injEq] at rightLined
  subst leftLined rightLined
  rw [leftRead, Option.some.injEq, Json.object.injEq] at rightRead
  subst rightRead
  rw [← Value.values_of_members leftSame, Value.values_of_members rightSame]

end PlainCall

namespace TelemetryClient

/-- A call that returns normally appends a line to the log that is read back as one object: its
members are those of the record of the call, in order. Another call has the same line only if it has
the same record, up to tuples that are lists. -/
theorem answer_decodes (client : TelemetryClient) {directory : PathName}
    (located : client.directoryPath? = some directory) (call : PlainCall) {files after : FileTree}
    (returned : client.answer call.call files = (.ok (), after)) :
    ∃ line, call.call.line = .ok line ∧ client.Appends directory line files after ∧
      (∃ members,
        (members.map fun member => (member.1, some member.2)) =
            (call.record.map fun member => (member.1, member.2.json?)) ∧
          Json.read? line.toList = some (.object members)) ∧
      ∀ other : PlainCall, other.call.line = .ok line →
        (other.record.map fun member => (member.1, member.2.listed)) =
          call.record.map fun member => (member.1, member.2.listed) := by
  rcases appends_of_answer located returned with ⟨line, lined, appends⟩
  rcases call.exists_line with ⟨text, members, same, counterparts, read⟩
  rw [lined, Except.ok.injEq] at same
  subst same
  refine ⟨line, lined, appends, ⟨members, counterparts, read⟩, ?_⟩
  intro other otherLined
  exact PlainCall.record_eq_of_line otherLined lined

/-- A field takes the place of the timestamp; a dictionary holds a tuple, and a text an emoji. The
line is all that the log holds. -/
theorem answer_decodes_replaced :
    let client : TelemetryClient := { directory := some "logs" }
    let call : PlainCall :=
      { now := 0
        event := "step \"😀\""
        fields := [("size", .dict [(.text "é", .tuple [.int (-120), .null])]),
          ("timestamp", .text "now"), ("flag", .bool true)]
        distinct := by decide
        unreserved := by decide
        plain := by decide }
    let members := [("timestamp", .text "now"), ("event", .text "step \"😀\""),
      ("size", .object [("é", .array [.number (-120) 0, .null])]), ("flag", .bool true)]
    ∃ line after, client.answer call.call FileTree.empty = (.ok (), after) ∧
      after.entryAt? ⟨.workingDirectory, ["logs", logName]⟩ = some (.file line) ∧
      Json.read? line.toList = some (.object members) := by
  intro client call members
  have located : client.directoryPath? = some ⟨.workingDirectory, ["logs"]⟩ := by decide
  have isOk : (client.answer call.call FileTree.empty).1.isOk = true := by decide +kernel
  rcases exists_after_of_isOk isOk with ⟨after, returned⟩
  rcases answer_decodes client located call returned with
    ⟨line, -, appends, ⟨read, same, decodes⟩, -⟩
  have recorded : (call.record.map fun member => (member.1, member.2.json?)) =
      members.map fun member => (member.1, some member.2) := rfl
  have listed : read = members := by
    apply (List.map_inj_right _).mp (same.trans recorded)
    rintro ⟨leftName, left⟩ ⟨rightName, right⟩ equal
    simpa using equal
  rw [listed] at decodes
  exact ⟨line, after, returned, appends.entryAt?_of_none (by decide +kernel), decodes⟩

end TelemetryClient

end BuildSteps
