import Mathlib.Data.List.Infix
import BuildSteps.Proofs.Files.PathText
import BuildSteps.Proofs.Json.Encodable
import BuildSteps.Proofs.Telemetry.Decoding
import BuildSteps.Proofs.Telemetry.Effect

/-!
# When a call returns

A call returns if and only if four things hold: the path of the directory is clear, the log is not a
directory, it is not the case that the log has to be moved to where a directory stands, and all
values of the record are encodable. The limits of the system to names, paths and nesting are taken
for granted.

That each of the four is needed is seen from the request that fails without it. That they suffice is
seen by following the requests: once the directory stands, both logs are in reach, so each further
request is answered by what stands at their places.
-/

namespace BuildSteps.TelemetryClient

/-! ### The line of a call -/

/-- Among distinct names, a field that occurs is the one looked up. -/
theorem lookup_of_mem {fields : List (String × Value)} (distinct : (fields.map Prod.fst).Nodup)
    {field : String × Value} (occurs : field ∈ fields) :
    fields.lookup field.1 = some field.2 := by
  rcases List.append_of_mem occurs with ⟨before, after, rfl⟩
  rw [List.map_append, List.map_cons, List.nodup_append] at distinct
  refine List.lookup_eq_some_iff.mpr ⟨before, after, rfl, ?_⟩
  rintro ⟨name, value⟩ early
  rw [bne_iff_ne]
  rintro rfl
  exact distinct.2.2 _ (List.mem_map_of_mem early) _ (List.mem_cons_self ..) rfl

/-- What holds of all texts holds of the values of a record if and only if it holds of the values of
the fields. -/
theorem forall_members_iff {Holds : Value → Prop} (texts : ∀ content, Holds (.text content))
    (now : Int) (event : String) {fields : List (String × Value)}
    (distinct : (fields.map Prod.fst).Nodup) (noEvent : ∀ field ∈ fields, field.1 ≠ "event") :
    (∀ member ∈ members now (.text event) fields, Holds member.2) ↔
      ∀ field ∈ fields, Holds field.2 := by
  have fresh : ∀ field ∈ fields, field.1 ∉ ([] : List (String × Value)).map Prod.fst := by simp
  have isRecord : members now (.text event) fields =
      ("timestamp", (fields.lookup "timestamp").getD (.text (Timestamp.text now))) ::
        ("event", .text event) :: fields.filter fun field => decide (field.1 ≠ "timestamp") :=
    foldl_putBy_fields (.text (Timestamp.text now)) (.text event) distinct noEvent fresh
  rw [isRecord, List.forall_mem_cons, List.forall_mem_cons]
  constructor
  · rintro ⟨time, -, others⟩ ⟨name, value⟩ occurs
    by_cases isTime : name = "timestamp"
    · subst isTime
      rw [lookup_of_mem distinct occurs] at time
      exact time
    · exact others _ (List.mem_filter.mpr ⟨occurs, decide_eq_true isTime⟩)
  · intro each
    refine ⟨?_, texts event, fun field listed => each field (List.mem_filter.mp listed).1⟩
    cases given : fields.lookup "timestamp" with
    | none => exact texts _
    | some value =>
        rcases List.lookup_eq_some_iff.mp given with ⟨before, after, rfl, -⟩
        exact each ("timestamp", value) (by simp)

/-- The record of a call whose fields have names of their own has a written form if and only if the
values of all fields are encodable. -/
theorem exists_line_iff (now : Int) (event : String) {fields : List (String × Value)}
    (distinct : (fields.map Prod.fst).Nodup) (noEvent : ∀ field ∈ fields, field.1 ≠ "event") :
    (∃ line, recordLine now (.text event) fields = .ok line) ↔
      ∀ field ∈ fields, field.2.IsEncodable := by
  have isWritten : (∃ line, recordLine now (.text event) fields = .ok line) ↔
      ∃ written, (Value.dict ((members now (.text event) fields).map
        fun member => (Value.text member.1, member.2))).record = .ok written := by
    simp only [recordLine]
    split
    · rename_i written recorded
      exact ⟨fun _ => ⟨written, recorded⟩, fun _ => ⟨_, rfl⟩⟩
    · rename_i reason refused
      simp [refused]
  rw [isWritten, Value.record, Value.exists_map_iff, Value.exists_recordEntries_iff,
    List.forall_mem_map, List.forall_mem_map]
  have isText : ∀ content, (Value.text content).IsEncodable :=
    fun content => Value.IsEncodable.key (Value.IsKey.text content)
  rw [← forall_members_iff isText now event distinct noEvent]
  exact and_iff_right fun member _ => Value.IsKey.text member.1

/-! ### Paths within the limits -/

/-- A directory is within the limits if its path has no null character and the path of the older log
in it is not too long, none of its names is too long, and there are not more of them than attempts
to make a directory. -/
structure IsWithinLimits (directory : PathName) : Prop where
  noNull : '\x00' ∉ directory.text.toList
  length : (directory.child olderLogName).text.utf8ByteSize < FileTree.pathLimit
  names : ∀ name ∈ directory.names, name.utf8ByteSize ≤ 255
  depth : directory.names.length ≤ FileTree.nestingLimit

section Limits

variable {directory : PathName}

theorem refusal?_eq_none {path : PathName} (noNull : '\x00' ∉ path.text.toList)
    (length : path.text.utf8ByteSize < FileTree.pathLimit) : FileTree.refusal? path = none := by
  simp only [FileTree.refusal?, noNull, Nat.not_le.mpr length, if_false]

theorem IsWithinLimits.frontLength (limits : IsWithinLimits directory) :
    directory.front.utf8ByteSize + 26 < FileTree.pathLimit := by
  have length := limits.length
  rw [PathName.text_child, String.utf8ByteSize_append] at length
  exact length

theorem IsWithinLimits.accepted (limits : IsWithinLimits directory) :
    FileTree.refusal? directory = none := by
  have longer := directory.utf8ByteSize_text_le
  have length := limits.frontLength
  exact refusal?_eq_none limits.noNull (by omega)

/-- A short name below a directory within the limits makes a path that is accepted. -/
theorem IsWithinLimits.accepted_child (limits : IsWithinLimits directory) {name : String}
    (noNull : '\x00' ∉ name.toList) (short : name.utf8ByteSize ≤ 26) :
    FileTree.refusal? (directory.child name) = none := by
  have length := limits.frontLength
  apply refusal?_eq_none
  · rw [PathName.text_child, String.toList_append, List.mem_append, not_or]
    exact ⟨PathName.noNull_front limits.noNull, noNull⟩
  · rw [PathName.text_child, String.utf8ByteSize_append]
    omega

end Limits

/-! ### Requests that succeed -/

section Success

variable {client : TelemetryClient} {directory : PathName} {files after : FileTree}

theorem exists_append (inReach : files.InReach directory (files.locationOf directory) logName)
    (room : (logPair directory files).current ≠ some .directory) (line : String) :
    ∃ after, append directory (.ok line) files = (.ok (), after) := by
  rcases inReach.openForAppend_eq room with ⟨opened, opens⟩
  simp only [append, opens]
  exact ⟨_, rfl⟩

/-- The logs can be rotated if a log beyond the limit need not be moved to where a directory
stands. -/
theorem exists_rotate (inReach : files.InReach directory (files.locationOf directory) logName)
    (olderInReach : files.InReach directory (files.locationOf directory) olderLogName)
    (noDirectory : (logPair directory files).current ≠ some .directory)
    (room : ∀ entry, (logPair directory files).current = some entry →
      client.maxLogSize < FileTree.entrySize entry →
      (logPair directory files).older ≠ some .directory) :
    ∃ turned, client.rotate directory files = (.ok (), turned) ∧
      turned.InReach directory (turned.locationOf directory) logName ∧
      (logPair directory turned).current ≠ some .directory := by
  have rotates : ∃ turned, client.rotate directory files = (.ok (), turned) := by
    by_cases oversized : client.isOversized (directory.child logName) files = true
    · rcases exists_of_isOversized inReach.linkFree oversized with ⟨entry, stands, large⟩
      have noDirectoryThere : entry ≠ .directory := by
        rintro rfl
        exact noDirectory stands
      rcases shiftLogs_of_room inReach olderInReach stands noDirectoryThere
        (room entry stands large) with ⟨shifted, shifts, -⟩
      exact ⟨shifted, by simp only [rotate, inReach.hasEntry_eq, oversized, if_true, shifts]⟩
    · refine ⟨files, ?_⟩
      simp only [rotate, inReach.hasEntry_eq, oversized, Bool.false_eq_true, if_false]
  rcases rotates with ⟨turned, rotates⟩
  refine ⟨turned, rotates, ?_⟩
  rcases rotate_cases inReach.linkFree noDirectory rotates with
    rfl | ⟨-, -, stillInReach, entry, pair⟩
  · exact ⟨inReach, noDirectory⟩
  · rw [pair]
    exact ⟨stillInReach, by simp⟩

/-- A line is written if the path of the directory is clear and there is room for both logs. -/
theorem exists_write (limits : IsWithinLimits directory) (linkFree : files.LinkFree)
    (stands : files.StandsAt files.workingDirectory) (apart : IsApart directory)
    (clear : files.IsClear (files.start directory.anchor).location directory.names)
    (noDirectory : (logPair directory files).current ≠ some .directory)
    (room : ∀ entry, (logPair directory files).current = some entry →
      client.maxLogSize < FileTree.entrySize entry →
      (logPair directory files).older ≠ some .directory) (line : String) :
    ∃ after, client.write directory (.ok line) files = (.ok (), after) := by
  rcases (FileTree.ensureDirectory_ok_iff linkFree stands limits.accepted limits.names
    limits.depth).mpr clear with ⟨made, ended⟩
  rcases ensureDirectory_leads linkFree apart with ⟨leads, same⟩
  have leadsTo := FileTree.leadsTo_of_ensureDirectory linkFree ended
  rw [ended] at leads same
  rw [← FileTree.locationOf_eq leads.workingDirectory] at leadsTo
  rw [← same] at noDirectory room
  have inReach : made.InReach directory (made.locationOf directory) logName :=
    ⟨leads.linkFree, leadsTo, isProperName_logName, by decide,
      limits.accepted_child (by decide) (by decide)⟩
  have olderInReach : made.InReach directory (made.locationOf directory) olderLogName :=
    ⟨leads.linkFree, leadsTo, isProperName_olderLogName, by decide,
      limits.accepted_child (by decide) (by decide)⟩
  rcases exists_rotate inReach olderInReach noDirectory room with
    ⟨turned, rotates, stillInReach, stillRoom⟩
  rcases exists_append stillInReach stillRoom line with ⟨after, appends⟩
  exact ⟨after, by simp only [write, prepare, ended, rotates, appends]⟩

end Success

/-! ### Conditions of a success -/

section Conditions

variable {client : TelemetryClient} {directory : PathName} {files ready after : FileTree}

/-- The way to a directory that could be prepared was clear. -/
theorem isClear_of_prepare (linkFree : files.LinkFree)
    (prepares : client.prepare directory files = (.ok (), ready)) :
    files.IsClear (files.start directory.anchor).location directory.names := by
  simp only [prepare] at prepares
  split at prepares
  · cases prepares
  · rename_i made ended
    exact FileTree.isClear_of_ensureDirectory linkFree ended

/-- A directory at the place of the log is not rotated if its own size is within the limit. -/
theorem prepare_of_directory (linkFree : files.LinkFree) (apart : IsApart directory)
    (large : (FileTree.directorySize : Int) ≤ client.maxLogSize)
    (stands : (logPair directory files).current = some .directory)
    (prepares : client.prepare directory files = (.ok (), ready)) :
    ready.LinkFree ∧ (logPair directory ready).current = some .directory := by
  rcases ensureDirectory_leads linkFree apart with ⟨leads, same⟩
  simp only [prepare] at prepares
  split at prepares
  · cases prepares
  · rename_i made ended
    rw [ended] at leads same
    rw [← same] at stands
    have fits : client.isOversized (directory.child logName) made = false := by
      apply Bool.eq_false_iff.mpr
      intro oversized
      rcases exists_of_isOversized leads.linkFree oversized with ⟨entry, there, beyond⟩
      rw [stands, Option.some.injEq] at there
      subst there
      exact absurd large (Int.not_le.mpr beyond)
    simp only [rotate, fits, Bool.false_eq_true, if_false] at prepares
    split at prepares
    · cases prepares
    · cases prepares
      exact ⟨leads.linkFree, stands⟩

/-- A log that was opened is not a directory, and was none before it was rotated. -/
theorem noDirectory_of_opened (linkFree : files.LinkFree) (apart : IsApart directory)
    (large : (FileTree.directorySize : Int) ≤ client.maxLogSize)
    (prepares : client.prepare directory files = (.ok (), ready)) {location : Location}
    {opened : FileTree}
    (opens : ready.openForAppend (directory.child logName) = .ok (location, opened)) :
    (logPair directory files).current ≠ some .directory := by
  intro stands
  rcases prepare_of_directory linkFree apart large stands prepares with
    ⟨linkFreeReady, standsReady⟩
  have inReach := FileTree.inReach_of_open linkFreeReady isProperName_logName opens
  rw [inReach.openForAppend_of_directory standsReady] at opens
  cases opens

/-- A log beyond the limit has been moved to where no directory stands. -/
theorem room_of_answer (located : client.directoryPath? = some directory)
    (linkFree : files.LinkFree) (apart : IsApart directory)
    (noDirectory : (logPair directory files).current ≠ some .directory) {call : Call}
    (returned : client.answer call files = (.ok (), after)) {entry : Entry}
    (stands : (logPair directory files).current = some entry)
    (beyond : client.maxLogSize < FileTree.entrySize entry) :
    (logPair directory files).older ≠ some .directory := by
  intro directoryThere
  rcases answer_spec located linkFree apart noDirectory returned with ⟨leads, step⟩
  have keeps := (answer_keepsTaken located linkFree apart noDirectory returned).directories
  have remains : (logPair directory after).older = some .directory := by
    rw [logPair, placeIn_eq leads.workingDirectory, ← FileTree.isDirectoryAt_iff]
    exact keeps _ (FileTree.isDirectoryAt_iff.mpr directoryThere)
  cases step with
  | succeeded line lined written =>
      rcases written.cases with ⟨nothing, -, -⟩ | ⟨other, there, ⟨fits, -, -⟩ | ⟨-, -, moved⟩⟩
      · rw [nothing] at stands
        cases stands
      · rw [stands, Option.some.injEq] at there
        subst there
        exact absurd beyond (Int.not_lt.mpr fits)
      · rw [remains, Option.some.injEq] at moved
        rw [← moved] at there
        exact noDirectory there

end Conditions

/-- A call returns if and only if no beginning of the path of the directory leads to an entry other
than a directory, the log is not a directory, it is not the case that the log is beyond the limit
while the older log is a directory, and the values of all fields are encodable. -/
theorem answer_returns_iff (client : TelemetryClient) (positive : 1 ≤ client.maxMegabytes)
    {directory : PathName} {files : FileTree} (located : client.directoryPath? = some directory)
    (limits : IsWithinLimits directory) (apart : IsApart directory) (linkFree : files.LinkFree)
    (stands : files.StandsAt files.workingDirectory) (now : Int) (event : String)
    {fields : List (String × Value)} (distinct : (fields.map Prod.fst).Nodup)
    (unreserved : ∀ field ∈ fields, field.1 ≠ "event" ∧ field.1 ≠ "self") :
    let limit := client.maxMegabytes * 1048576
    let log := files.placeIn directory logName
    let older := files.placeIn directory olderLogName
    (∃ after, client.answer ⟨now, .text event, fields⟩ files = (.ok (), after)) ↔
      files.IsClear (files.start directory.anchor).location directory.names ∧
        files.get? log ≠ some .directory ∧
        (¬∃ content, files.get? log = some (.file content) ∧ limit < content.utf8ByteSize ∧
          files.get? older = some .directory) ∧
        ∀ field ∈ fields, field.2.IsEncodable := by
  intro limit log older
  have size : client.maxLogSize = limit := client.maxLogSize_eq
  have large : (FileTree.directorySize : Int) ≤ client.maxLogSize := by
    rw [size, FileTree.directorySize]
    omega
  have noReserved : reservedField? fields = none := by
    simp only [reservedField?, Option.map_eq_none_iff, List.find?_eq_none, List.mem_cons,
      List.not_mem_nil, or_false, decide_eq_true_eq, not_or]
    exact unreserved
  rw [← exists_line_iff now event distinct fun field occurs => (unreserved field occurs).1]
  constructor
  · rintro ⟨after, returned⟩
    rcases opened_of_write (write_of_answer located returned) with
      ⟨line, ready, location, opened, lined, prepares, opens, -⟩
    have noDirectory := noDirectory_of_opened linkFree apart large prepares opens
    refine ⟨isClear_of_prepare linkFree prepares, noDirectory, ?_, line, lined⟩
    rintro ⟨content, there, beyond, directoryThere⟩
    rw [← size] at beyond
    exact room_of_answer located linkFree apart noDirectory returned there beyond directoryThere
  · rintro ⟨clear, noDirectory, room, line, lined⟩
    have roomForBoth : ∀ entry, (logPair directory files).current = some entry →
        client.maxLogSize < FileTree.entrySize entry →
        (logPair directory files).older ≠ some .directory := by
      intro entry there beyond directoryThere
      cases entry with
      | file content => exact room ⟨content, there, size ▸ beyond, directoryThere⟩
      | directory => exact noDirectory there
      | link target => exact linkFree _ target there
      | device =>
          rw [FileTree.entrySize, FileTree.directorySize] at *
          omega
    rcases exists_write limits linkFree stands apart clear noDirectory roomForBoth line with
      ⟨after, writes⟩
    refine ⟨after, ?_⟩
    simp only [answer, emit, noReserved, enabled_of_directoryPath? located, located, lined, writes]
    rfl

/-- The directory is made by way of another one. The first call writes nested values, the second one
fails because of a set in a list. -/
theorem answer_returns_iff_nested :
    let client : TelemetryClient := { directory := some "new/../logs", maxMegabytes := 1 }
    let value : Value :=
      .dict [(.int 1, .list [.float 0, .null]), (.null, .tuple [.text "é", .bool true])]
    value.IsEncodable ∧ ¬(Value.list [.set []]).IsEncodable ∧
      (∃ after, client.answer ⟨0, .text "step", [("value", value), ("timestamp", .null)]⟩
        FileTree.empty = (.ok (), after)) ∧
      ¬∃ after, client.answer ⟨0, .text "step", [("value", .list [.set []])]⟩ FileTree.empty =
        (.ok (), after) := by
  intro client value
  have located : client.directoryPath? = some ⟨.workingDirectory, ["new", "..", "logs"]⟩ := by
    decide
  have limits : IsWithinLimits ⟨.workingDirectory, ["new", "..", "logs"]⟩ :=
    ⟨by decide, by decide, by decide, by decide⟩
  have apart : IsApart ⟨.workingDirectory, ["new", "..", "logs"]⟩ := by
    simp [IsApart, logName, olderLogName]
  have stands : FileTree.empty.StandsAt FileTree.empty.workingDirectory := by
    have each : ∀ above ∈ List.inits FileTree.home, FileTree.empty.isDirectoryAt above = true := by
      decide
    exact fun above below => each above ((List.mem_inits _ _).mpr below)
  have clear : FileTree.empty.IsClear ["work"] ["new", "..", "logs"] := by
    have each : ∀ front ∈ List.inits ["new", "..", "logs"],
        ∀ entry ∈ FileTree.empty.get? (FileTree.resolve ["work"] front), entry = .directory := by
      decide
    exact fun front beginning entry there =>
      each front ((List.mem_inits _ _).mpr beginning) entry there
  have encodable : value.IsEncodable := by
    refine Value.IsEncodable.dict ?_ ?_
    · simp [Value.IsKey.int 1 (by decide), Value.IsKey.null]
    · simp only [List.forall_mem_cons, List.not_mem_nil, false_implies, implies_true, and_true]
      refine ⟨Value.IsEncodable.list ?_, Value.IsEncodable.tuple ?_⟩
      · simp [Value.IsEncodable.key, Value.IsKey.float, Value.IsKey.null]
      · simp [Value.IsEncodable.key, Value.IsKey.text, Value.IsKey.bool]
  have notEncodable : ¬(Value.list [.set []]).IsEncodable := by
    rw [← Value.exists_record_iff]
    rintro ⟨written, recorded⟩
    cases recorded
  have distinct : ([("value", value), ("timestamp", .null)].map Prod.fst).Nodup := by decide
  have distinctToo : ([("value", Value.list [.set []])].map Prod.fst).Nodup := by decide
  refine ⟨encodable, notEncodable, ?_, ?_⟩
  · refine (answer_returns_iff client (by decide) located limits apart FileTree.linkFree_empty
      stands 0 "step" distinct (by decide)).mpr ⟨clear, by decide, ?_, ?_⟩
    · rintro ⟨content, -, -, impossible⟩
      cases impossible
    · simp [encodable, Value.IsEncodable.key, Value.IsKey.null]
  · intro returned
    have conditions := (answer_returns_iff client (by decide) located limits apart
      FileTree.linkFree_empty stands 0 "step" distinctToo (by decide)).mp returned
    exact notEncodable (conditions.2.2.2 ("value", .list [.set []]) (by simp))

end BuildSteps.TelemetryClient
