import BuildSteps.Files.Operations
import BuildSteps.Telemetry.Emission
import BuildSteps.Timestamp
import BuildSteps.Value.Dictionary
import BuildSteps.Value.Record

/-!
# The telemetry log

A client with a directory writes one line of JSON for each event at the end of a log file in that
directory. A log that has grown beyond the limit is first renamed, in place of the older log of
the time before. A client without a directory writes nothing.

The directory is made and the log is opened before the record is written out, so a record without
a written form leaves an empty log behind, and a rotation that was due.
-/

namespace BuildSteps

/-- A client that writes telemetry to a directory. -/
structure TelemetryClient where
  directory : Option String := none
  maxMegabytes : Int := 10
  deriving Repr, DecidableEq

/-- Why an event was not written. -/
inductive LogError where
  | noDirectory
  | file (error : FileError)
  | unencodable (reason : Unencodable)
  deriving Repr, DecidableEq

/-- The wording of the reason. -/
def LogError.message : LogError → String
  | .noDirectory => "'NoneType' object has no attribute 'mkdir'"
  | .file error => error.message
  | .unencodable reason => reason.message

/-- Why an event was refused: a field that is named like an argument, or a failed write. -/
inductive EmitError where
  | reservedField (name : String)
  | notWritten (error : LogError)
  deriving Repr, DecidableEq

/-- An error as a fault of the telemetry. -/
def EmitError.fault : EmitError → Fault
  | .reservedField name =>
    ⟨.argument, "TelemetryClient.emit() got multiple values for argument '" ++ name ++ "'"⟩
  | .notWritten error => ⟨.telemetry, "Failed to write telemetry: " ++ error.message⟩

namespace TelemetryClient

/-- The name of the log file. -/
def logName : String := "ci_build_telemetry.jsonl"

/-- The name of the older log file. -/
def olderLogName : String := "ci_build_telemetry.jsonl.1"

/-- Whether events are written at all. -/
def enabled (client : TelemetryClient) : Bool :=
  client.directory.isSome

/-- The directory of the logs; an empty text names none. -/
def directoryPath? (client : TelemetryClient) : Option PathName :=
  match client.directory with
  | none => none
  | some "" => none
  | some text => some (.ofText text)

/-- The path of the log file. -/
def logPath? (client : TelemetryClient) : Option PathName :=
  client.directoryPath?.map (·.child logName)

/-- The size beyond which a log is rotated. -/
def maxLogSize (client : TelemetryClient) : Int :=
  client.maxMegabytes * 1024 * 1024

/-- The members of the record of an event, in order. -/
def members (now : Int) (event : Value) (fields : List (String × Value)) : List (String × Value) :=
  gatherBy (fun left right => decide (left = right))
    (("timestamp", .text (Timestamp.text now)) :: ("event", event) :: fields)

/-- The line of an event. -/
def recordLine (now : Int) (event : Value) (fields : List (String × Value)) :
    Except Unencodable String :=
  let entries := (members now event fields).map fun member => (Value.text member.1, member.2)
  match (Value.dict entries).record with
  | .ok written => .ok (String.ofList (written ++ ['\n']))
  | .error reason => .error reason

/-- Whether the log is larger than the limit. -/
def isOversized (client : TelemetryClient) (log : PathName) (files : FileTree) : Bool :=
  match files.entryAt? log with
  | some entry => decide (client.maxLogSize < FileTree.entrySize entry)
  | none => false

/-- Removes the older log, if there is one, and renames the log. -/
def shiftLogs (log older : PathName) (files : FileTree) : Except FileError Unit × FileTree :=
  match files.hasEntry older with
  | .error error => (.error error, files)
  | .ok present =>
    match if present then files.unlink older else .ok files with
    | .error error => (.error error, files)
    | .ok cleared =>
      match cleared.rename log older with
      | .error error => (.error error, cleared)
      | .ok renamed => (.ok (), renamed)

/-- Rotates the logs if the log is larger than the limit. -/
def rotate (client : TelemetryClient) (directory : PathName) (files : FileTree) :
    Except FileError Unit × FileTree :=
  let log := directory.child logName
  match files.hasEntry log with
  | .error error => (.error error, files)
  | .ok _ =>
    if client.isOversized log files then shiftLogs log (directory.child olderLogName) files
    else (.ok (), files)

/-- Makes the directory and rotates the logs. -/
def prepare (client : TelemetryClient) (directory : PathName) (files : FileTree) :
    Except FileError Unit × FileTree :=
  match files.ensureDirectory directory with
  | (.error error, partly) => (.error error, partly)
  | (.ok _, ready) => client.rotate directory ready

/-- Writes the record of an event at the end of the log. -/
def append (directory : PathName) (line : Except Unencodable String) (files : FileTree) :
    Except LogError Unit × FileTree :=
  match files.openForAppend (directory.child logName) with
  | .error error => (.error (.file error), files)
  | .ok (location, opened) =>
    match line with
    | .error reason => (.error (.unencodable reason), opened)
    | .ok text => (.ok (), opened.appendAt location text)

/-- Writes an event into the log in a directory. -/
def write (client : TelemetryClient) (directory : PathName) (line : Except Unencodable String)
    (files : FileTree) : Except LogError Unit × FileTree :=
  match client.prepare directory files with
  | (.error error, partly) => (.error (.file error), partly)
  | (.ok _, ready) => append directory line ready

/-- The first field that is named like an argument of the call. -/
def reservedField? (fields : List (String × Value)) : Option String :=
  (fields.find? fun field => field.1 ∈ ["event", "self"]).map Prod.fst

/-- Writes an event with its fields, at a given instant. -/
def emit (client : TelemetryClient) (now : Int) (event : Value) (fields : List (String × Value))
    (files : FileTree) : Except EmitError Unit × FileTree :=
  match reservedField? fields with
  | some name => (.error (.reservedField name), files)
  | none =>
    if client.enabled = false then (.ok (), files)
    else
      match client.directoryPath? with
      | none => (.error (.notWritten .noDirectory), files)
      | some directory =>
        match client.write directory (recordLine now event fields) files with
        | (.ok _, written) => (.ok (), written)
        | (.error error, partly) => (.error (.notWritten error), partly)

/-- A client as the sink of a runner, at a given instant. -/
def sink (client : TelemetryClient) (now : Int) : Sink FileTree where
  send emission files :=
    match client.emit now (.text emission.event.name) emission.fields files with
    | (.ok _, written) => (.ok (), written)
    | (.error error, partly) => (.error error.fault, partly)

end TelemetryClient

end BuildSteps
