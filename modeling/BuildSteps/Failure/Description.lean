import BuildSteps.Failure
import BuildSteps.Value.Dictionary
import BuildSteps.Value.Literal

/-!
# Descriptions of failures

A failure can be described by its kind and some values. The values must be neither too few nor too
many for the kind. Where a list is asked for, every value that has items will do: a text has its
characters, bytes have their numbers, and a dictionary has its keys. A wording that is put together
from the items of a list needs texts; the program that cannot be found may be of any kind.
-/

namespace BuildSteps

/-- The kinds of failures that can be described. -/
inductive FailureKind where
  | general
  | command
  | missingProgram
  | unknownSubcommand
  | telemetry
  deriving Repr, DecidableEq

namespace FailureKind

/-- The name of a kind. -/
def name : FailureKind → String
  | .general => "CIBuildError"
  | .command => "ToolchainError"
  | .missingProgram => "ToolchainNotFoundError"
  | .unknownSubcommand => "UnknownSubcommandError"
  | .telemetry => "TelemetryError"

/-- The kinds that a failure of a kind belongs to, from the narrowest on. -/
def lineage : FailureKind → List FailureKind
  | .general => [.general]
  | .command => [.command, .general]
  | .missingProgram => [.missingProgram, .command, .general]
  | .unknownSubcommand => [.unknownSubcommand, .general]
  | .telemetry => [.telemetry]

/-- The names of the values that a description needs, in order. -/
def required : FailureKind → List String
  | .general => []
  | .command => ["command", "exit_code"]
  | .missingProgram => ["command"]
  | .unknownSubcommand => ["name", "known"]
  | .telemetry => ["message"]

/-- The number of values that a description may have, unless it may have any number. -/
def limit? : FailureKind → Option Nat
  | .general => none
  | .command => some 3
  | .missingProgram => some 1
  | .unknownSubcommand => some 2
  | .telemetry => some 1

end FailureKind

/-- Why values do not describe a failure. -/
inductive DescriptionError where
  | missing (kind : FailureKind) (names : List String)
  | surplus (kind : FailureKind) (limit count : Nat)
  | noItems (kindName : String)
  | noPlaces (kindName : String)
  | emptySequence (kindName : String)
  | missingKey
  | noText (position : Nat) (kindName : String)
  deriving Repr, DecidableEq

namespace DescriptionError

/-- What an empty sequence of a kind is called, with a space behind it. -/
def sequenceName (kindName : String) : String :=
  if kindName = "bytes" then ""
  else if kindName = "str" then "string "
  else kindName ++ " "

/-- The number of values that are allowed, where each description counts itself. -/
def allowance (kind : FailureKind) (limit : Nat) : String :=
  let least := kind.required.length
  if least = limit then toString (limit + 1)
  else "from " ++ toString (least + 1) ++ " to " ++ toString (limit + 1)

/-- The wording of a reason. -/
def message : DescriptionError → String
  | .missing kind names =>
    kind.name ++ ".__init__() missing " ++ toString names.length ++
      " required positional argument" ++ (if names.length = 1 then "" else "s") ++ ": " ++
      " and ".intercalate (names.map fun name => "'" ++ name ++ "'")
  | .surplus kind limit count =>
    kind.name ++ ".__init__() takes " ++ allowance kind limit ++
      " positional arguments but " ++ toString (count + 1) ++ " were given"
  | .noItems kindName => "'" ++ kindName ++ "' object is not iterable"
  | .noPlaces kindName => "'" ++ kindName ++ "' object is not subscriptable"
  | .emptySequence kindName => sequenceName kindName ++ "index out of range"
  | .missingKey => "0"
  | .noText position kindName => noTextWording position kindName

end DescriptionError

/-- What a described failure carries besides its wording. -/
inductive FailureDetails where
  | nothing
  | command (exitCode : Value) (command : List Value)
  | unknown (name : Value) (known : List Value)

/-- A failure that was described. -/
structure DescribedFailure where
  kind : FailureKind
  message : String
  details : FailureDetails

namespace Value

/-- A value as it stands in a wording. -/
def wording (value : Value) : String :=
  String.ofList value.plainText

/-- The numbers of bytes. -/
def byteItems (content : String) : List Value :=
  content.toUTF8.toList.map fun byte => .int byte.toNat

/-- The items of a value. -/
def items : Value → Except DescriptionError (List Value)
  | .text content => .ok (content.toList.map fun char => .text (String.singleton char))
  | .bytes content => .ok (byteItems content)
  | .list items => .ok items
  | .tuple items => .ok items
  | .set items => .ok items
  | .dict entries => .ok (entries.map Prod.fst)
  | value => .error (.noItems value.kindName)

/-- The first of the items of a sequence. -/
def headOf (sequence : Value) (items : List Value) : Except DescriptionError Value :=
  match items with
  | item :: _ => .ok item
  | [] => .error (.emptySequence sequence.kindName)

/-- What stands at place zero of a value: the first item of a sequence, or what a dictionary holds
under zero. -/
def atZero (value : Value) : Except DescriptionError Value :=
  match value with
  | .text content =>
    headOf value (content.toList.map fun char => .text (String.singleton char))
  | .bytes content => headOf value (byteItems content)
  | .list items => headOf value items
  | .tuple items => headOf value items
  | .dict entries =>
    match entries.find? fun entry => sameKey entry.1 (.int 0) with
    | some entry => .ok entry.2
    | none => .error .missingKey
  | _ => .error (.noPlaces value.kindName)

/-- The texts that some values are, given the position of the first. -/
def textsFrom (position : Nat) : List Value → Except DescriptionError (List String)
  | [] => .ok []
  | .text content :: rest => (textsFrom (position + 1) rest).map (content :: ·)
  | value :: _ => .error (.noText position value.kindName)

/-- Whether a value says anything: it is not null, false, zero or empty. -/
def isTruthy : Value → Bool
  | .null => false
  | .bool truth => truth
  | .int number => number ≠ 0
  | .float number => !(number == 0)
  | .text content => content ≠ ""
  | .bytes content => content ≠ ""
  | .path _ => true
  | .list items => !items.isEmpty
  | .tuple items => !items.isEmpty
  | .set items => !items.isEmpty
  | .dict entries => !entries.isEmpty

end Value

namespace FailureKind

/-- What is wrong with the number of values of a description. -/
def countError? (kind : FailureKind) (count : Nat) : Option DescriptionError :=
  let absent := kind.required.drop count
  match kind.limit? with
  | some limit =>
    if limit < count then some (.surplus kind limit count)
    else if absent = [] then none
    else some (.missing kind absent)
  | none => none

/-- The wording of a failure that is made of values alone. -/
def plainMessage : List Value → String
  | [] => ""
  | [value] => value.wording
  | values => (Value.tuple values).wording

/-- The failure of a command. A note that says nothing is replaced. -/
def describeCommand (command exitCode note : Value) : Except DescriptionError DescribedFailure :=
  match command.items with
  | .error error => .error error
  | .ok items =>
    let details : FailureDetails := .command exitCode items
    if note.isTruthy then .ok ⟨.command, note.wording, details⟩
    else
      (Value.textsFrom 0 items).map fun texts =>
        ⟨.command, failedWording exitCode.wording texts, details⟩

/-- The failure of a command whose program cannot be found. -/
def describeMissingProgram (command : Value) : Except DescriptionError DescribedFailure :=
  match command.atZero with
  | .error error => .error error
  | .ok program =>
    command.items.map fun items =>
      ⟨.missingProgram, notFoundWording program.wording, .command (.int notFoundStatus) items⟩

/-- The failure of a name that is not among the known ones. -/
def describeUnknown (name known : Value) : Except DescriptionError DescribedFailure :=
  match known.items with
  | .error error => .error error
  | .ok items =>
    (Value.textsFrom 0 items).map fun texts =>
      ⟨.unknownSubcommand, unknownWording name.wording texts, .unknown name items⟩

/-- The failure of a kind that some values describe. -/
def describe (kind : FailureKind) (values : List Value) :
    Except DescriptionError DescribedFailure :=
  match kind.countError? values.length with
  | some error => .error error
  | none =>
    let value (position : Nat) : Value := values[position]?.getD .null
    match kind with
    | .command => describeCommand (value 0) (value 1) (value 2)
    | .missingProgram => describeMissingProgram (value 0)
    | .unknownSubcommand => describeUnknown (value 0) (value 1)
    | .general => .ok ⟨.general, plainMessage values, .nothing⟩
    | .telemetry => .ok ⟨.telemetry, plainMessage values, .nothing⟩

end FailureKind

end BuildSteps
