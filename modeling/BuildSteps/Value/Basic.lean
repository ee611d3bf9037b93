import BuildSteps.Files.PathName

/-!
# Dynamic values

Telemetry fields and explicit settings hold values of any kind. A dictionary keeps the order in
which its keys first arrived; two keys are the same if they are equal as texts, bytes, paths or
tuples, or equal as numbers, where the truth values count as 1 and 0.
-/

namespace BuildSteps

/-- A value of a telemetry field or of an explicit setting. Bytes are those of a text in UTF-8. -/
inductive Value where
  | null
  | bool (truth : Bool)
  | int (number : Int)
  | float (number : Float)
  | text (content : String)
  | bytes (content : String)
  | path (name : PathName)
  | list (items : List Value)
  | tuple (items : List Value)
  | set (items : List Value)
  | dict (entries : List (Value × Value))

instance : Inhabited Value := ⟨.null⟩

namespace Value

/-- The name of the kind of a value. -/
def kindName : Value → String
  | .null => "NoneType"
  | .bool _ => "bool"
  | .int _ => "int"
  | .float _ => "float"
  | .text _ => "str"
  | .bytes _ => "bytes"
  | .path _ => "PosixPath"
  | .list _ => "list"
  | .tuple _ => "tuple"
  | .set _ => "set"
  | .dict _ => "dict"

end Value

end BuildSteps
