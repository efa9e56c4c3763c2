import StepScript.Event

/-!
# Messages: what the bridge sends to the host

An event of the editor, the reply to a query, or the failure of a request. Each is one line of
data. Inside the result of a reply, members are in the order of their names.
-/

namespace StepScript

/-- What the bridge sends to the host. -/
inductive Message where
  | event (event : Event)
  | reply (method : Text) (result : Json.Value)
  | failure (method error : Text)

namespace Message

/-- A message as data. -/
def toValue : Message → Json.Value
  | event e => e.toValue
  | reply method result => .record [("method", .string method), ("result", result.byName)]
  | failure method error => .record [("method", .string method), ("error", .string error)]

/-- A message as a line. -/
def line (m : Message) : Text := m.toValue.compact

end Message

end StepScript
