import MonitoringStack.Json.Basic

namespace MonitoringStack.Json

/-- Values that express no opinion when they are desired. -/
def isEmpty : Json → Bool
  | .null => true
  | .bool b => !b
  | .number n => n.isZero
  | .string s => s = ""
  | .array items => items.isEmpty
  | .object fields => fields.isEmpty

mutual

/-- The existing value with every non-empty part of the desired one laid on top. -/
def overlay (existing : Json) : Json → Json
  | .object [] => existing
  | .object (f :: rest) => .object (overlayFields existing.fields (f :: rest))
  | desired => if desired.isEmpty then existing else desired

def overlayFields (existing : List (String × Json)) : List (String × Json) → List (String × Json)
  | [] => existing
  | (key, desired) :: rest =>
    if desired.isEmpty then overlayFields existing rest
    else
      let base := (Entries.get? key existing).getD .null
      overlayFields (Entries.insert key (overlay base desired) existing) rest

end

end MonitoringStack.Json
