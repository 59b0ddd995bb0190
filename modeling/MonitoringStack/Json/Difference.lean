import MonitoringStack.Json.Overlay
import MonitoringStack.Json.Printer

namespace MonitoringStack.Json

structure Change where
  existing : Option Json
  desired : Json

abbrev Difference := KeyMap String Change

/-- The path of a field below a path; the path of the whole is empty, and so is that of a field
without a name at the top. -/
def childPath (path key : String) : String :=
  if path = "" then key else path ++ "." ++ key

mutual

/-- The non-empty leaves of a desired value that differ from the existing one, in the order of the
fields. Arrays are leaves. -/
def changes (path : String) (existing : Option Json) : Json → List (String × Change)
  | .object fields => fieldChanges path existing fields
  | desired =>
    if desired.isEmpty || existing.any (· == desired) then [] else [(path, ⟨existing, desired⟩)]

def fieldChanges (path : String) (existing : Option Json) :
    List (String × Json) → List (String × Change)
  | [] => []
  | (key, desired) :: rest =>
    changes (childPath path key) (existing.bind (·.get? key)) desired ++
      fieldChanges path existing rest

end

/-- How the existing value falls short of the desired one. Where two leaves share a path the later
one is reported. -/
def difference (existing desired : Json) : Difference :=
  KeyMap.ofList (changes "" (some existing) desired)

def Change.text (c : Change) : String :=
  (c.existing.map Json.text).getD "<none>" ++ " -> " ++ c.desired.text

def Difference.text (d : Difference) : String :=
  "\n".intercalate (d.entries.map fun e => e.1 ++ ": " ++ e.2.text)

end MonitoringStack.Json
