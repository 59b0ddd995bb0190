import MonitoringStack.Json.Basic

namespace MonitoringStack.Json

inductive Need where
  | required
  -- An object may leave the field out, and an array may end before it.
  | defaulted
  -- An object may leave the field out, but an array has to list it.
  | listed
deriving DecidableEq

structure Slot (φ : Type) where
  name : String
  need : Need
  form : φ

inductive Style where
  -- As an object that gives no field twice, or as an array of the fields in their order. Other
  -- fields of the object are passed over.
  | plain
  -- As an object; of a field that is given twice the later counts. Other fields are passed
  -- over.
  | loose
  -- As an object that gives no field twice. Other fields are kept.
  | extensible
deriving DecidableEq

abbrev Objection := Json → Option String

/-- What is expected at a place of a text or of a tree. -/
inductive Form where
  | any
  | kept
  -- Any value. It is passed over, so numbers of any size, halves of characters and any nesting
  -- will do.
  | skipped
  | scalar (objection : Objection)
  -- A name, or an object with the name as its one key and `null` under it.
  | choice (names : List String)
  | nullable (form : Form)
  | list (item : Form)
  | map (value : Form)
  | record (style : Style) (name : String) (fields : List (Slot Form))
  | checked (form : Form) (objection : Objection)
deriving Inhabited

namespace Slot

def required (name : String) (form : Form) : Slot Form := ⟨name, .required, form⟩

def defaulted (name : String) (form : Form) : Slot Form := ⟨name, .defaulted, form⟩

/-- A field that may be `null`, which is as good as left out. -/
def optional (name : String) (form : Form) : Slot Form := ⟨name, .defaulted, .nullable form⟩

def listed (name : String) (form : Form) : Slot Form := ⟨name, .listed, .nullable form⟩

end Slot

def Style.recordName (style : Style) (name : String) : String :=
  match style with
  | .loose => name
  | .plain | .extensible => "struct " ++ name

def Form.expected : Form → String
  | .nullable form | .checked form _ => form.expected
  | .list _ => "a sequence"
  | .map _ => "a map"
  | .record style name _ => style.recordName name
  | .any | .kept | .skipped | .scalar _ | .choice _ => "any value"

end MonitoringStack.Json
