import MonitoringStack.Json.Fit

namespace MonitoringStack.Wire

open Json

/-- The fields of an object that a record has. One that is given twice refuses the object; other
fields do not count. -/
def named? (fields : List (Slot Form)) : Json → Option (List (String × Json))
  | .object given =>
    let known := given.filter fun g => g.1 ∈ fields.map (·.name)
    if (known.map (·.1)).Nodup then some known else none
  | _ => none

/-- The fields of a record, from an object or from an array that lists them in their order. -/
def record? (fields : List (Slot Form)) : Json → Option (List (String × Json))
  | .array items =>
    if items.length ≤ fields.length && (fields.drop items.length).all (·.need = .defaulted) then
      some ((fields.map (·.name)).zip items)
    else none
  | j => named? fields j

section Fields

variable {α : Type} (fields : List (String × Json)) (key : String) (decode : Json → Option α)

def required? : Option α :=
  (Entries.get? key fields).bind decode

def defaulted? (default : α) : Option α :=
  match Entries.get? key fields with
  | none => some default
  | some j => decode j

def optional? : Option (Option α) :=
  match Entries.get? key fields with
  | none | some .null => some none
  | some j => (decode j).map some

end Fields

def string? : Json → Option String
  | .string s => some s
  | _ => none

def bool? : Json → Option Bool
  | .bool b => some b
  | _ => none

def intBetween? (low high : Int) : Json → Option Int
  | .number (.int n) => if low ≤ n ∧ n ≤ high then some n else none
  | _ => none

def int32? (j : Json) : Option Int32 :=
  (intBetween? (-0x80000000) 0x7FFFFFFF j).map Int32.ofInt

def int64? (j : Json) : Option Int64 :=
  (intBetween? (-0x8000000000000000) 0x7FFFFFFFFFFFFFFF j).map Int64.ofInt

def uint64? (j : Json) : Option UInt64 :=
  (intBetween? 0 0xFFFFFFFFFFFFFFFF j).map fun n => UInt64.ofNat n.toNat

def list? {α : Type} (decode : Json → Option α) : Json → Option (List α)
  | .array items => items.mapM decode
  | _ => none

def map? {α : Type} (decode : Json → Option α) : Json → Option (KeyMap String α)
  | .object fields => (fields.mapM fun f => (decode f.2).map (f.1, ·)).map KeyMap.ofList
  | _ => none

def scalar {α : Type} (expected : String) (decode : Json → Option α) : Form :=
  .scalar fun j => if (decode j).isSome then none else some (j.wrongType expected)

def integer {α : Type} (expected : String) (decode : Json → Option α) : Form :=
  .scalar fun j =>
    if (decode j).isSome then none
    else
      match j with
      | .number (.int _) => some (j.wrongValue expected)
      | j => some (j.wrongType expected)

def string : Form := scalar "a string" string?

def bool : Form := scalar "a boolean" bool?

def strings (xs : List String) : Json := .array (xs.map .string)

def stringMap (m : KeyMap String String) : Json :=
  .object (m.entries.map fun e => (e.1, .string e.2))

def present {α : Type} (key : String) (encode : α → Json) : Option α → List (String × Json)
  | none => []
  | some a => [(key, encode a)]

end MonitoringStack.Wire
