import MonitoringStack.KeyMap
import MonitoringStack.Decimal.Binary64

namespace MonitoringStack

namespace Json

inductive Number where
  | int (n : Int)
  | real (x : Binary64)
deriving DecidableEq

namespace Number

def isZero : Number → Bool
  | .int n => n = 0
  | .real x => x.isZero

def same : Number → Number → Bool
  | .int m, .int n => m = n
  | .real x, .real y => x.same y
  | _, _ => false

end Number

end Json

/-- A JSON tree. The reader keeps the fields of an object as they were written; everywhere else
they stand in ascending key order, each key once (`Json.Sorted`). -/
inductive Json where
  | null
  | bool (b : Bool)
  | number (n : Json.Number)
  | string (s : String)
  | array (items : List Json)
  | object (fields : List (String × Json))
deriving Inhabited

namespace Json

/-- An object whose first key is this one stands for the value whose text is written under it. -/
def embeddedKey : String := "$serde_json::private::RawValue"

def int (n : Int) : Json := .number (.int n)

def nat (n : Nat) : Json := .int n

def fields : Json → List (String × Json)
  | .object fields => fields
  | _ => []

def items : Json → List Json
  | .array items => items
  | _ => []

def get? (j : Json) (key : String) : Option Json := Entries.get? key j.fields

def at? : List String → Json → Option Json
  | [], j => some j
  | key :: rest, j => (j.get? key).bind (at? rest)

def isNull : Json → Bool
  | .null => true
  | _ => false

mutual

def Sorted : Json → Prop
  | .array items => SortedItems items
  | .object fields => Entries.Sorted fields ∧ SortedFields fields
  | _ => True

def SortedItems : List Json → Prop
  | [] => True
  | j :: rest => j.Sorted ∧ SortedItems rest

def SortedFields : List (String × Json) → Prop
  | [] => True
  | (_, j) :: rest => j.Sorted ∧ SortedFields rest

end

mutual

/-- The sorted tree that a tree as written stands for; of two fields with one key the later
stands. -/
def canonical : Json → Json
  | .array items => .array (canonicalItems items)
  | .object fields => .object (canonicalFields fields [])
  | j => j

def canonicalItems : List Json → List Json
  | [] => []
  | j :: rest => j.canonical :: canonicalItems rest

def canonicalFields : List (String × Json) → List (String × Json) → List (String × Json)
  | [], acc => acc
  | (key, j) :: rest, acc => canonicalFields rest (Entries.insert key j.canonical acc)

end

mutual

def same : Json → Json → Bool
  | .null, .null => true
  | .bool a, .bool b => a = b
  | .number m, .number n => m.same n
  | .string s, .string t => s = t
  | .array xs, .array ys => sameItems xs ys
  | .object fs, .object gs => sameFields fs gs
  | _, _ => false

def sameItems : List Json → List Json → Bool
  | [], [] => true
  | x :: xs, y :: ys => same x y && sameItems xs ys
  | _, _ => false

def sameFields : List (String × Json) → List (String × Json) → Bool
  | [], [] => true
  | (k, x) :: fs, (l, y) :: gs => k = l && same x y && sameFields fs gs
  | _, _ => false

end

instance : BEq Json := ⟨same⟩

end Json

end MonitoringStack
