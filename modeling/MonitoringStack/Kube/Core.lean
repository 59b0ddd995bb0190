import MonitoringStack.Kube.Object

namespace MonitoringStack.Kube

open Json (Slot Form)

open Wire

/-- Objects of the core group name their version and kind, or leave them out; another name is
refused. -/
def namesItself (kind : String) (j : Json) : Bool :=
  j.fields.all fun f =>
    (f.1 ≠ "apiVersion" || f.2 == .string "v1") && (f.1 ≠ "kind" || f.2 == .string kind)

def base64Digit? (c : Char) : Option Nat :=
  if 'A' ≤ c && c ≤ 'Z' then some (c.toNat - 65)
  else if 'a' ≤ c && c ≤ 'z' then some (c.toNat - 71)
  else if c.isDigit then some (c.toNat + 4)
  else if c = '+' then some 62
  else if c = '/' then some 63
  else none

/-- Groups of four digits, the last one padded, with no bits left over. -/
def isBase64 : List Char → Bool
  | [] => true
  | [a, b, '=', '='] =>
    (base64Digit? a).isSome && (base64Digit? b).any (· % 16 = 0)
  | [a, b, c, '='] =>
    (base64Digit? a).isSome && (base64Digit? b).isSome && (base64Digit? c).any (· % 4 = 0)
  | a :: b :: c :: d :: rest => [a, b, c, d].all (base64Digit? · |>.isSome) && isBase64 rest
  | _ => false

def bytes? (j : Json) : Option String :=
  (string? j).bind fun s => if isBase64 s.toList then some s else none

def byteMap? (j : Json) : Option (KeyMap String String) :=
  map? (fun b => if b.isNull then some "" else bytes? b) j

def constant (s : String) : Form :=
  .scalar fun j =>
    match j with
    | .string t => if t = s then none else some (j.wrongValue s)
    | j => some (j.wrongType "a string")

def coreFields (kind : String) : List (Slot Form) :=
  [.defaulted "apiVersion" (constant "v1"),
    .defaulted "kind" (constant kind), .optional "metadata" Metadata.form]

def byteMap : Form := .map (.nullable (scalar "a base64-encoded string" bytes?))

structure Secret where
  data : Option (KeyMap String String) := none
  immutable : Option Bool := none
  metadata : Metadata := {}
  stringData : Option (KeyMap String String) := none
  type : Option String := none

namespace Secret

def form : Form :=
  .record .loose "Secret" <| coreFields "Secret" ++ [.optional "data" byteMap,
    .optional "immutable" bool, .optional "stringData" (.map string), .optional "type" string]

def decode? (j : Json) : Option Secret :=
  match j with
  | .object _ =>
    if namesItself "Secret" j then do
      return {
        data := ← lenient? j "data" byteMap?
        immutable := ← lenient? j "immutable" bool?
        metadata := (← lenient? j "metadata" Metadata.decode?).getD {}
        stringData := ← lenient? j "stringData" (map? string?)
        type := ← lenient? j "type" string? }
    else none
  | _ => none

def encode (s : Secret) : Json :=
  .object <| [("apiVersion", .string "v1")] ++ present "data" stringMap s.data ++
    present "immutable" .bool s.immutable ++
    [("kind", .string "Secret"), ("metadata", s.metadata.encode)] ++
    present "stringData" stringMap s.stringData ++ present "type" .string s.type

instance : Resource Secret where
  kind := "Secret"
  group := ""
  version := "v1"
  plural := "secrets"
  metadata := metadata
  withMetadata s m := { s with metadata := m }
  metadata_withMetadata _ _ := rfl
  encode := encode
  form := form
  decode? := decode?

end Secret

structure ConfigMap where
  binaryData : Option (KeyMap String String) := none
  data : Option (KeyMap String String) := none
  immutable : Option Bool := none
  metadata : Metadata := {}

namespace ConfigMap

def form : Form :=
  .record .loose "ConfigMap" <| coreFields "ConfigMap" ++ [.optional "binaryData" byteMap,
    .optional "data" (.map string), .optional "immutable" bool]

def decode? (j : Json) : Option ConfigMap :=
  match j with
  | .object _ =>
    if namesItself "ConfigMap" j then do
      return {
        binaryData := ← lenient? j "binaryData" byteMap?
        data := ← lenient? j "data" (map? string?)
        immutable := ← lenient? j "immutable" bool?
        metadata := (← lenient? j "metadata" Metadata.decode?).getD {} }
    else none
  | _ => none

def encode (c : ConfigMap) : Json :=
  .object <| [("apiVersion", .string "v1")] ++ present "binaryData" stringMap c.binaryData ++
    present "data" stringMap c.data ++ present "immutable" .bool c.immutable ++
    [("kind", .string "ConfigMap"), ("metadata", c.metadata.encode)]

instance : Resource ConfigMap where
  kind := "ConfigMap"
  group := ""
  version := "v1"
  plural := "configmaps"
  metadata := metadata
  withMetadata c m := { c with metadata := m }
  metadata_withMetadata _ _ := rfl
  encode := encode
  form := form
  decode? := decode?

end ConfigMap

end MonitoringStack.Kube
