import MonitoringStack.Store.Interface
import MonitoringStack.Kube.Client

namespace MonitoringStack.Kube

open Json (Slot Form)

open Wire

section Address

def collection (α : Type) [Resource α] (ns? : Option String) : String :=
  let group := Resource.group α
  (if group = "" then "/api/" else "/apis/" ++ group ++ "/") ++ Resource.version α ++
    (match ns? with
      | some ns => "/namespaces/" ++ ns
      | none => "") ++ "/" ++ Resource.plural α

def hexUpper (n : Nat) : Char := if n < 10 then Char.ofNat (48 + n) else Char.ofNat (55 + n)

def formByte (b : UInt8) : List Char :=
  let n := b.toNat
  let c := Char.ofNat n
  if n < 128 && (c.isAlphanum || c = '*' || c = '-' || c = '.' || c = '_') then [c]
  else if c = ' ' then ['+']
  else ['%', hexUpper (n / 16), hexUpper (n % 16)]

def formEncoded (s : String) : String :=
  String.ofList (s.toUTF8.toList.flatMap formByte)

end Address

section Lists

def listMetadata : Form :=
  .record .loose "ListMeta" [.optional "continue" string,
    .optional "remainingItemCount" (integer "i64" int64?),
    .optional "resourceVersion" string, .optional "selfLink" string]

/-- A list of items, which may be `null` but not left out. -/
def listForm (item : Form) : Form :=
  .record .extensible "ObjectList"
    [.defaulted "metadata" listMetadata, .required "items" (.nullable (.list item))]

def listItems? {β : Type} (decode : Json → Option β) (j : Json) : Option (List β) :=
  (j.get? "items").bind fun items => if items.isNull then some [] else list? decode items

def listOfText {α : Type} [Resource α] (text : String) : Except Json.Unreadable (List α) :=
  (listForm (Resource.form α)).decode (listItems? Resource.decode?) text

end Lists

section Statuses

def cause : Form :=
  .record .plain "StatusCause" [.defaulted "reason" string, .defaulted "message" string,
    .defaulted "field" string]

def details : Form :=
  .record .plain "StatusDetails" [.defaulted "name" string, .defaulted "group" string,
    .defaulted "kind" string,
    .defaulted "uid" string, .defaulted "causes" (.list cause),
    .defaulted "retryAfterSeconds" (integer "u32" (intBetween? 0 0xFFFFFFFF))]

def status : Form :=
  .record .plain "Status" [.optional "status" (.choice ["Success", "Failure"]),
    .defaulted "code" (integer "u16" ApiFailure.code?), .defaulted "message" string,
    .defaulted "reason" string, .optional "details" details]

/-- What a deletion is answered with: a status, or the object as it was. -/
def deletedOfText (α : Type) [Resource α] (text : String) : Except Json.Unreadable Unit := do
  let j ← Form.any.decode Json.settle? text
  if (j.get? "kind").any (· == .string "Status") then
    let _ ← status.read text
  else
    let _ ← (Resource.ofText text : Except Json.Unreadable α)

end Statuses

namespace Cluster

variable {m : Type → Type} [Monad m] {α : Type} [Resource α] (server : Server m)

def identity (a : α) : Except StoreError Key :=
  match (Resource.metadata a).name with
  | none => .error (.invalidResource (Resource.kind α ++ " is missing metadata.name"))
  | some name =>
    match (Resource.metadata a).ns? with
    | none =>
      .error <| .invalidResource <|
        Resource.kind α ++ " " ++ name ++ " is missing metadata.namespace"
    | some ns => .ok ⟨ns, name⟩

def explained {β : Type} (what : String) (result : m (Except ClientError β)) :
    m (Except StoreError β) :=
  (·.mapError (StoreError.ofClientError what)) <$> result

def get (key : Key) : m (Except StoreError α) :=
  explained (Resource.describe α key.ns key.name) <| sendNamed key.name <|
    send server "GET" (collection α (some key.ns) ++ "/" ++ key.name) none none
      Resource.ofText

def list (ns? : Option String) (selector : Selector) : m (Except StoreError (List α)) :=
  let query :=
    if selector.isEmpty then "" else "&labelSelector=" ++ formEncoded selector.query
  explained (Resource.kind α ++ " list") <|
    send server "GET" (collection α ns? ++ "?" ++ query) none none listOfText

def create (a : α) : m (Except StoreError α) :=
  match identity a with
  | .error e => return .error e
  | .ok key =>
    explained (Resource.describe α key.ns key.name) <|
      send server "POST" (collection α (some key.ns) ++ "?") (some jsonType)
        (some (Resource.encode a)) Resource.ofText

def update (a : α) : m (Except StoreError α) :=
  match identity a with
  | .error e => return .error e
  | .ok key =>
    explained (Resource.describe α key.ns key.name) <| sendNamed key.name <|
      send server "PUT" (collection α (some key.ns) ++ "/" ++ key.name ++ "?") (some jsonType)
        (some (Resource.encode a)) Resource.ofText

def delete (α : Type) [Resource α] (key : Key) : m (Except StoreError Unit) :=
  explained (Resource.describe α key.ns key.name) <| sendNamed key.name <|
    send server "DELETE" (collection α (some key.ns) ++ "/" ++ key.name ++ "?")
      (some jsonType) (some (.object [])) (deletedOfText α)

def access : ResourceStore m α where
  get := get server
  list := list server
  create := create server
  update := update server
  delete := delete server α

end Cluster

end MonitoringStack.Kube
