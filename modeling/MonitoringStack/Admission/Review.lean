import MonitoringStack.Admission.Rules
import MonitoringStack.Kube.Cluster

namespace MonitoringStack.Admission

open Json (Slot Form)

open Kube Wire

inductive Operation where
  | create
  | update
  | delete
  | connect
deriving DecidableEq

structure AnyObject where
  metadata : Metadata
  content : Json

structure Request where
  uid : String
  name : String := ""
  operation : Operation
  object : Option AnyObject := none
  oldObject : Option AnyObject := none

structure Review where
  apiVersion : String
  kind : String
  request : Option Request

structure Verdict where
  uid : String
  allowed : Bool
  status : Option String := none
  message : Option String := none
  reason : Option String := none
deriving DecidableEq

structure Answer where
  apiVersion : String
  kind : String
  verdict : Verdict
deriving DecidableEq

namespace Operation

def name : Operation → String
  | .create => "CREATE"
  | .update => "UPDATE"
  | .delete => "DELETE"
  | .connect => "CONNECT"

def all : List Operation := [.create, .update, .delete, .connect]

def decode? (j : Json) : Option Operation :=
  (Form.chosen? j).bind fun s => all.find? (·.name = s)

end Operation

section Decoding

namespace AnyObject

/-- What is left of some fields once the name of the kind has been looked for among them. Version
and kind are taken in their order up to the first that is no text or was taken before. -/
def besidesKind (taken : List String) : List (String × Json) → List (String × Json)
  | [] => []
  | (key, value) :: rest =>
    if key ∈ ["apiVersion", "kind"] then
      if (string? value).isSome && key ∉ taken then besidesKind (key :: taken) rest else rest
    else (key, value) :: besidesKind taken rest

/-- What an object holds besides its metadata and the name of its kind. If that starts with an
embedded text, it is all there is. -/
def content? (j : Json) : Option Json :=
  match besidesKind [] (j.fields.filter (·.1 ≠ "metadata")) with
  | [] => some (.object [])
  | (key, value) :: rest =>
    if key = Json.embeddedKey then (string? value).bind Json.ofText?
    else Json.settle? (.object ((key, value) :: rest))

def fields : List (Slot Form) := [.defaulted "metadata" Metadata.form]

def form : Form :=
  .checked (.record .extensible "DynamicObject" fields) fun j =>
    if (content? j).isSome then none else some (j.wrongType "an object without embedded texts")

def decode? (j : Json) : Option AnyObject := do
  let given ← named? fields j
  return {
    metadata := ← defaulted? given "metadata" Metadata.decode? {}
    content := ← content? j }

/-- The object as a cluster; what it calls itself does not matter. It is written out and read again,
which may find another embedded text in its metadata. -/
def cluster? (o : AnyObject) : Option ManagedCluster := do
  let spec ← (o.content.get? "spec").bind ManagedClusterSpec.decode?
  let metadata ← Metadata.decode? ((o.content.get? "metadata").getD o.metadata.encode)
  return ⟨metadata, spec⟩

end AnyObject

namespace Request

def kind : Form :=
  .record .plain "GroupVersionKind"
    [.required "group" string, .required "version" string, .required "kind" string]

def resource : Form :=
  .record .plain "GroupVersionResource" [.required "group" string, .required "version" string,
    .required "resource" string, .defaulted "api_version" string]

def userInfo : Form :=
  .record .loose "UserInfo" [.optional "extra" (.map (.list string)),
    .optional "groups" (.list string),
    .optional "uid" string, .optional "username" string]

def fields : List (Slot Form) :=
  [.required "uid" string, .required "kind" kind, .required "resource" resource,
    .optional "subResource" string, .optional "requestKind" kind,
    .optional "requestResource" resource, .optional "requestSubResource" string,
    .defaulted "name" string, .listed "namespace" string,
    .required "operation" (.choice (Operation.all.map (·.name))), .required "userInfo" userInfo,
    .listed "object" AnyObject.form, .listed "oldObject" AnyObject.form,
    .defaulted "dryRun" bool, .optional "options" .any]

def form : Form := .record .plain "AdmissionRequest" fields

def decode? (j : Json) : Option Request := do
  let fields ← record? fields j
  return {
    uid := ← required? fields "uid" string?
    name := ← defaulted? fields "name" string? ""
    operation := ← required? fields "operation" Operation.decode?
    object := ← optional? fields "object" AnyObject.decode?
    oldObject := ← optional? fields "oldObject" AnyObject.decode? }

end Request

def response : Form :=
  .record .plain "AdmissionResponse" [.required "uid" string, .required "allowed" bool,
    .required "status" status,
    .listed "patch" (.list (integer "u8" (intBetween? 0 255))),
    .listed "patchType" (.choice ["JSONPatch"]), .defaulted "auditAnnotations" (.map string),
    .listed "warnings" (.list string)]

namespace Review

def fields : List (Slot Form) :=
  [.optional "request" Request.form, .optional "response" response]

def untyped (j : Json) : Option String :=
  ["apiVersion", "kind"].findSome? fun name =>
    match j.fields.filter (·.1 = name) with
    | [(_, .string _)] => none
    | [(_, value)] => some (value.wrongType "a string")
    | [] => some (Json.missingField name)
    | _ => some (Json.duplicateField name)

def form : Form := .checked (.record .extensible "AdmissionReview" fields) untyped

def decode? (j : Json) : Option Review :=
  if form.fits j then do
    return {
      apiVersion := ← required? j.fields "apiVersion" string?
      kind := ← required? j.fields "kind" string?
      request := ← optional? j.fields "request" Request.decode? }
  else none

end Review

end Decoding

section Deciding

variable {m : Type → Type} [Monad m] (secrets : ResourceStore m Secret)

def cluster (object : Option AnyObject) (field : String) :
    Except AdmissionError ManagedCluster :=
  match object with
  | none => .error (.invalidObject ("review has no " ++ field))
  | some o =>
    match o.cluster? with
    | some c => .ok c
    | none => .error (.invalidObject (field ++ " is not a ManagedCluster: spec cannot be read"))

def previous (object : Option AnyObject) : Option ManagedCluster :=
  (cluster object "oldObject").toOption

def decide (r : Request) : m (Except AdmissionError Unit) :=
  match r.operation with
  | .create =>
    match cluster r.object "object" with
    | .error e => return .error e
    | .ok c => allowCreate secrets c
  | .update =>
    match cluster r.object "object" with
    | .error e => return .error e
    | .ok c => allowUpdate secrets (previous r.oldObject) c
  | .delete =>
    match previous r.oldObject with
    | some c => allowDelete c
    | none => return .ok ()
  | .connect => return .ok ()

/-- A broken rule is told to the user as it is; every other failure denies too, as ours. -/
def verdict (uid : String) : Except AdmissionError Unit → Verdict
  | .ok () => { uid, allowed := true }
  | .error (.validation message) => { uid, allowed := false, message := some message }
  | .error e => { uid, allowed := false, message := some ("internal error: " ++ e.text) }

def unaskedAnswer : Answer where
  apiVersion := "admission.k8s.io/v1beta1"
  kind := "AdmissionReview"
  verdict := {
    uid := ""
    allowed := false
    status := some "Failure"
    message := some "failed to convert AdmissionReview into AdmissionRequest"
    reason := some "InvalidRequest" }

def answer (r : Review) : m Answer :=
  match r.request with
  | none => return unaskedAnswer
  | some request => do
    let decision ← decide secrets request
    return { apiVersion := r.apiVersion, kind := r.kind, verdict := verdict request.uid decision }

end Deciding

def Verdict.encode (v : Verdict) : Json :=
  .object [("allowed", .bool v.allowed),
    ("status", .object <| present "message" .string v.message ++
      present "reason" .string v.reason ++ present "status" .string v.status),
    ("uid", .string v.uid)]

def Answer.encode (a : Answer) : Json :=
  .object [("apiVersion", .string a.apiVersion), ("kind", .string a.kind),
    ("response", a.verdict.encode)]

end MonitoringStack.Admission
