import MonitoringStack.Wire.Record
import MonitoringStack.Text.Timestamp

namespace MonitoringStack.Kube

open Json (Slot Form)

open Wire

abbrev Labels := KeyMap String String

structure OwnerReference where
  apiVersion : String
  blockOwnerDeletion : Option Bool
  controller : Option Bool
  kind : String
  name : String
  uid : String
deriving DecidableEq

structure ManagedFields where
  apiVersion : Option String
  fieldsType : Option String
  fields : Option Json
  manager : Option String
  operation : Option String
  subresource : Option String
  time : Option Timestamp

structure Metadata where
  annotations : Option Labels := none
  creationTimestamp : Option Timestamp := none
  deletionGracePeriodSeconds : Option Int64 := none
  deletionTimestamp : Option Timestamp := none
  finalizers : Option (List String) := none
  generateName : Option String := none
  generation : Option Int64 := none
  labels : Option Labels := none
  managedFields : Option (List ManagedFields) := none
  name : Option String := none
  ns? : Option String := none
  ownerReferences : Option (List OwnerReference) := none
  resourceVersion : Option String := none
  selfLink : Option String := none
  uid : Option String := none

instance : Inhabited Metadata := ⟨{}⟩

def timestamp? (j : Json) : Option Timestamp := (string? j).bind Timestamp.read?

def timestamp : Form :=
  .scalar fun j =>
    match j with
    | .string s => (Timestamp.flaw? s).map (·.text)
    | j => some (j.wrongType "an RFC 3339 formatted date and time string")

def int64 (n : Int64) : Json := .int n.toInt

/-- Fields of the objects every cluster knows: the last of two with one name stands, `null` is as
good as left out. -/
def lenient? {α : Type} (j : Json) (key : String) (decode : Json → Option α) :
    Option (Option α) :=
  match (j.fields.filter fun f => f.1 = key).mapM fun f =>
      if f.2.isNull then some none else (decode f.2).map some with
  | none => none
  | some values => some (values.getLast?.getD none)

namespace OwnerReference

def form : Form :=
  .record .loose "OwnerReference" [.optional "apiVersion" string,
    .optional "blockOwnerDeletion" bool,
    .optional "controller" bool, .optional "kind" string, .optional "name" string,
    .optional "uid" string]

def decode? (j : Json) : Option OwnerReference :=
  match j with
  | .object _ => do
    return {
      apiVersion := (← lenient? j "apiVersion" string?).getD ""
      blockOwnerDeletion := ← lenient? j "blockOwnerDeletion" bool?
      controller := ← lenient? j "controller" bool?
      kind := (← lenient? j "kind" string?).getD ""
      name := (← lenient? j "name" string?).getD ""
      uid := (← lenient? j "uid" string?).getD "" }
  | _ => none

def encode (r : OwnerReference) : Json :=
  .object <| [("apiVersion", .string r.apiVersion)] ++
    present "blockOwnerDeletion" .bool r.blockOwnerDeletion ++
    present "controller" .bool r.controller ++
    [("kind", .string r.kind), ("name", .string r.name), ("uid", .string r.uid)]

end OwnerReference

namespace ManagedFields

def form : Form :=
  .record .loose "ManagedFieldsEntry" [.optional "apiVersion" string,
    .optional "fieldsType" string,
    .optional "fieldsV1" .any, .optional "manager" string, .optional "operation" string,
    .optional "subresource" string, .optional "time" timestamp]

def decode? (j : Json) : Option ManagedFields :=
  match j with
  | .object _ => do
    return {
      apiVersion := ← lenient? j "apiVersion" string?
      fieldsType := ← lenient? j "fieldsType" string?
      fields := ← lenient? j "fieldsV1" Json.settle?
      manager := ← lenient? j "manager" string?
      operation := ← lenient? j "operation" string?
      subresource := ← lenient? j "subresource" string?
      time := ← lenient? j "time" timestamp? }
  | _ => none

def encode (f : ManagedFields) : Json :=
  .object <| present "apiVersion" .string f.apiVersion ++
    present "fieldsType" .string f.fieldsType ++ present "fieldsV1" id f.fields ++
    present "manager" .string f.manager ++ present "operation" .string f.operation ++
    present "subresource" .string f.subresource ++
    present "time" (fun t => .string t.wholeSecondsText) f.time

end ManagedFields

namespace Metadata

def form : Form :=
  .record .loose "ObjectMeta" [.optional "annotations" (.map string),
    .optional "creationTimestamp" timestamp,
    .optional "deletionGracePeriodSeconds" (integer "i64" int64?),
    .optional "deletionTimestamp" timestamp, .optional "finalizers" (.list string),
    .optional "generateName" string, .optional "generation" (integer "i64" int64?),
    .optional "labels" (.map string), .optional "managedFields" (.list ManagedFields.form),
    .optional "name" string, .optional "namespace" string,
    .optional "ownerReferences" (.list OwnerReference.form), .optional "resourceVersion" string,
    .optional "selfLink" string, .optional "uid" string]

def decode? (j : Json) : Option Metadata :=
  match j with
  | .object _ => do
    return {
      annotations := ← lenient? j "annotations" (map? string?)
      creationTimestamp := ← lenient? j "creationTimestamp" timestamp?
      deletionGracePeriodSeconds := ← lenient? j "deletionGracePeriodSeconds" int64?
      deletionTimestamp := ← lenient? j "deletionTimestamp" timestamp?
      finalizers := ← lenient? j "finalizers" (list? string?)
      generateName := ← lenient? j "generateName" string?
      generation := ← lenient? j "generation" int64?
      labels := ← lenient? j "labels" (map? string?)
      managedFields := ← lenient? j "managedFields" (list? ManagedFields.decode?)
      name := ← lenient? j "name" string?
      ns? := ← lenient? j "namespace" string?
      ownerReferences := ← lenient? j "ownerReferences" (list? OwnerReference.decode?)
      resourceVersion := ← lenient? j "resourceVersion" string?
      selfLink := ← lenient? j "selfLink" string?
      uid := ← lenient? j "uid" string? }
  | _ => none

def encode (m : Metadata) : Json :=
  .object <| present "annotations" stringMap m.annotations ++
    present "creationTimestamp" (fun t => .string t.wholeSecondsText) m.creationTimestamp ++
    present "deletionGracePeriodSeconds" int64 m.deletionGracePeriodSeconds ++
    present "deletionTimestamp" (fun t => .string t.wholeSecondsText) m.deletionTimestamp ++
    present "finalizers" strings m.finalizers ++
    present "generateName" .string m.generateName ++
    present "generation" int64 m.generation ++
    present "labels" stringMap m.labels ++
    present "managedFields" (fun fs => .array (fs.map ManagedFields.encode)) m.managedFields ++
    present "name" .string m.name ++
    present "namespace" .string m.ns? ++
    present "ownerReferences" (fun rs => .array (rs.map OwnerReference.encode))
      m.ownerReferences ++
    present "resourceVersion" .string m.resourceVersion ++
    present "selfLink" .string m.selfLink ++
    present "uid" .string m.uid

/-- The name, or else the stem the cluster would make one from. -/
def nameOrStem (m : Metadata) : String :=
  m.name.getD (m.generateName.getD "")

def namespaceOrEmpty (m : Metadata) : String := m.ns?.getD ""

def label? (m : Metadata) (key : String) : Option String :=
  m.labels.bind (·.get? key)

end Metadata

end MonitoringStack.Kube
