import MonitoringStack.Definition.Schema
import MonitoringStack.Kube.Object

namespace MonitoringStack

open Kube Wire

structure Column where
  name : String
  path : String
deriving DecidableEq

structure Definition where
  kind : String
  group : String
  version : String
  plural : String
  columns : List Column := []
  spec : Schema
  -- Kinds with a status have it written apart from the rest.
  status : Option Schema := none

namespace Definition

def column (c : Column) : Json :=
  .object [("jsonPath", .string c.path), ("name", .string c.name), ("type", .string "string")]

def object (d : Definition) : Schema :=
  .record ([("spec", d.spec)] ++ (d.status.map fun s => ("status", s)).toList) ["spec"] {
    description := some <|
      "Auto-generated derived type for " ++ d.kind ++ "Spec via `CustomResource`"
    title := some d.kind }

def names (d : Definition) : Json :=
  .object [("categories", .array []), ("kind", .string d.kind), ("plural", .string d.plural),
    ("shortNames", .array []), ("singular", .string (d.kind.map Char.toLower))]

def encodeVersion (d : Definition) : Json :=
  .object [("additionalPrinterColumns", .array (d.columns.map column)),
    ("name", .string d.version),
    ("schema", .object [("openAPIV3Schema", d.object.encode)]),
    ("served", .bool true), ("storage", .bool true),
    ("subresources", .object (present "status" (fun _ => .object []) d.status))]

def encode (d : Definition) : Json :=
  .object [("apiVersion", .string "apiextensions.k8s.io/v1"),
    ("kind", .string "CustomResourceDefinition"),
    ("metadata", .object [("name", .string (d.plural ++ "." ++ d.group))]),
    ("spec", .object [("group", .string d.group), ("names", d.names),
      ("scope", .string "Namespaced"), ("versions", .array [d.encodeVersion])])]

end Definition

end MonitoringStack
