import MonitoringStack.Config.SocketAddr
import MonitoringStack.Operator.Settings

namespace MonitoringStack

abbrev Lookup := String → Option String

structure ChartSettings where
  release : String
  ns : String
  chartDir : String
  overridesFile : Option String
deriving DecidableEq

structure ControllerConfig where
  settings : InstanceSettings
  -- Where bindings are watched; everywhere if none is given.
  ns? : Option String
  metricsAddr : SocketAddr
  chart : Option ChartSettings

namespace ControllerConfig

def nonEmpty (s : String) : Option String := if s = "" then none else some s

/-- Unset and blank are the same. -/
def value (lookup : Lookup) (key : String) : String :=
  ((lookup key).map Text.trim).getD ""

def storageFlag (s : String) : Bool :=
  String.ofList (s.toList.map Char.toLower) ∈ ["1", "t", "true"]

/-- A number that is not negative, after at most one sign. -/
def replicas? (s : String) : Option Int32 :=
  let (negative, digits) := match s.toList with
    | '-' :: rest => (true, rest)
    | '+' :: rest => (false, rest)
    | cs => (false, cs)
  let n := digits.foldl (fun n c => n * 10 + (c.toNat - 48)) 0
  if digits.isEmpty || !digits.all Char.isDigit || 0x80000000 ≤ n || (negative && n ≠ 0) then none
  else some (Int32.ofNat n)

def replicas (key s : String) : Except OperatorError Int32 :=
  if s = "" then .ok 0
  else match replicas? s with
    | some n => .ok n
    | none => .error <| .invalidConfig <|
        key ++ " must be a non-negative integer, got " ++ Text.quoted s

def node (lookup : Lookup) (stem : String) : Except OperatorError NodeSettings := do
  let key := stem ++ "_REPLICAS"
  let n ← replicas key (value lookup key)
  return { replicas := n, requestMemory := value lookup (stem ++ "_REQUEST_MEMORY") }

def chartSettings (lookup : Lookup) : Option ChartSettings :=
  (nonEmpty (value lookup "CHART_DIR")).map fun chartDir => {
    release := (nonEmpty (value lookup "CHART_RELEASE")).getD "monitoring-operator"
    ns := (nonEmpty (value lookup "CHART_NAMESPACE")).getD systemNamespace
    chartDir
    overridesFile := nonEmpty (value lookup "CHART_OVERRIDES_FILE") }

def address (s : String) : Except OperatorError SocketAddr :=
  let s := (nonEmpty s).getD "0.0.0.0:8080"
  match SocketAddr.read? s with
  | some a => .ok a
  | none => .error <| .invalidConfig <|
      "METRICS_ADDR " ++ s ++ " is not a socket address: invalid socket address syntax"

def ofLookup (lookup : Lookup) : Except OperatorError ControllerConfig := do
  let value := value lookup
  let platformUri := value "PLATFORM_URI"
  if platformUri = "" then
    throw (.invalidConfig "PLATFORM_URI environment variable is required")
  let esIngestNode ← node lookup "ES_INGEST_NODE"
  let esMasterNode ← node lookup "ES_MASTER_NODE"
  let esDataNode ← node lookup "ES_DATA_NODE"
  let metricsAddr ← address (value "METRICS_ADDR")
  return {
    settings := {
      platformUri
      storageEnabled := storageFlag (value "ENABLE_MONITORING_STORAGE")
      grafanaStorageSize := value "GRAFANA_DATA_STORAGE_SIZE"
      prometheusStorageSize := value "PROMETHEUS_DATA_STORAGE_SIZE"
      elasticsearchStorageSize := value "ELASTICSEARCH_DATA_STORAGE_SIZE"
      grafanaRequestMemory := value "GRAFANA_REQUEST_MEMORY"
      prometheusRequestMemory := value "PROMETHEUS_REQUEST_MEMORY"
      kibanaRequestMemory := value "KIBANA_REQUEST_MEMORY"
      esIngestNode
      esMasterNode
      esDataNode }
    ns? := nonEmpty (value "WATCH_NAMESPACE")
    metricsAddr
    chart := chartSettings lookup }

end ControllerConfig

end MonitoringStack
