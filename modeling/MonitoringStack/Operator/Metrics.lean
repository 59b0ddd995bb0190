import MonitoringStack.KeyMap
import MonitoringStack.Decimal.Shortest
import MonitoringStack.Http.Target

namespace MonitoringStack

structure Histogram where
  within : List UInt64
  sum : Binary64
  count : UInt64

structure Metrics where
  -- Passes that came to an end, by outcome.
  reconciliations : KeyMap String UInt64
  -- Passes that failed, by the kind of the error.
  errors : KeyMap String UInt64
  -- Lengths of passes that came to an end, by phase.
  durations : KeyMap String Histogram
  instancesDeleted : UInt64

abbrev Milliseconds := UInt64

namespace Histogram

def bounds : List Binary64 :=
  [(1, 100), (1, 20), (1, 10), (1, 2), (1, 1), (2, 1), (5, 1), (10, 1), (30, 1)].map fun r =>
    Binary64.ofRatio r.1 r.2

def empty : Histogram := ⟨bounds.map fun _ => 0, Binary64.zero, 0⟩

/-- Whole seconds and the part of a second are each rounded before they are added. -/
def seconds (elapsed : Milliseconds) : Binary64 :=
  Binary64.addMagnitude (Binary64.ofNat (elapsed.toNat / 1000))
    (Binary64.ofRatio (elapsed.toNat % 1000) 1000)

def observe (h : Histogram) (x : Binary64) : Histogram where
  within := (bounds.zip h.within).map fun b =>
    if x.magnitude ≤ b.1.magnitude then b.2 + 1 else b.2
  sum := Binary64.addMagnitude h.sum x
  count := h.count + 1

end Histogram

namespace Metrics

def empty : Metrics := ⟨∅, ∅, ∅, 0⟩

instance : Inhabited Metrics := ⟨empty⟩

def increment (counters : KeyMap String UInt64) (label : String) : KeyMap String UInt64 :=
  counters.insert label ((counters.get? label).getD 0 + 1)

def observe (m : Metrics) (phase : String) (elapsed : Milliseconds) : Metrics :=
  let h := (m.durations.get? phase).getD .empty
  { m with durations := m.durations.insert phase (h.observe (Histogram.seconds elapsed)) }

def recordReconcile (m : Metrics) (outcome : String) (elapsed : Milliseconds) : Metrics :=
  { m with reconciliations := increment m.reconciliations outcome }.observe "apply" elapsed

def recordCleanup (m : Metrics) (deleted : UInt64) (elapsed : Milliseconds) : Metrics :=
  { m with instancesDeleted := m.instancesDeleted + deleted }.observe "cleanup" elapsed

def recordError (m : Metrics) (kind : String) : Metrics :=
  { m with errors := increment m.errors kind }

section Exposition

def familyName (s : String) : String := "monitoring_microscaler_io_" ++ s

def count (n : UInt64) : String := Decimal.plain (Binary64.ofNat n.toNat)

def escaped (c : Char) : List Char :=
  match c with
  | '\\' => ['\\', '\\']
  | '"' => ['\\', '"']
  | '\n' => ['\\', 'n']
  | c => [c]

def label (name value : String) : String :=
  name ++ "=\"" ++ String.ofList (value.toList.flatMap escaped) ++ "\""

def labelled (name : String) (labels : List String) (value : String) : String :=
  name ++ (if labels.isEmpty then "" else "\x7b" ++ ",".intercalate labels ++ "\x7d") ++ " " ++
    value

/-- A family without samples is left out. -/
def family (name help type : String) (samples : List String) : List String :=
  if samples.isEmpty then []
  else ["# HELP " ++ name ++ " " ++ help, "# TYPE " ++ name ++ " " ++ type] ++ samples

def counterSamples (name labelName : String) (counters : KeyMap String UInt64) : List String :=
  counters.entries.map fun e => labelled name [label labelName e.1] (count e.2)

def histogramSamples (name : String) (durations : KeyMap String Histogram) : List String :=
  durations.entries.flatMap fun (phase, h) =>
    let phase := label "phase" phase
    (Histogram.bounds.zip h.within).map (fun b =>
      labelled (name ++ "_bucket") [phase, label "le" (Decimal.plain b.1)] (count b.2)) ++
    [labelled (name ++ "_bucket") [phase, label "le" "+Inf"] (count h.count),
      labelled (name ++ "_sum") [phase] (Decimal.plain h.sum),
      labelled (name ++ "_count") [phase] (count h.count)]

def lines (m : Metrics) : List String :=
  let errors := familyName "errors_total"
  let deleted := familyName "instances_deleted_total"
  let durations := familyName "reconciliation_duration_seconds"
  let reconciliations := familyName "reconciliations_total"
  family errors "Total number of failed Binding reconciliations and cleanups by error kind"
      "counter" (counterSamples errors "kind" m.errors) ++
    family deleted "Total number of MonitoringInstances deleted by garbage collection"
      "counter" [labelled deleted [] (count m.instancesDeleted)] ++
    family durations "Duration of Binding reconciliations in seconds" "histogram"
      (histogramSamples durations m.durations) ++
    family reconciliations "Total number of successful Binding reconciliations by outcome"
      "counter" (counterSamples reconciliations "outcome" m.reconciliations)

def text (m : Metrics) : String :=
  String.join (m.lines.map (· ++ "\n"))

def serve (m : Metrics) (method : String) (target : Http.Target) : Http.Response :=
  match target.path with
  | "/metrics" =>
    Http.Response.forGet method
      { status := 200, contentType := some "text/plain; version=0.0.4", body := m.text }
  | "/healthz" => Http.Response.forGet method Http.Response.healthy
  | _ => Http.Response.notFound

end Exposition

end Metrics

end MonitoringStack
