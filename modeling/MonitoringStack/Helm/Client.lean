import MonitoringStack.Helm.Error
import MonitoringStack.Operator.Error
import MonitoringStack.Config.Controller

namespace MonitoringStack

structure CommandOutput where
  stdout : String := ""
  stderr : String := ""
  exitCode : Int32 := 0
deriving DecidableEq, Inhabited

def CommandOutput.succeeded (o : CommandOutput) : Bool := o.exitCode = 0

/-- Runs a program with arguments. Only a program that does not start is an error. -/
abbrev CommandRunner (m : Type → Type) :=
  String → List String → m (Except HelmError CommandOutput)

structure HelmClient (m : Type → Type) where
  run : CommandRunner m
  path : String := "helm"

def holdsText (part : List Char) : List Char → Bool
  | [] => part.isEmpty
  | c :: cs => part.isPrefixOf (c :: cs) || holdsText part cs

namespace HelmClient

def namespaceArgs (ns : String) : List String :=
  if ns = "" then [] else ["--namespace", ns]

def overrideArgs (overridesFile : Option String) : List String :=
  match overridesFile.filter (· ≠ "") with
  | some file => ["--reuse-values", "-f", file]
  | none => []

def upgradeArgs (release ns chartDir : String) (overridesFile : Option String) : List String :=
  ["upgrade", release, chartDir] ++ namespaceArgs ns ++ overrideArgs overridesFile

def statusArgs (release ns : String) : List String :=
  ["status", release] ++ namespaceArgs ns

def commandLine (program : String) (args : List String) : String :=
  program ++ " " ++ " ".intercalate args

variable {m : Type → Type} [Monad m] (client : HelmClient m)

def failure (args : List String) (output : CommandOutput) : HelmError :=
  .commandFailed (commandLine client.path args) output.exitCode output.stdout output.stderr

def upgrade (release ns chartDir : String) (overridesFile : Option String) :
    m (Except HelmError CommandOutput) := do
  if release = "" then return .error (.invalidRequest "release name must not be empty")
  else
    let args := upgradeArgs release ns chartDir overridesFile
    match ← client.run client.path args with
    | .error e => return .error e
    | .ok output =>
      return if output.succeeded then .ok output else .error (client.failure args output)

/-- A status that fails says in its errors when the release is not there. -/
def isInstalled (release ns : String) : m (Except HelmError Bool) := do
  let args := statusArgs release ns
  match ← client.run client.path args with
  | .error e => return .error e
  | .ok output =>
    return if output.succeeded then .ok true
      else if holdsText "not found".toList output.stderr.toList then .ok false
      else .error (client.failure args output)

def syncChart (chart : ChartSettings) : m (Except OperatorError Bool) := do
  match ← client.isInstalled chart.release chart.ns with
  | .error e => return .error (.helm e)
  | .ok false => return .ok false
  | .ok true =>
    match ← client.upgrade chart.release chart.ns chart.chartDir chart.overridesFile with
    | .error e => return .error (.helm e)
    | .ok _ => return .ok true

end HelmClient

end MonitoringStack
