import MonitoringStack.Config.Controller
import MonitoringStack.Admission.Error

namespace MonitoringStack

structure TlsFiles where
  certFile : String
  keyFile : String
deriving DecidableEq

structure WebhookConfig where
  addr : SocketAddr
  -- Without files the webhook is served in the clear.
  tls : Option TlsFiles

namespace WebhookConfig

def given (lookup : Lookup) (key : String) : Option String :=
  (lookup key).filter fun v => Text.trim v ≠ ""

def tlsFiles (lookup : Lookup) : Except AdmissionError (Option TlsFiles) :=
  match given lookup "TLS_CERT_FILE", given lookup "TLS_KEY_FILE" with
  | some certFile, some keyFile => .ok (some ⟨certFile, keyFile⟩)
  | none, none => .ok none
  | _, _ => .error (.invalidConfig "TLS_CERT_FILE and TLS_KEY_FILE must be set together")

def ofLookup (lookup : Lookup) : Except AdmissionError WebhookConfig := do
  let s := (given lookup "WEBHOOK_ADDR").getD "0.0.0.0:9443"
  match SocketAddr.read? (Text.trim s) with
  | some addr => return { addr, tls := ← tlsFiles lookup }
  | none =>
    throw <| .invalidConfig <|
      "WEBHOOK_ADDR " ++ Text.quoted s ++ ": invalid socket address syntax"

end WebhookConfig

end MonitoringStack
