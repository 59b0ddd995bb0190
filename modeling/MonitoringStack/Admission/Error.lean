import MonitoringStack.Store.Error

namespace MonitoringStack

inductive AdmissionError where
  | validation (message : String)
  /-- A look-up failed, and not for want of the object. -/
  | store (error : StoreError)
  | invalidObject (detail : String)
  | invalidConfig (detail : String)

def AdmissionError.text : AdmissionError → String
  | .validation message => message
  | .store error => "Store error: " ++ error.text
  | .invalidObject detail => "Invalid object: " ++ detail
  | .invalidConfig detail => "Invalid configuration: " ++ detail

end MonitoringStack
