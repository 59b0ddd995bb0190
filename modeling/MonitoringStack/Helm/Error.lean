namespace MonitoringStack

inductive HelmError where
  | spawn (command detail : String)
  | commandFailed (command : String) (exitCode : Int32) (stdout stderr : String)
  | invalidRequest (detail : String)
deriving DecidableEq

def HelmError.text : HelmError → String
  | .spawn command detail => "Failed to run " ++ command ++ ": " ++ detail
  | .commandFailed command exitCode _ stderr =>
    command ++ " exited with code " ++ toString exitCode.toInt ++ ": " ++ stderr
  | .invalidRequest detail => "Invalid request: " ++ detail

end MonitoringStack
