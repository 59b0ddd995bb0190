import MonitoringStack.Definition.Resources

/-- Prints what a cluster has to be told before the operator can run in it. -/
def main : IO Unit :=
  IO.print MonitoringStack.Definition.manifests
