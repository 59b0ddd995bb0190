namespace MonitoringStack

def apiGroup : String := "monitoring.microscaler.io"

def apiVersionName : String := "v1alpha1"

def systemNamespace : String := "monitoring-system"

def multiClusterNamespace : String := "monitoring-mc"

def appLabel : String := "k8s-app"

def bindingLabel : String := "monitoring.microscaler.io/binding"

/-- The label that names the namespace of the owning binding. Instances are named after their
binding alone, so of several bindings with one name this label tells the owner. -/
def bindingNamespaceLabel : String := "monitoring.microscaler.io/binding-namespace"

/-- The finalizer that keeps a binding until its instances are gone. -/
def bindingFinalizer : String := "monitoring.microscaler.io/cleanup"

def instanceSecretsName : String := "monitoring-instance-secrets"

def instanceServiceType : String := "ClusterIP"

end MonitoringStack
