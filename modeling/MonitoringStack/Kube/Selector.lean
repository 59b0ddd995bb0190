import MonitoringStack.Kube.Metadata

namespace MonitoringStack.Kube

structure Selector where
  requirements : KeyMap String String
deriving DecidableEq

namespace Selector

def everything : Selector := ⟨∅⟩

/-- One more requirement, in place of an earlier one on the same label. -/
def and (s : Selector) (key value : String) : Selector := ⟨s.requirements.insert key value⟩

def eq (key value : String) : Selector := everything.and key value

def isEmpty (s : Selector) : Bool := s.requirements.isEmpty

def holds (labels : Option Labels) (requirement : String × String) : Bool :=
  labels.bind (·.get? requirement.1) = some requirement.2

def «matches» (s : Selector) (labels : Option Labels) : Bool :=
  s.requirements.entries.all (holds labels)

def query (s : Selector) : String :=
  ",".intercalate (s.requirements.entries.map fun e => e.1 ++ "=" ++ e.2)

def text (s : Selector) : String :=
  if s.isEmpty then "<everything>" else s.query

end Selector

end MonitoringStack.Kube
