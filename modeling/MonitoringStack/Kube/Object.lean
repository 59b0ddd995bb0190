import MonitoringStack.Kube.Metadata

namespace MonitoringStack.Kube

open Wire

/-- A kind of object that lives in a namespace: what the cluster calls it and how its objects are
written. -/
class Resource (α : Type) where
  kind : String
  group : String
  version : String
  plural : String
  metadata : α → Metadata
  withMetadata : α → Metadata → α
  metadata_withMetadata : ∀ a m, metadata (withMetadata a m) = m
  encode : α → Json
  form : Json.Form
  decode? : Json → Option α

namespace Resource

variable (α : Type) [Resource α]

def apiVersion : String :=
  if group α = "" then version α else group α ++ "/" ++ version α

variable {α}

def ofText (text : String) : Except Json.Unreadable α := (form α).decode decode? text

def name (a : α) : String := (metadata a).nameOrStem

def describe (α : Type) [Resource α] (ns name : String) : String :=
  kind α ++ " " ++ ns ++ "/" ++ name

end Resource

structure Key where
  ns : String
  name : String
deriving DecidableEq, Inhabited

namespace Key

instance : LT Key := ⟨fun a b => a.ns < b.ns ∨ (a.ns = b.ns ∧ a.name < b.name)⟩

instance : DecidableLT Key := fun a b =>
  inferInstanceAs (Decidable (a.ns < b.ns ∨ (a.ns = b.ns ∧ a.name < b.name)))

theorem lt_iff {a b : Key} : a < b ↔ a.ns < b.ns ∨ (a.ns = b.ns ∧ a.name < b.name) := Iff.rfl

instance : KeyOrder Key where
  irrefl a h := by
    rcases h with h | ⟨_, h⟩ <;> exact String.lt_irrefl _ h
  trans {a b c} hab hbc := by
    rcases hab with hab | ⟨hns, hab⟩ <;> rcases hbc with hbc | ⟨hns', hbc⟩
    · exact .inl (String.lt_trans hab hbc)
    · exact .inl (hns' ▸ hab)
    · exact .inl (hns ▸ hbc)
    · exact .inr ⟨hns.trans hns', String.lt_trans hab hbc⟩
  eq_of_not_lt {a b} hab hba := by
    have hns : a.ns = b.ns :=
      KeyOrder.eq_of_not_lt (fun h => hab (.inl h)) (fun h => hba (.inl h))
    have hname : a.name = b.name :=
      KeyOrder.eq_of_not_lt (fun h => hab (.inr ⟨hns, h⟩)) (fun h => hba (.inr ⟨hns.symm, h⟩))
    cases a; cases b; simp_all

/-- The key an object names for itself; what it leaves open reads as empty. -/
def of {α : Type} [Resource α] (a : α) : Key :=
  ⟨(Resource.metadata a).namespaceOrEmpty, (Resource.metadata a).name.getD ""⟩

end Key

end MonitoringStack.Kube
