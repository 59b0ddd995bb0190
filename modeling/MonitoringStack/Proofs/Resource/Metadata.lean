import MonitoringStack.Kube.Metadata

namespace MonitoringStack.Kube

open Json Wire

section Fields

variable {α β : Type} {encode : α → Json} {decode : Json → Option β} {value : Option α}

theorem filter_present_of_ne {key l : String} (h : key ≠ l) :
    (present key encode value).filter (fun f => f.1 = l) = [] := by
  cases value <;> simp [present, h]

theorem filter_present_self {key : String} :
    (present key encode value).filter (fun f => f.1 = key) = present key encode value := by
  cases value <;> simp [present]

theorem lenient?_congr {fields fields' : List (String × Json)} {key : String}
    (h : fields.filter (fun f => f.1 = key) = fields'.filter (fun f => f.1 = key)) :
    lenient? (.object fields) key decode = lenient? (.object fields') key decode := by
  rw [lenient?, lenient?, Json.fields, Json.fields, h]

theorem lenient?_present {fields : List (String × Json)} {key : String} {value : Option String}
    (h : fields.filter (fun f => f.1 = key) = present key .string value) :
    lenient? (.object fields) key string? = some value := by
  rw [lenient?, Json.fields, h]
  cases value <;> rfl

end Fields

section Binds

variable {α β γ : Type} {f : α → Option γ} {f' : α → Option β} {g : β → γ}

theorem bind_eq_map_bind {x : Option α} (h : ∀ a, f a = (f' a).map g) :
    (x >>= f) = (x >>= f').map g := by
  cases x with
  | none => rfl
  | some a => exact h a

theorem some_bind_eq_map {a b : α} (h : f a = (f' b).map g) :
    (some a >>= f) = (some b >>= f').map g := h

end Binds

namespace Metadata

def renamed (m : Metadata) (name? ns? : Option String) : Metadata := { m with name := name?, ns? }

variable (m : Metadata) (name? ns? : Option String)

theorem lenient?_encode_renamed {β : Type} {decode : Json → Option β} {key : String}
    (hname : "name" ≠ key) (hns : "namespace" ≠ key) :
    lenient? (m.renamed name? ns?).encode key decode = lenient? m.encode key decode := by
  apply lenient?_congr
  simp only [List.filter_append, filter_present_of_ne hname, filter_present_of_ne hns]
  rfl

theorem lenient?_encode_name : lenient? m.encode "name" string? = some m.name := by
  apply lenient?_present
  simp [filter_present_of_ne, filter_present_self]

theorem lenient?_encode_ns : lenient? m.encode "namespace" string? = some m.ns? := by
  apply lenient?_present
  simp [filter_present_of_ne, filter_present_self]

theorem encode_eq : m.encode = .object m.encode.fields := rfl

theorem decode?_encode_renamed :
    decode? (m.renamed name? ns?).encode = (decode? m.encode).map (·.renamed name? ns?) := by
  rw [encode_eq (m.renamed name? ns?), encode_eq m, decode?, decode?, ← encode_eq, ← encode_eq]
  simp (disch := decide) only [lenient?_encode_renamed, lenient?_encode_name, lenient?_encode_ns]
  -- the fields before name and namespace, those two, and the fields after them
  iterate 9 refine bind_eq_map_bind fun _ => ?_
  iterate 2 refine some_bind_eq_map ?_
  iterate 4 refine bind_eq_map_bind fun _ => ?_
  rfl

end Metadata

end MonitoringStack.Kube
