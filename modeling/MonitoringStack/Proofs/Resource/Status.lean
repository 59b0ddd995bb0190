import MonitoringStack.Proofs.Json.MergePatch
import MonitoringStack.Proofs.Resource.RoundTrip
import MonitoringStack.Proofs.Text.Timestamp
import MonitoringStack.Resource.Binding

namespace MonitoringStack

open Json (Slot Form)

theorem Entries.get?_filter {κ α : Type} [DecidableEq κ] {p : κ → Bool} {k : κ} (h : p k = true)
    (entries : List (κ × α)) : get? k (entries.filter fun e => p e.1) = get? k entries := by
  induction entries with
  | nil => rfl
  | cons hd tl ih =>
    obtain ⟨l, v⟩ := hd
    by_cases hk : k = l
    · subst hk
      simp [h, get?]
    · by_cases hl : p l = true <;> simp [hl, get?, hk, ih]

namespace Wire

/-- What a record takes from an object is what stands there under the record's names. -/
theorem record?_sorted (slots : List (Slot Form)) {given : List (String × Json)}
    (hs : Entries.Sorted given) : ∃ known, record? slots (.object given) = some known ∧
      ∀ key ∈ slots.map (·.name), Entries.get? key known = Entries.get? key given := by
  have hknown : Entries.Sorted (given.filter fun g => g.1 ∈ slots.map (·.name)) := hs.filter _
  -- in a sorted object no field is given twice
  refine ⟨_, if_pos (Entries.nodup_keys hknown), fun key hkey => ?_⟩
  exact Entries.get?_filter (p := fun key => key ∈ slots.map (·.name)) (decide_eq_true hkey) given

end Wire

open Wire

theorem InstanceState.decode?_name (s : InstanceState) : decode? (.string s.name) = some s := by
  cases s <;> rfl

namespace BindingStatus

variable (instanceName : String) (state : InstanceState) (message : Option String)
  (now : Timestamp)

def telling : BindingStatus where
  instanceName := some instanceName
  state
  message
  lastReconciled := some now

/-- The merge patch that makes any status tell of a pass. A message that is not there any more is
`null`. -/
def tellingPatch : Json :=
  .object [("instanceName", .string instanceName), ("lastReconciled", .string now.text),
    ("message", (message.map Json.string).getD .null), ("state", .string state.name)]

theorem sorted_tellingPatch : (tellingPatch instanceName state message now).Sorted := by
  rw [tellingPatch, Json.sorted_object, Entries.sorted_iff_keys]
  constructor
  · exact (by decide : ["instanceName", "lastReconciled", "message", "state"].Pairwise (· < ·))
  · cases message <;> simp [Json.Sorted]

theorem decode?_mergePatch {target : Json} (ht : target.Sorted) :
    decode? (target.mergePatch (tellingPatch instanceName state message now)) =
      some (telling instanceName state message now) := by
  have hpatch := (sorted_tellingPatch instanceName state message now).fields
  obtain ⟨known, hknown, hget⟩ := record?_sorted fields (Json.sorted_mergeFields ht.fields
    (tellingPatch instanceName state message now).fields)
  have hmerged : record? fields (target.mergePatch (tellingPatch instanceName state message now)) =
      some known := by
    rw [← hknown, tellingPatch, Json.mergePatch]
    rfl
  simp only [Json.get?_mergeFields hpatch] at hget
  have hname : optional? known "instanceName" string? = some (some instanceName) := by
    rw [optional?, hget _ (by decide)]
    simp [tellingPatch, Json.fields, Entries.get?, Json.isNull, Json.mergePatch, string?]
  have hstate : defaulted? known "state" InstanceState.decode? .pending = some state := by
    rw [defaulted?, hget _ (by decide)]
    simp [tellingPatch, Json.fields, Entries.get?, Json.isNull, Json.mergePatch,
      InstanceState.decode?_name]
  have hmessage : optional? known "message" string? = some message := by
    rw [optional?, hget _ (by decide)]
    cases message <;>
      simp [tellingPatch, Json.fields, Entries.get?, Json.isNull, Json.mergePatch, string?]
  have htime : optional? known "lastReconciled" Kube.timestamp? = some (some now) := by
    rw [optional?, hget _ (by decide)]
    simp [tellingPatch, Json.fields, Entries.get?, Json.isNull, Json.mergePatch, Kube.timestamp?,
      string?, Timestamp.read?_text]
  rw [decode?, hmerged, Option.bind_eq_bind, Option.bind_some, hname, hstate, hmessage, htime]
  rfl

end BindingStatus

namespace Binding

theorem decode?_sorted {given : List (String × Json)} (hs : Entries.Sorted given) :
    decode? (.object given) = (do
      let metadata ← required? given "metadata" Kube.Metadata.decode?
      let spec ← required? given "spec" BindingSpec.decode?
      let status ← optional? given "status" BindingStatus.decode?
      return { metadata, spec, status }) := by
  obtain ⟨known, hknown, hget⟩ := record?_sorted fields hs
  have hmetadata := hget "metadata" (by decide)
  have hspec := hget "spec" (by decide)
  have hstatus := hget "status" (by decide)
  rw [decode?, hknown]
  simp only [required?, optional?, Option.bind_eq_bind, Option.bind_some, hmetadata, hspec, hstatus]

/-- A merge patch of the status leaves the rest of the binding as it is. -/
theorem decode?_mergePatch {given : List (String × Json)} (hs : (Json.object given).Sorted)
    {b : Binding} (hb : decode? (.object given) = some b) (instanceName : String)
    (state : InstanceState) (message : Option String) (now : Timestamp) :
    decode? ((Json.object given).mergePatch
      (.object [("status", BindingStatus.tellingPatch instanceName state message now)])) =
      some { b with status := some (.telling instanceName state message now) } := by
  have hgiven := (Json.sorted_object.1 hs).1
  have htold := BindingStatus.decode?_mergePatch instanceName state message now (hs.getD "status")
  rw [BindingStatus.tellingPatch, Json.mergePatch, Json.fields] at htold
  rw [Json.mergePatch, Json.fields, Json.mergeFields_singleton rfl, BindingStatus.tellingPatch,
    Json.mergePatch, decode?_sorted (Entries.sorted_insert _ _ hgiven)]
  rw [decode?_sorted hgiven] at hb
  simp only [Option.bind_eq_bind, Option.bind_eq_some_iff] at hb
  obtain ⟨metadata, hmetadata, spec, hspec, status, -, hb⟩ := hb
  cases hb
  rw [required?] at hmetadata hspec
  rw [required?, required?, optional?, Entries.get?_insert_of_ne (by decide), hmetadata,
    Entries.get?_insert_of_ne (by decide), hspec, Entries.get?_insert_self]
  dsimp only
  rw [htold]
  rfl

end Binding

end MonitoringStack
