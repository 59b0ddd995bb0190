import MonitoringStack.Operator.Reconcile
import MonitoringStack.Proofs.Json.Overlay
import MonitoringStack.Proofs.Resource.RoundTrip

namespace MonitoringStack

open Kube Json

namespace Ownership

/-- The labels with one more on top; a label without a value is not laid. -/
def lay (labels : Labels) (key value : String) : Labels :=
  if value = "" then labels else labels.insert key value

def laidOver (desired existing : Labels) : Labels :=
  desired.entries.foldl (fun labels l => lay labels l.1 l.2) existing

theorem entries_labels (binding ns : String) :
    (labels binding ns).entries =
      [(appLabel, apiGroup), (bindingLabel, binding), (bindingNamespaceLabel, ns)] := by
  have hs : Entries.Sorted
      [(appLabel, apiGroup), (bindingLabel, binding), (bindingNamespaceLabel, ns)] := by
    apply Entries.sorted_iff_keys.2
    change [appLabel, bindingLabel, bindingNamespaceLabel].Pairwise (· < ·)
    decide
  exact congrArg KeyMap.entries (KeyMap.ofList_entries ⟨_, hs⟩)

theorem labels_laidOver (binding ns : String) (existing : Labels) :
    laidOver (labels binding ns) existing =
      lay (lay (lay existing appLabel apiGroup) bindingLabel binding) bindingNamespaceLabel ns := by
  rw [laidOver, entries_labels]
  rfl

theorem get?_lay (labels : Labels) (key value l : String) :
    (lay labels key value).get? l = if l = key ∧ value ≠ "" then some value else labels.get? l := by
  by_cases hv : value = ""
  · simp [lay, hv]
  · by_cases hl : l = key
    · simp [lay, hv, hl]
    · simp [lay, hv, hl, KeyMap.get?_insert_of_ne]

theorem get?_foldl_lay {desired : List (String × String)} (hs : Entries.Sorted desired)
    (existing : Labels) (key : String) :
    (desired.foldl (fun labels l => lay labels l.1 l.2) existing).get? key =
      match Entries.get? key desired with
      | none => existing.get? key
      | some value => if value = "" then existing.get? key else some value := by
  induction desired generalizing existing with
  | nil => rfl
  | cons l rest ih =>
    obtain ⟨l, value⟩ := l
    obtain ⟨hhd, hrest⟩ := List.pairwise_cons.1 hs
    rw [List.foldl_cons, ih hrest, get?_lay]
    by_cases hl : key = l
    · subst hl
      have hnone : Entries.get? key rest = none := by
        cases hg : Entries.get? key rest with
        | none => rfl
        | some w => exact absurd (hhd _ (Entries.mem_of_get? hg)) (KeyOrder.irrefl key)
      by_cases hv : value = "" <;> simp [Entries.get?, hnone, hv]
    · simp [Entries.get?, hl]

theorem get?_laidOver (desired existing : Labels) (key : String) :
    (laidOver desired existing).get? key =
      match desired.get? key with
      | none => existing.get? key
      | some value => if value = "" then existing.get? key else some value :=
  get?_foldl_lay desired.sorted existing key

theorem overlayFields_foldl_lay (desired : List (String × String)) (existing : Labels) :
    overlayFields (existing.entries.map fun l => (l.1, .string l.2))
        (desired.map fun l => (l.1, .string l.2)) =
      (desired.foldl (fun labels l => lay labels l.1 l.2) existing).entries.map
        fun l => (l.1, .string l.2) := by
  induction desired generalizing existing with
  | nil => rfl
  | cons l rest ih =>
    obtain ⟨key, value⟩ := l
    rw [List.map_cons, overlayFields, List.foldl_cons]
    by_cases hv : value = ""
    · simpa [isEmpty, lay, hv] using ih existing
    · have hlay : lay existing key value = existing.insert key value := by simp [lay, hv]
      have hbase (base : Json) : base.overlay (.string value) = .string value := by
        rw [overlay_of_leaf _ (by simp)]
        simp [isEmpty, hv]
      rw [hlay, ← ih]
      simp [isEmpty, hv, hbase, KeyMap.insert, ← Entries.insert_map]

theorem laid (desired existing : Labels) :
    Laid (Wire.stringMap existing) (Wire.stringMap desired)
      (Wire.stringMap (laidOver desired existing)) where
  overlay_eq := by
    cases hd : desired.entries with
    | nil => simp [Wire.stringMap, hd, laidOver, overlay]
    | cons l rest =>
      simp only [Wire.stringMap, laidOver, hd, List.map_cons, overlay, fields]
      exact congrArg Json.object (overlayFields_foldl_lay (l :: rest) existing)
  changes_eq_nil path := by
    have hleaf (l : String × String) : changes (childPath path l.1)
        ((some (Wire.stringMap existing)).bind (·.get? l.1)) (.string l.2) = [] ↔
        l.2 = "" ∨ existing.get? l.1 = some l.2 := by
      rw [changes_of_leaf _ _ (by simp)]
      simp only [Wire.stringMap, Option.bind_some, Json.get?, fields, Entries.get?_map, KeyMap.get?]
      by_cases hv : l.2 = ""
      · simp [isEmpty, hv]
      · cases Entries.get? l.1 existing.entries <;> simp [isEmpty, same, hv]
    have hchanges : changes path (some (Wire.stringMap existing)) (Wire.stringMap desired) = [] ↔
        ∀ l ∈ desired.entries, l.2 = "" ∨ existing.get? l.1 = some l.2 := by
      rw [show Wire.stringMap desired = .object _ from rfl, changes, fieldChanges_eq_nil,
        List.forall_mem_map]
      exact forall₂_congr fun l _ => hleaf l
    rw [hchanges]
    constructor
    · intro hall
      refine congrArg Wire.stringMap (KeyMap.ext_get? fun key => ?_)
      rw [get?_laidOver]
      cases hd : desired.get? key with
      | none => rfl
      | some value =>
        by_cases hv : value = ""
        · simp [hv]
        · simpa [hv] using ((hall _ (desired.get?_eq_some_iff.1 hd)).resolve_left hv).symm
    · rintro heq ⟨key, value⟩ hmem
      have hget := get?_laidOver desired existing key
      rw [Wire.stringMap_injective heq, desired.get?_eq_some_iff.2 hmem] at hget
      by_cases hv : value = ""
      · exact .inl hv
      · exact .inr (by simpa [hv] using hget)

theorem laidOver_eq_self {desired existing : Labels} :
    laidOver desired existing = existing ↔
      ∀ key value, desired.get? key = some value → value ≠ "" →
        existing.get? key = some value := by
  constructor
  · intro h key value hget hv
    rw [← h, get?_laidOver, hget]
    simp [hv]
  · intro h
    apply KeyMap.ext_get?
    intro key
    rw [get?_laidOver]
    cases hget : desired.get? key with
    | none => rfl
    | some value =>
      by_cases hv : value = ""
      · simp [hv]
      · simp [hv, h key value hget hv]

theorem laidOver_self (desired : Labels) : laidOver desired desired = desired :=
  laidOver_eq_self.2 fun _ _ hget _ => hget

theorem laidOver_laidOver (desired existing : Labels) :
    laidOver desired (laidOver desired existing) = laidOver desired existing := by
  refine laidOver_eq_self.2 fun key value hget hv => ?_
  rw [get?_laidOver, hget]
  simp [hv]

/-- The labels that the operator has a say in. -/
def keys : List String := [appLabel, bindingLabel, bindingNamespaceLabel]

theorem mem_keys_of_get? {binding ns key value : String}
    (h : (labels binding ns).get? key = some value) : key ∈ keys := by
  have hmem := (labels binding ns).get?_eq_some_iff.1 h
  rw [entries_labels] at hmem
  simp only [List.mem_cons, Prod.mk.injEq, List.not_mem_nil, or_false] at hmem
  rcases hmem with ⟨rfl, -⟩ | ⟨rfl, -⟩ | ⟨rfl, -⟩ <;> simp [keys]

theorem get?_bindingLabel (binding ns : String) :
    (labels binding ns).get? bindingLabel = some binding := by
  rw [KeyMap.get?_eq_some_iff, entries_labels]
  simp

theorem get?_bindingNamespaceLabel (binding ns : String) :
    (labels binding ns).get? bindingNamespaceLabel = some ns := by
  rw [KeyMap.get?_eq_some_iff, entries_labels]
  simp

end Ownership

theorem get?_getD_labels (m : Metadata) (key : String) :
    (m.labels.getD ∅).get? key = m.label? key := by
  rw [Metadata.label?]
  cases m.labels with
  | none => simp
  | some labels => rfl

end MonitoringStack
