import MonitoringStack.Proofs.Json.Difference

namespace MonitoringStack.Json

mutual

/-- A value with a JSON merge patch applied: fields are merged, `null` removes what stands under its
key, and anything else but an object replaces what was there. -/
def mergePatch (target : Json) : Json → Json
  | .object fields => .object (mergeFields target.fields fields)
  | patch => patch

def mergeFields (target : List (String × Json)) : List (String × Json) → List (String × Json)
  | [] => target
  | (key, patch) :: rest =>
    if patch.isNull then mergeFields (Entries.erase key target) rest
    else
      let base := (Entries.get? key target).getD .null
      mergeFields (Entries.insert key (mergePatch base patch) target) rest

end

theorem mergePatch_of_leaf (target : Json) {patch : Json} (h : ∀ fields, patch ≠ .object fields) :
    target.mergePatch patch = patch := by
  cases patch with
  | object fields => exact absurd rfl (h fields)
  | null | bool | number | string | array => rw [mergePatch]; simp

theorem mergeFields_singleton {key : String} {patch : Json} (h : patch.isNull = false)
    (target : List (String × Json)) : mergeFields target [(key, patch)] =
      Entries.insert key (((Entries.get? key target).getD .null).mergePatch patch) target := by
  rw [mergeFields, mergeFields, h]
  rfl

theorem sorted_mergeFields {target : List (String × Json)} (h : Entries.Sorted target)
    (patch : List (String × Json)) : Entries.Sorted (mergeFields target patch) := by
  induction patch generalizing target with
  | nil => rwa [mergeFields]
  | cons p rest ih =>
    obtain ⟨key, p⟩ := p
    rw [mergeFields]
    split
    · exact ih (Entries.sorted_erase key h)
    · exact ih (Entries.sorted_insert _ _ h)

theorem get?_mergeFields {patch : List (String × Json)} (hs : Entries.Sorted patch)
    (target : List (String × Json)) (key : String) :
    Entries.get? key (mergeFields target patch) =
      match Entries.get? key patch with
      | none => Entries.get? key target
      | some p =>
        if p.isNull then none else some (((Entries.get? key target).getD .null).mergePatch p) := by
  induction patch generalizing target with
  | nil => rw [mergeFields]; rfl
  | cons p rest ih =>
    obtain ⟨l, p⟩ := p
    obtain ⟨hhd, hrest⟩ := List.pairwise_cons.1 hs
    rw [mergeFields]
    by_cases hl : key = l
    · subst hl
      have hnone : Entries.get? key rest = none := Entries.get?_eq_none_of_lt hhd
      cases hp : p.isNull <;> simp [hp, ih hrest, hnone, Entries.get?]
    · split <;>
        simp [ih hrest, Entries.get?, hl, Entries.get?_insert_of_ne, Entries.get?_erase_of_ne]

theorem Sorted.mergePatch {target patch : Json} (ht : target.Sorted) (hp : patch.Sorted) :
    (target.mergePatch patch).Sorted := by
  induction patch using leafInduction generalizing target with
  | leaf patch hleaf => rwa [mergePatch_of_leaf target hleaf]
  | object fields ih =>
    obtain ⟨hfields, hvalues⟩ := sorted_object.1 hp
    have hmerged : Entries.Sorted (mergeFields target.fields fields) :=
      sorted_mergeFields ht.fields fields
    rw [Json.mergePatch, sorted_object]
    refine ⟨hmerged, fun f hf => ?_⟩
    have hget := Entries.get?_of_mem hmerged hf
    rw [get?_mergeFields hfields] at hget
    cases hpatch : Entries.get? f.1 fields with
    | none =>
      rw [hpatch] at hget
      have hkept := ht.getD f.1
      dsimp only at hget
      rwa [hget] at hkept
    | some p =>
      have hmem := Entries.mem_of_get? hpatch
      rw [hpatch] at hget
      dsimp only at hget
      split at hget
      · cases hget
      · rw [← Option.some.inj hget]
        exact ih _ hmem (ht.getD f.1) (hvalues _ hmem)

end MonitoringStack.Json
