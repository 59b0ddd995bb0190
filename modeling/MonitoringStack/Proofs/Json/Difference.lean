import MonitoringStack.Proofs.Json.Equality
import MonitoringStack.Proofs.Json.Overlay

namespace MonitoringStack.Json

/-- Induction into the fields of objects. What is no object is a leaf, arrays too. -/
@[elab_as_elim]
theorem leafInduction {P : Json → Prop}
    (leaf : ∀ j, (∀ fields, j ≠ .object fields) → P j)
    (object : ∀ fields, (∀ f ∈ fields, P f.2) → P (.object fields)) : ∀ j, P j
  | .object fields => object fields fun f _ => leafInduction leaf object f.2
  | .null => leaf _ nofun
  | .bool _ => leaf _ nofun
  | .number _ => leaf _ nofun
  | .string _ => leaf _ nofun
  | .array _ => leaf _ nofun
termination_by j => sizeOf j
decreasing_by
  rename_i hmem
  have hfield := List.sizeOf_lt_of_mem hmem
  have hvalue : sizeOf f.2 < sizeOf f := by
    cases f
    simp only [Prod.mk.sizeOf_spec]
    omega
  simp only [Json.object.sizeOf_spec]
  omega

theorem sortedFields_iff {fields : List (String × Json)} :
    SortedFields fields ↔ ∀ f ∈ fields, f.2.Sorted := by
  induction fields with
  | nil => simp [SortedFields]
  | cons f rest ih =>
    obtain ⟨key, j⟩ := f
    simp [SortedFields, ih]

theorem sorted_object {fields : List (String × Json)} :
    (object fields).Sorted ↔ Entries.Sorted fields ∧ ∀ f ∈ fields, f.2.Sorted := by
  rw [Sorted, sortedFields_iff]

theorem Sorted.fields {j : Json} (h : j.Sorted) : Entries.Sorted j.fields := by
  cases j with
  | object fields => exact (sorted_object.1 h).1
  | null | bool | number | string | array => exact List.Pairwise.nil

theorem Sorted.getD {j : Json} (h : j.Sorted) (key : String) :
    ((Entries.get? key j.fields).getD .null).Sorted := by
  cases hget : Entries.get? key j.fields with
  | none => simp [Sorted]
  | some k =>
    cases j with
    | object fields => exact (sorted_object.1 h).2 _ (Entries.mem_of_get? hget)
    | null | bool | number | string | array => cases hget

theorem changes_of_isEmpty (path : String) (existing : Option Json) {desired : Json}
    (h : desired.isEmpty = true) : changes path existing desired = [] := by
  cases desired with
  | object fields =>
    obtain rfl : fields = [] := by simpa [isEmpty] using h
    rw [changes, fieldChanges]
  | null | bool | number | string | array => simp [changes, h]

theorem overlay_object (existing : Json) {fields : List (String × Json)} (h : fields ≠ []) :
    existing.overlay (.object fields) = .object (overlayFields existing.fields fields) := by
  cases fields with
  | nil => exact absurd rfl h
  | cons f rest => rw [overlay]

section Settled

variable {existing desired : Json}

theorem get?_overlay {fields : List (String × Json)} (hs : Entries.Sorted fields)
    {f : String × Json} (hf : f ∈ fields) (hlive : f.2.isEmpty = false) :
    (existing.overlay (.object fields)).get? f.1 =
      some (((existing.get? f.1).getD .null).overlay f.2) := by
  have hget : Entries.get? f.1 fields = some f.2 := Entries.get?_of_mem hs hf
  rw [overlay_object _ (List.ne_nil_of_mem hf), Json.get?, Json.fields, get?_overlayFields hs, hget]
  simp [hlive, Json.get?]

theorem changes_overlay (hd : desired.Sorted) (existing : Json) (path : String) :
    changes path (some (existing.overlay desired)) desired = [] := by
  induction desired using leafInduction generalizing existing path with
  | leaf desired hleaf =>
    rw [changes_of_leaf path _ hleaf, overlay_of_leaf existing hleaf]
    cases hempty : desired.isEmpty with
    | true => simp
    | false => simp [same_refl]
  | object fields ih =>
    obtain ⟨hfields, hvalues⟩ := sorted_object.1 hd
    rw [changes, fieldChanges_eq_nil]
    intro f hf
    cases hempty : f.2.isEmpty with
    | true => exact changes_of_isEmpty _ _ hempty
    | false =>
      rw [Option.bind_some, get?_overlay hfields hf hempty]
      exact ih f hf (hvalues f hf) _ _

theorem overlay_overlay (he : existing.Sorted) (hd : desired.Sorted) :
    (existing.overlay desired).overlay desired = existing.overlay desired := by
  induction desired using leafInduction generalizing existing with
  | leaf desired hleaf =>
    rw [overlay_of_leaf _ hleaf, overlay_of_leaf _ hleaf]
    split <;> rfl
  | object fields ih =>
    obtain ⟨hfields, hvalues⟩ := sorted_object.1 hd
    by_cases hnil : fields = []
    · subst hnil
      rw [overlay, overlay]
    · have hmerged : Entries.Sorted (overlayFields existing.fields fields) :=
        sorted_overlayFields he.fields fields
      rw [overlay_object _ hnil, overlay_object _ hnil, object.injEq, Json.fields]
      refine Entries.ext_get? (sorted_overlayFields hmerged fields) hmerged fun key => ?_
      rw [get?_overlayFields hfields, get?_overlayFields hfields]
      cases hget : Entries.get? key fields with
      | none => rfl
      | some d =>
        have hmem : (key, d) ∈ fields := Entries.mem_of_get? hget
        cases hempty : d.isEmpty with
        | true => simp [hempty]
        | false => simpa [hempty] using ih _ hmem (he.getD key) (hvalues _ hmem)

/-- What has been laid on top is no difference any more, and laying it on top again is none. -/
theorem overlay_settles (he : existing.Sorted) (hd : desired.Sorted) :
    ((existing.overlay desired).difference desired).isEmpty = true ∧
      (existing.overlay desired).overlay desired = existing.overlay desired := by
  constructor
  · rw [isEmpty_difference, changes_overlay hd]
    rfl
  · exact overlay_overlay he hd

/-- A scalar where an object is desired whose only field expresses no opinion, and a zero of the
other sign. -/
def scalarSize : Json :=
  .object [("size", .int 5), ("tags", .array [.number (.real .zero)])]

def nestedSize : Json :=
  .object [("size", .object [("limits", .object [("max", .int 0)])]),
    ("tags", .array [.number (.real (.neg .zero))])]

theorem overlay_settles_nestedSize : scalarSize.Sorted ∧ nestedSize.Sorted ∧
    scalarSize.overlay nestedSize = .object [("size", .object [("limits", .object [])]),
      ("tags", .array [.number (.real (.neg .zero))])] ∧
    ((scalarSize.overlay nestedSize).difference nestedSize).isEmpty = true ∧
    (scalarSize.overlay nestedSize).overlay nestedSize = scalarSize.overlay nestedSize := by
  have hkeys (size tags : Json) : Entries.Sorted [("size", size), ("tags", tags)] :=
    List.pairwise_pair.2 (by decide : "size" < "tags")
  have hscalar : scalarSize.Sorted :=
    ⟨hkeys _ _, by simp [SortedFields, Sorted, SortedItems, Json.int]⟩
  have hnested : nestedSize.Sorted :=
    ⟨hkeys _ _, by simp [SortedFields, Sorted, SortedItems, Json.int]⟩
  exact ⟨hscalar, hnested, rfl, overlay_settles hscalar hnested⟩

end Settled

/-- Wherever the desired value is an object with fields, there is an object. -/
def Frames (existing : Option Json) (desired : Json) : Prop :=
  ∀ keys f rest, desired.at? keys = some (.object (f :: rest)) →
    ∃ fields, existing.bind (at? keys) = some (.object fields)

section Frames

variable {existing : Option Json} {desired : Json}

theorem frames_of_leaf (h : ∀ fields, desired ≠ .object fields) : Frames existing desired := by
  intro keys f rest hat
  cases keys with
  | nil => exact absurd (Option.some.inj hat) (h _)
  | cons key keys =>
    cases desired with
    | object fields => exact absurd rfl (h fields)
    | null | bool | number | string | array => cases hat

theorem frames_nil : Frames existing (.object []) := by
  intro keys f rest hat
  cases keys with
  | nil => cases hat
  | cons key keys => cases hat

theorem frames_of_isEmpty (h : desired.isEmpty = true) : Frames existing desired := by
  cases desired with
  | object fields =>
    obtain rfl : fields = [] := by simpa [isEmpty] using h
    exact frames_nil
  | null | bool | number | string | array => exact frames_of_leaf (by simp)

theorem frames_object {fields : List (String × Json)} (hs : Entries.Sorted fields)
    (hne : fields ≠ []) :
    Frames existing (.object fields) ↔ (∃ es, existing = some (.object es)) ∧
      ∀ f ∈ fields, Frames (existing.bind (·.get? f.1)) f.2 := by
  obtain ⟨g, rest, rfl⟩ := List.exists_cons_of_ne_nil hne
  constructor
  · intro h
    refine ⟨?_, ?_⟩
    · obtain ⟨es, hes⟩ := h [] g rest rfl
      refine ⟨es, ?_⟩
      cases existing with
      | none => cases hes
      | some e => exact hes
    · intro f hf keys f' rest' hat
      have hget : Json.get? (.object (g :: rest)) f.1 = some f.2 := Entries.get?_of_mem hs hf
      obtain ⟨es, hes⟩ := h (f.1 :: keys) f' rest' (by rw [at?, hget]; exact hat)
      refine ⟨es, ?_⟩
      rw [Option.bind_assoc]
      exact hes
  · rintro ⟨⟨es, rfl⟩, hfields⟩ keys f' rest' hat
    cases keys with
    | nil => exact ⟨es, rfl⟩
    | cons key keys =>
      rw [at?, Option.bind_eq_some_iff] at hat
      obtain ⟨d, hget, hat⟩ := hat
      obtain ⟨fields, hfields⟩ := hfields (key, d) (Entries.mem_of_get? hget) keys f' rest' hat
      exact ⟨fields, by rwa [Option.bind_assoc] at hfields⟩

/-- Where nothing stands, what is desired is either reported or has no place to stand. -/
theorem not_frames_none (hlive : desired.isEmpty = false) {path : String}
    (hchanges : changes path none desired = []) : ¬ Frames none desired := by
  intro hframes
  cases desired with
  | object fields =>
    have hne : fields ≠ [] := by
      rintro rfl
      cases hlive
    obtain ⟨f, rest, rfl⟩ := List.exists_cons_of_ne_nil hne
    obtain ⟨es, hes⟩ := hframes [] f rest rfl
    cases hes
  | null | bool | number | string | array =>
    simp [changes, hlive] at hchanges

end Frames

section Unchanged

variable {existing desired : Json}

theorem rel_same_refl (j : Option Json) : Option.Rel (fun j k => j.same k = true) j j := by
  cases j with
  | none => exact .none
  | some j => exact .some (same_refl j)

theorem same_overlay (he : existing.Sorted) (hd : desired.Sorted) (path : String) :
    (existing.overlay desired).same existing = true ↔
      changes path (some existing) desired = [] ∧ Frames (some existing) desired := by
  induction desired using leafInduction generalizing existing path with
  | leaf desired hleaf =>
    rw [overlay_of_leaf _ hleaf, changes_of_leaf _ _ hleaf, and_iff_left (frames_of_leaf hleaf)]
    cases hempty : desired.isEmpty with
    | true => simp [same_refl]
    | false => simp [same_comm desired]
  | object fields ih =>
    obtain ⟨hfields, hvalues⟩ := sorted_object.1 hd
    by_cases hnil : fields = []
    · subst hnil
      refine iff_of_true ?_ ⟨rfl, frames_nil⟩
      rw [overlay]
      exact same_refl existing
    · rw [overlay_object _ hnil, changes, fieldChanges_eq_nil, frames_object hfields hnil]
      cases existing with
      | null | bool | number | string | array => simp [same]
      | object es =>
        have hes : Entries.Sorted es := he.fields
        have hfield : ∀ f ∈ fields,
            Option.Rel (fun j k => j.same k = true) (Entries.get? f.1 (overlayFields es fields))
                (Entries.get? f.1 es) ↔
              changes (childPath path f.1) (Entries.get? f.1 es) f.2 = [] ∧
                Frames (Entries.get? f.1 es) f.2 := by
          intro f hf
          rw [get?_overlayFields hfields, Entries.get?_of_mem hfields hf]
          cases hempty : f.2.isEmpty with
          | true =>
            refine iff_of_true ?_ ⟨changes_of_isEmpty _ _ hempty, frames_of_isEmpty hempty⟩
            simpa [hempty] using rel_same_refl _
          | false =>
            cases hget : Entries.get? f.1 es with
            | none => exact iff_of_false (by simp [hempty]) fun h => not_frames_none hempty h.1 h.2
            | some e =>
              have hsorted : e.Sorted := by
                have hbase := he.getD f.1
                rwa [Json.fields, hget] at hbase
              simpa [hempty] using ih f hf hsorted (hvalues f hf) (childPath path f.1)
        rw [same, Json.fields, sameFields_iff (sorted_overlayFields hes fields) hes]
        constructor
        · intro hsame
          have hboth := fun f hf => (hfield f hf).1 (hsame f.1)
          exact ⟨fun f hf => (hboth f hf).1, ⟨es, rfl⟩, fun f hf => (hboth f hf).2⟩
        · rintro ⟨hchanges, -, hframes⟩ key
          cases hget : Entries.get? key fields with
          | none =>
            rw [get?_overlayFields hfields, hget]
            exact rel_same_refl _
          | some d =>
            have hmem : (key, d) ∈ fields := Entries.mem_of_get? hget
            exact (hfield _ hmem).2 ⟨hchanges _ hmem, hframes _ hmem⟩

/-- Laying a value on top changes nothing exactly if no difference is reported and no object has to
be made for the fields that express no opinion. -/
theorem overlay_eq_existing_iff (he : existing.Sorted) (hd : desired.Sorted) :
    (existing.overlay desired == existing) = true ↔
      (existing.difference desired).isEmpty = true ∧
        ∀ keys f rest, desired.at? keys = some (.object (f :: rest)) →
          ∃ fields, existing.at? keys = some (.object fields) := by
  rw [isEmpty_difference, List.isEmpty_iff]
  exact same_overlay he hd ""

def plainStorage : Json := .object [("storage", .string "10Gi")]

def sizedStorage : Json := .object [("storage", .object [("size", .string "10Gi")])]

def sizelessStorage : Json := .object [("storage", .object [("size", .string "")])]

theorem overlay_eq_existing_iff_sizedStorage : sizedStorage.Sorted ∧ sizelessStorage.Sorted ∧
    (sizedStorage.difference sizelessStorage).isEmpty = true ∧
    ∀ keys f rest, sizelessStorage.at? keys = some (.object (f :: rest)) →
      ∃ fields, sizedStorage.at? keys = some (.object fields) := by
  have hsized : sizedStorage.Sorted := by simp [sizedStorage, Sorted, SortedFields]
  have hsizeless : sizelessStorage.Sorted := by simp [sizelessStorage, Sorted, SortedFields]
  have hsame : (sizedStorage.overlay sizelessStorage == sizedStorage) = true := rfl
  exact ⟨hsized, hsizeless, (overlay_eq_existing_iff hsized hsizeless).1 hsame⟩

theorem overlay_clears : (plainStorage.difference sizelessStorage).isEmpty = true ∧
    plainStorage.overlay sizelessStorage = .object [("storage", .object [])] ∧
    (plainStorage.overlay sizelessStorage == plainStorage) = false :=
  ⟨rfl, rfl, rfl⟩

end Unchanged

end MonitoringStack.Json
