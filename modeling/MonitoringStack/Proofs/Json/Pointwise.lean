import MonitoringStack.Proofs.Json.Leaf

namespace MonitoringStack.Json

/-- On their way the keys come to nothing, or to a value that expresses no opinion, and before it to
objects with fields alone. -/
inductive Silent : Json → List String → Prop
  | empty {j : Json} (h : j.isEmpty = true) (keys : List String) : Silent j keys
  | missing {f : String × Json} {rest : List (String × Json)} {key : String}
      (h : Entries.get? key (f :: rest) = none) (keys : List String) :
      Silent (.object (f :: rest)) (key :: keys)
  | field {fields : List (String × Json)} {key : String} {j : Json} {keys : List String}
      (h : Entries.get? key fields = some j) (rest : Silent j keys) :
      Silent (.object fields) (key :: keys)

theorem Silent.isEmpty {j : Json} (h : Silent j []) : j.isEmpty = true := by
  cases h
  assumption

theorem at?_append (keys keys' : List String) (j : Json) :
    j.at? (keys ++ keys') = (j.at? keys).bind (at? keys') := by
  induction keys generalizing j with
  | nil => rfl
  | cons key keys ih =>
    rw [List.cons_append, at?, at?, Option.bind_assoc]
    exact congrArg _ (funext ih)

theorem at?_of_leaf {j : Json} (h : ∀ fields, j ≠ .object fields) (key : String)
    (keys : List String) : j.at? (key :: keys) = none := by
  cases j with
  | object fields => exact absurd rfl (h fields)
  | null | bool | number | string | array => rfl

theorem isEmpty_of_at? {j k : Json} {keys : List String} (h : j.at? keys = some k)
    (hk : k.isEmpty = false) : j.isEmpty = false := by
  cases keys with
  | nil =>
    obtain rfl : j = k := Option.some.inj h
    exact hk
  | cons key keys =>
    cases j with
    | object fields =>
      cases fields with
      | nil => cases h
      | cons f rest => rfl
    | null | bool | number | string | array => cases h

/-- Where nothing stands, to look below `null` makes no difference. -/
theorem getD_at?_getD (j : Option Json) (keys : List String) :
    (at? keys (j.getD .null)).getD .null = (j.bind (at? keys)).getD .null := by
  cases j with
  | none => cases keys <;> rfl
  | some j => rfl

section Overlay

variable {existing desired : Json}

theorem get?_overlay_object {fields : List (String × Json)} (hs : Entries.Sorted fields)
    (existing : Json) (key : String) :
    (existing.overlay (.object fields)).get? key =
      match Entries.get? key fields with
      | none => existing.get? key
      | some d =>
        if d.isEmpty then existing.get? key
        else some (((existing.get? key).getD .null).overlay d) := by
  cases fields with
  | nil => rw [overlay, Entries.get?]
  | cons f rest =>
    rw [overlay]
    exact get?_overlayFields hs existing.fields key

theorem at?_overlay (hd : desired.Sorted) {keys : List String} {d : Json}
    (hfound : desired.at? keys = some d) (hlive : d.isEmpty = false) (existing : Json) :
    (existing.overlay desired).at? keys = some (((existing.at? keys).getD .null).overlay d) := by
  induction keys generalizing existing desired with
  | nil =>
    obtain rfl := Option.some.inj hfound
    rfl
  | cons key keys ih =>
    obtain ⟨j, hget, hat⟩ := Option.bind_eq_some_iff.1 hfound
    cases desired with
    | object fields =>
      obtain ⟨hfields, hvalues⟩ := sorted_object.1 hd
      have hget : Entries.get? key fields = some j := hget
      have hj : j.isEmpty = false := isEmpty_of_at? hat hlive
      have hsorted : j.Sorted := hvalues _ (Entries.mem_of_get? hget)
      rw [at?, get?_overlay_object hfields, hget]
      simp only [hj]
      rw [if_neg (by simp), Option.bind_some, ih hsorted hat, getD_at?_getD]
      rfl
    | null | bool | number | string | array => cases hget

theorem at?_overlay_of_silent (hd : desired.Sorted) {keys : List String} (h : Silent desired keys)
    (existing : Json) : (existing.overlay desired).at? keys = existing.at? keys := by
  induction h generalizing existing with
  | empty h keys => rw [overlay_of_isEmpty existing h]
  | @missing f rest key h keys =>
    obtain ⟨hfields, -⟩ := sorted_object.1 hd
    rw [at?, at?, get?_overlay_object hfields, h]
  | @field fields key j keys h rest ih =>
    obtain ⟨hfields, hvalues⟩ := sorted_object.1 hd
    have hsorted : j.Sorted := hvalues _ (Entries.mem_of_get? h)
    rw [at?, at?, get?_overlay_object hfields, h]
    cases hj : j.isEmpty with
    | true => simp [hj]
    | false =>
      simp only [hj]
      rw [if_neg (by simp), Option.bind_some, ih hsorted]
      cases hget : existing.get? key with
      | some e => rfl
      | none =>
        -- `j` is laid over `null`, which would show if the keys ended here; but `j` is not empty
        cases keys with
        | nil => simp [rest.isEmpty] at hj
        | cons l keys => rfl

/-- What an overlay holds where keys lead to depends on what its two sides hold there alone: a leaf
of the desired value, with nothing below it, an object where the desired value has one with fields,
and else what the existing value holds. -/
theorem overlay_pointwise (hd : desired.Sorted) (existing : Json) (keys : List String) :
    (∀ leaf, LiveLeaf desired keys leaf → (existing.overlay desired).at? keys = some leaf) ∧
    (∀ f rest, desired.at? keys = some (.object (f :: rest)) →
      ∃ fields, (existing.overlay desired).at? keys = some (.object fields)) ∧
    (Silent desired keys → (existing.overlay desired).at? keys = existing.at? keys) ∧
    ∀ before leaf key rest, LiveLeaf desired before leaf → keys = before ++ key :: rest →
      (existing.overlay desired).at? keys = none := by
  have hleaf {keys leaf} (h : LiveLeaf desired keys leaf) :
      (existing.overlay desired).at? keys = some leaf := by
    rw [at?_overlay hd h.found h.live, overlay_of_leaf _ h.scalar, h.live]
    rfl
  refine ⟨fun leaf h => hleaf h, ?_, fun h => at?_overlay_of_silent hd h existing, ?_⟩
  · intro f rest hat
    rw [at?_overlay hd hat rfl, overlay]
    exact ⟨_, rfl⟩
  · rintro before leaf key rest h rfl
    rw [at?_append, hleaf h]
    exact at?_of_leaf h.scalar key rest

def leastSize : Json := .object [("size", .object [("least", .int 1)])]

/-- A size with a new upper bound and no opinion on the lower one. -/
def mostSize : Json := .object [("size", .object [("least", .int 0), ("most", .int 5)])]

theorem overlay_pointwise_mostSize : mostSize.Sorted ∧
    (leastSize.overlay mostSize).at? ["size", "most"] = some (.int 5) ∧
    (∃ fields, (leastSize.overlay mostSize).at? ["size"] = some (.object fields)) ∧
    (leastSize.overlay mostSize).at? ["size", "least"] = some (.int 1) ∧
    (leastSize.overlay mostSize).at? ["size", "most", "unit"] = none := by
  have hsorted : mostSize.Sorted := by
    refine ⟨List.pairwise_singleton _ _, ⟨List.pairwise_pair.2 (by decide), ?_⟩, trivial⟩
    simp [SortedFields, Sorted, Json.int]
  have hmost : LiveLeaf mostSize ["size", "most"] (.int 5) := ⟨rfl, rfl, by simp [Json.int]⟩
  have hleast : Silent mostSize ["size", "least"] := .field rfl (.field rfl (.empty rfl []))
  obtain ⟨hleaf, -, -, -⟩ := overlay_pointwise hsorted leastSize ["size", "most"]
  obtain ⟨-, hobject, -, -⟩ := overlay_pointwise hsorted leastSize ["size"]
  obtain ⟨-, -, hsilent, -⟩ := overlay_pointwise hsorted leastSize ["size", "least"]
  obtain ⟨-, -, -, hbelow⟩ := overlay_pointwise hsorted leastSize ["size", "most", "unit"]
  exact ⟨hsorted, hleaf _ hmost, hobject _ _ rfl, hsilent hleast,
    hbelow ["size", "most"] _ "unit" [] hmost rfl⟩

end Overlay

end MonitoringStack.Json
