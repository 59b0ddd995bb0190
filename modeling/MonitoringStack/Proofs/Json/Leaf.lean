import MonitoringStack.Proofs.Json.Difference

namespace MonitoringStack.Json

/-- The keys lead through objects to a value that is none and that expresses an opinion. On the way
there is no empty object, as nothing stands under its keys. -/
structure LiveLeaf (j : Json) (keys : List String) (leaf : Json) : Prop where
  found : j.at? keys = some leaf
  live : leaf.isEmpty = false
  scalar : ∀ fields, leaf ≠ .object fields

mutual

/-- The live leaves and the keys that lead to them, in the order of the fields. -/
def leaves : Json → List (List String × Json)
  | .object fields => fieldLeaves fields
  | leaf => if leaf.isEmpty then [] else [([], leaf)]

def fieldLeaves : List (String × Json) → List (List String × Json)
  | [] => []
  | (key, j) :: rest => j.leaves.map (fun l => (key :: l.1, l.2)) ++ fieldLeaves rest

end

theorem leaves_of_leaf {j : Json} (h : ∀ fields, j ≠ .object fields) :
    j.leaves = if j.isEmpty then [] else [([], j)] := by
  cases j with
  | object fields => exact absurd rfl (h fields)
  | null | bool | number | string | array => rw [leaves]; simp

theorem fieldLeaves_eq (fields : List (String × Json)) :
    fieldLeaves fields = fields.flatMap fun f => f.2.leaves.map fun l => (f.1 :: l.1, l.2) := by
  induction fields with
  | nil => rfl
  | cons f rest ih => rw [fieldLeaves, ih, List.flatMap_cons]

theorem mem_leaves {j : Json} (hj : j.Sorted) {keys : List String} {leaf : Json} :
    (keys, leaf) ∈ j.leaves ↔ LiveLeaf j keys leaf := by
  induction j using leafInduction generalizing keys leaf with
  | leaf j hleaf =>
    rw [leaves_of_leaf hleaf]
    constructor
    · intro hmem
      cases hlive : j.isEmpty with
      | true => simp [hlive] at hmem
      | false =>
        obtain ⟨rfl, rfl⟩ : keys = [] ∧ leaf = j := by simpa [hlive] using hmem
        exact ⟨rfl, hlive, hleaf⟩
    · intro h
      cases keys with
      | nil =>
        obtain rfl : j = leaf := Option.some.inj h.found
        simp [h.live]
      | cons key keys =>
        have hfound := h.found
        cases j with
        | object fields => exact absurd rfl (hleaf fields)
        | null | bool | number | string | array => cases hfound
  | object fields ih =>
    obtain ⟨hfields, hvalues⟩ := sorted_object.1 hj
    rw [leaves, fieldLeaves_eq, List.mem_flatMap]
    constructor
    · rintro ⟨f, hf, hmem⟩
      obtain ⟨⟨keys', leaf'⟩, hmem', heq⟩ := List.mem_map.1 hmem
      obtain ⟨rfl, rfl⟩ := Prod.mk.inj heq
      have h := (ih f hf (hvalues f hf)).1 hmem'
      have hget : (object fields).get? f.1 = some f.2 := Entries.get?_of_mem hfields hf
      refine ⟨?_, h.live, h.scalar⟩
      rw [at?, hget]
      exact h.found
    · intro h
      cases keys with
      | nil => exact absurd (Option.some.inj h.found).symm (h.scalar fields)
      | cons key keys =>
        obtain ⟨j, hget, hfound⟩ := Option.bind_eq_some_iff.1 h.found
        have hf : (key, j) ∈ fields := Entries.mem_of_get? hget
        refine ⟨(key, j), hf, List.mem_map.2 ⟨(keys, leaf), ?_, rfl⟩⟩
        exact (ih _ hf (hvalues _ hf)).2 ⟨hfound, h.live, h.scalar⟩

theorem leaves_pairwise {j : Json} (hj : j.Sorted) : j.leaves.Pairwise fun l m => l.1 < m.1 := by
  induction j using leafInduction with
  | leaf j hleaf =>
    rw [leaves_of_leaf hleaf]
    split <;> simp
  | object fields ih =>
    obtain ⟨hfields, hvalues⟩ := sorted_object.1 hj
    rw [leaves, fieldLeaves_eq, List.pairwise_flatMap]
    constructor
    · intro f hf
      rw [List.pairwise_map]
      apply (ih f hf (hvalues f hf)).imp
      intro l m hlt
      exact List.cons_lt_cons_iff.2 (.inr ⟨rfl, hlt⟩)
    · apply hfields.imp
      intro f g hlt l hl m hm
      obtain ⟨l', -, rfl⟩ := List.mem_map.1 hl
      obtain ⟨m', -, rfl⟩ := List.mem_map.1 hm
      exact List.cons_lt_cons_iff.2 (.inl hlt)

/-- A live leaf of the desired value that is not met, and what stands in its place. -/
structure Unmet (existing desired : Json) (keys : List String) (c : Change) : Prop where
  leaf : LiveLeaf desired keys c.desired
  existing : c.existing = existing.at? keys
  differs : ∀ j, c.existing = some j → (j == c.desired) = false

def shortfalls (existing : Option Json) (desired : Json) : List (List String × Change) :=
  desired.leaves.filterMap fun l =>
    if (existing.bind (at? l.1)).any (· == l.2) then none
    else some (l.1, ⟨existing.bind (at? l.1), l.2⟩)

theorem shortfalls_pairwise {desired : Json} (hd : desired.Sorted) (existing : Option Json) :
    (shortfalls existing desired).Pairwise fun u v => u.1 < v.1 := by
  apply (leaves_pairwise hd).filterMap
  intro l m hlt u hu v hv
  split at hu
  · cases hu
  · split at hv
    · cases hv
    · obtain rfl := Option.some.inj hu
      obtain rfl := Option.some.inj hv
      exact hlt

theorem shortfalls_object (existing : Option Json) (fields : List (String × Json)) :
    shortfalls existing (.object fields) = fields.flatMap fun f =>
      (shortfalls (existing.bind (·.get? f.1)) f.2).map fun u => (f.1 :: u.1, u.2) := by
  rw [shortfalls, leaves, fieldLeaves_eq, List.filterMap_flatMap]
  congr 1
  funext f
  rw [List.filterMap_map, shortfalls, List.map_filterMap]
  congr 1
  funext l
  have hat : existing.bind (at? (f.1 :: l.1)) =
      (existing.bind (·.get? f.1)).bind (at? l.1) := (Option.bind_assoc ..).symm
  simp only [Function.comp_apply, hat]
  split <;> rfl

theorem fieldChanges_eq (path : String) (existing : Option Json) (fields : List (String × Json)) :
    fieldChanges path existing fields = fields.flatMap fun f =>
      changes (childPath path f.1) (existing.bind (·.get? f.1)) f.2 := by
  induction fields with
  | nil => rfl
  | cons f rest ih => rw [fieldChanges, ih, List.flatMap_cons]

/-- Where a change is reported: the keys with dots between them. -/
theorem changes_eq (path : String) (existing : Option Json) (desired : Json) :
    changes path existing desired =
      (shortfalls existing desired).map fun u => (u.1.foldl childPath path, u.2) := by
  induction desired using leafInduction generalizing path existing with
  | leaf desired hleaf =>
    rw [changes_of_leaf path existing hleaf, shortfalls, leaves_of_leaf hleaf]
    cases hempty : desired.isEmpty with
    | true => simp
    | false =>
      have hroot : existing.bind (at? []) = existing := by cases existing <;> rfl
      cases hany : existing.any (· == desired) <;> simp [hroot, hany]
  | object fields ih =>
    rw [changes, fieldChanges_eq, shortfalls_object, List.map_flatMap]
    refine congrArg List.flatten (List.map_congr_left fun f hf => ?_)
    rw [ih f hf, List.map_map]
    rfl

def dotted (keys : List String) : String := keys.foldl childPath ""

/-- The last one that is looked for in an ordered list is the one that no other of them is above. -/
theorem find?_reverse_eq_some_iff {α : Type} {r : α → α → Prop} (hasymm : ∀ a b, r a b → ¬ r b a)
    {xs : List α} (hs : xs.Pairwise r) {q : α → Bool} {a : α} :
    xs.reverse.find? q = some a ↔ a ∈ xs ∧ q a = true ∧ ∀ b ∈ xs, q b = true → ¬ r a b := by
  rw [List.find?_eq_some_iff_append]
  constructor
  · rintro ⟨hq, after, before, hxs, hafter⟩
    obtain rfl : xs = before.reverse ++ a :: after.reverse := by
      rw [← List.reverse_reverse xs, hxs]
      simp
    obtain ⟨-, -, hbefore⟩ := List.pairwise_append.1 hs
    refine ⟨by simp, hq, fun b hb hqb => ?_⟩
    rcases List.mem_append.1 hb with hb | hb
    · exact hasymm b a (hbefore b hb a List.mem_cons_self)
    · rcases List.mem_cons.1 hb with rfl | hb
      · exact fun hself => hasymm b b hself hself
      · exact absurd hqb (by simpa using hafter b (List.mem_reverse.1 hb))
  · rintro ⟨ha, hq, hlast⟩
    obtain ⟨before, after, rfl⟩ := List.append_of_mem ha
    obtain ⟨-, hafter, -⟩ := List.pairwise_append.1 hs
    refine ⟨hq, after.reverse, before.reverse, by simp, fun b hb => ?_⟩
    have hb : b ∈ after := List.mem_reverse.1 hb
    cases hqb : q b with
    | false => rfl
    | true =>
      refine absurd (List.rel_of_pairwise_cons hafter hb) (hlast b ?_ hqb)
      exact List.mem_append_right _ (List.mem_cons_of_mem _ hb)

section Difference

variable {existing desired : Json}

theorem mem_shortfalls (hd : desired.Sorted) {keys : List String} {c : Change} :
    (keys, c) ∈ shortfalls (some existing) desired ↔ Unmet existing desired keys c := by
  rw [shortfalls, List.mem_filterMap]
  constructor
  · rintro ⟨⟨keys', leaf⟩, hmem, hsome⟩
    split at hsome
    · cases hsome
    · rename_i hany
      obtain ⟨rfl, rfl⟩ := Prod.mk.inj (Option.some.inj hsome)
      refine ⟨(mem_leaves hd).1 hmem, rfl, fun j hj => ?_⟩
      simpa [show existing.at? keys' = some j from hj] using hany
  · intro h
    obtain ⟨found, leaf⟩ := c
    obtain rfl : found = _ := h.existing
    have hany : ¬ ((some existing).bind (at? keys)).any (· == leaf) = true := by
      cases hat : existing.at? keys with
      | none => simp [hat]
      | some j => simp [hat, h.differs j hat]
    exact ⟨(keys, leaf), (mem_leaves hd).2 h.leaf, if_neg hany⟩

theorem get?_difference (hd : desired.Sorted) {path : String} {c : Change} :
    (existing.difference desired).get? path = some c ↔
      ∃ keys, Unmet existing desired keys c ∧ dotted keys = path ∧
        ∀ keys' c', Unmet existing desired keys' c' → dotted keys' = path → ¬ keys < keys' := by
  rw [difference, KeyMap.get?_ofList, changes_eq, ← List.map_reverse, List.find?_map,
    Option.map_map, Option.map_eq_some_iff]
  -- a map made of a list holds the last entry of each key, here the greatest, as the list is sorted
  have hasymm (u v : List String × Change) : u.1 < v.1 → ¬ v.1 < u.1 := List.lt_asymm
  simp only [find?_reverse_eq_some_iff hasymm (shortfalls_pairwise hd _)]
  constructor
  · rintro ⟨⟨keys, c'⟩, ⟨hmem, hpath, hlast⟩, rfl⟩
    refine ⟨keys, (mem_shortfalls hd).1 hmem, of_decide_eq_true hpath, ?_⟩
    intro keys' c'' hunmet hpath'
    exact hlast (keys', c'') ((mem_shortfalls hd).2 hunmet) (decide_eq_true hpath')
  · rintro ⟨keys, hunmet, hpath, hlast⟩
    refine ⟨(keys, c), ⟨(mem_shortfalls hd).2 hunmet, decide_eq_true hpath, ?_⟩, rfl⟩
    rintro ⟨keys', c'⟩ hmem hpath'
    exact hlast keys' c' ((mem_shortfalls hd).1 hmem) (of_decide_eq_true hpath')

theorem isEmpty_difference_iff (hd : desired.Sorted) :
    (existing.difference desired).isEmpty = true ↔
      ∀ keys leaf, LiveLeaf desired keys leaf →
        ∃ j, existing.at? keys = some j ∧ (j == leaf) = true := by
  rw [isEmpty_difference, changes_eq, List.isEmpty_iff, List.map_eq_nil_iff, shortfalls,
    List.filterMap_eq_nil_iff]
  constructor
  · intro h keys leaf hleaf
    have hnone := h (keys, leaf) ((mem_leaves hd).2 hleaf)
    simpa [Option.any_eq_true] using hnone
  · rintro h ⟨keys, leaf⟩ hmem
    obtain ⟨j, hat, hsame⟩ := h keys leaf ((mem_leaves hd).1 hmem)
    simp [hat, hsame]

theorem contains_difference (hd : desired.Sorted) {path : String} :
    (existing.difference desired).contains path = true ↔
      ∃ keys c, Unmet existing desired keys c ∧ dotted keys = path := by
  rw [KeyMap.contains, difference, KeyMap.get?_ofList, changes_eq, ← List.map_reverse,
    List.find?_map, Option.isSome_map, Option.isSome_map, List.find?_isSome]
  constructor
  · rintro ⟨⟨keys, c⟩, hmem, hpath⟩
    exact ⟨keys, c, (mem_shortfalls hd).1 (List.mem_reverse.1 hmem), of_decide_eq_true hpath⟩
  · rintro ⟨keys, c, hunmet, hpath⟩
    exact ⟨(keys, c), List.mem_reverse.2 ((mem_shortfalls hd).2 hunmet), decide_eq_true hpath⟩

/-- A difference reports the live leaves that are not met, under their keys with dots between them.
Where several come under one path, the last in the order of the keys is reported. -/
theorem difference_reports (hd : desired.Sorted) (existing : Json) :
    (∀ path, (existing.difference desired).contains path = true ↔
      ∃ keys c, Unmet existing desired keys c ∧ dotted keys = path) ∧
    (∀ path c, (existing.difference desired).get? path = some c ↔
      ∃ keys, Unmet existing desired keys c ∧ dotted keys = path ∧
        ∀ keys' c', Unmet existing desired keys' c' → dotted keys' = path → ¬ keys < keys') ∧
    (existing.difference desired).keys.Pairwise (· < ·) ∧
    ((existing.difference desired).isEmpty = true ↔
      ∀ keys leaf, LiveLeaf desired keys leaf →
        ∃ j, existing.at? keys = some j ∧ (j == leaf) = true) := by
  refine ⟨fun path => contains_difference hd, fun path c => get?_difference hd, ?_,
    isEmpty_difference_iff hd⟩
  exact Entries.sorted_iff_keys.1 (existing.difference desired).sorted

/-- Two leaves that come under one path, and one that expresses no opinion. -/
def dottedLabels : Json :=
  .object [("labels", .object [("app", .string ""), ("team", .string "a")]),
    ("labels.team", .string "b")]

theorem difference_reports_dottedLabels : dottedLabels.Sorted ∧
    ∃ keys, Unmet (.object []) dottedLabels keys ⟨none, .string "b"⟩ ∧
      dotted keys = "labels.team" ∧
      ∀ keys' c', Unmet (.object []) dottedLabels keys' c' → dotted keys' = "labels.team" →
        ¬ keys < keys' := by
  have hsorted : dottedLabels.Sorted := by
    refine ⟨List.pairwise_pair.2 (by decide), ⟨List.pairwise_pair.2 (by decide), ?_⟩, ?_⟩
    · simp [SortedFields, Sorted]
    · simp [SortedFields, Sorted]
  obtain ⟨-, hget, -⟩ := difference_reports hsorted (.object [])
  exact ⟨hsorted, (hget "labels.team" _).1 rfl⟩

end Difference

end MonitoringStack.Json
