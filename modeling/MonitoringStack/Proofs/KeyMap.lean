import MonitoringStack.KeyMap

namespace MonitoringStack

namespace Entries

variable {κ α β : Type}

theorem sorted_iff_keys [LT κ] {entries : List (κ × α)} :
    Sorted entries ↔ (entries.map (·.1)).Pairwise (· < ·) :=
  List.pairwise_map.symm

section Map

variable [DecidableEq κ]

theorem get?_map (f : α → β) (k : κ) (entries : List (κ × α)) :
    get? k (entries.map fun e => (e.1, f e.2)) = (get? k entries).map f := by
  induction entries with
  | nil => rfl
  | cons hd tl ih =>
    obtain ⟨k', v'⟩ := hd
    by_cases hk : k = k' <;> simp [get?, hk, ih]

theorem mem_of_get? {k : κ} {v : α} {entries : List (κ × α)} (h : get? k entries = some v) :
    (k, v) ∈ entries := by
  induction entries with
  | nil => simp [get?] at h
  | cons hd tl ih =>
    obtain ⟨k', v'⟩ := hd
    by_cases hk : k = k'
    · simp_all [get?]
    · exact List.mem_cons_of_mem _ (ih (by simpa [get?, hk] using h))

@[simp] theorem get?_erase_self (k : κ) (entries : List (κ × α)) :
    get? k (erase k entries) = none := by
  induction entries with
  | nil => rfl
  | cons hd tl ih =>
    obtain ⟨k', v'⟩ := hd
    by_cases hk : k' = k
    · simpa [erase, hk] using ih
    · simpa [erase, hk, get?, Ne.symm hk] using ih

theorem get?_erase_of_ne {k l : κ} (hne : l ≠ k) (entries : List (κ × α)) :
    get? l (erase k entries) = get? l entries := by
  induction entries with
  | nil => rfl
  | cons hd tl ih =>
    obtain ⟨k', v'⟩ := hd
    by_cases hk : k' = k
    · simpa [erase, hk, get?, hne] using ih
    · by_cases hl : l = k'
      · simp [erase, hk, get?, hl]
      · simpa [erase, hk, get?, hl] using ih

end Map

variable [LT κ]

theorem insert_map [DecidableLT κ] (f : α → β) (k : κ) (v : α) (entries : List (κ × α)) :
    insert k (f v) (entries.map fun e => (e.1, f e.2)) =
      (insert k v entries).map fun e => (e.1, f e.2) := by
  induction entries with
  | nil => rfl
  | cons hd tl ih =>
    obtain ⟨k', v'⟩ := hd
    simp only [List.map_cons, insert, ih]
    split
    · rfl
    · split <;> rfl

variable [KeyOrder κ]

theorem nodup_keys {entries : List (κ × α)} (hs : Sorted entries) :
    (entries.map (·.1)).Nodup := by
  apply (sorted_iff_keys.1 hs).imp
  rintro k l hlt rfl
  exact KeyOrder.irrefl k hlt

theorem ne_of_lt {k l : κ} (h : k < l) : l ≠ k := by
  rintro rfl
  exact KeyOrder.irrefl _ h

variable [DecidableEq κ]

theorem get?_eq_none_of_lt {k : κ} {entries : List (κ × α)} (h : ∀ e ∈ entries, k < e.1) :
    get? k entries = none := by
  cases hget : get? k entries with
  | none => rfl
  | some v => exact absurd (h _ (mem_of_get? hget)) (KeyOrder.irrefl k)

theorem not_lt_head {k l : κ} {v : α} {rest : List (κ × α)} (hs : Sorted ((l, v) :: rest))
    (h : get? k ((l, v) :: rest) ≠ none) : ¬ k < l := by
  intro hlt
  apply h
  obtain ⟨hrest, -⟩ := List.pairwise_cons.1 hs
  apply get?_eq_none_of_lt
  exact List.forall_mem_cons.2 ⟨hlt, fun e he => KeyOrder.trans hlt (hrest e he)⟩

theorem get?_of_mem {k : κ} {v : α} {entries : List (κ × α)} (hs : Sorted entries)
    (h : (k, v) ∈ entries) : get? k entries = some v := by
  induction entries with
  | nil => simp at h
  | cons hd tl ih =>
    obtain ⟨k', v'⟩ := hd
    obtain ⟨hhd, htl⟩ := List.pairwise_cons.1 hs
    rcases List.mem_cons.1 h with h | h
    · obtain ⟨rfl, rfl⟩ := Prod.mk.inj h
      simp [get?]
    · simpa [get?, ne_of_lt (hhd _ h)] using ih htl h

theorem get?_eq_some_iff {k : κ} {v : α} {entries : List (κ × α)} (hs : Sorted entries) :
    get? k entries = some v ↔ (k, v) ∈ entries :=
  ⟨mem_of_get?, get?_of_mem hs⟩

theorem length_erase {k : κ} {v : α} {entries : List (κ × α)} (hs : Sorted entries)
    (h : get? k entries = some v) : (erase k entries).length + 1 = entries.length := by
  induction entries with
  | nil => simp [get?] at h
  | cons hd tl ih =>
    obtain ⟨k', v'⟩ := hd
    obtain ⟨hhd, htl⟩ := List.pairwise_cons.1 hs
    by_cases hk : k = k'
    · have hrest : erase k tl = tl := by
        apply List.filter_eq_self.2
        intro e he
        simpa [hk] using ne_of_lt (hhd e he)
      have herase : erase k ((k', v') :: tl) = erase k tl := by simp [erase, hk]
      rw [herase, hrest, List.length_cons]
    · have herase : erase k ((k', v') :: tl) = (k', v') :: erase k tl := by
        simp [erase, Ne.symm hk]
      rw [herase, List.length_cons, List.length_cons]
      rw [ih htl (by simpa [get?, hk] using h)]

theorem ext_get? {xs ys : List (κ × α)} (hx : Sorted xs) (hy : Sorted ys)
    (h : ∀ k, get? k xs = get? k ys) : xs = ys := by
  have hm : ∀ e, e ∈ xs ↔ e ∈ ys := fun e => by
    rw [← get?_eq_some_iff hx, ← get?_eq_some_iff hy, h]
  clear h
  induction xs generalizing ys with
  | nil => exact (List.eq_nil_iff_forall_not_mem.2 fun e he => by simpa using (hm e).2 he).symm
  | cons x xs ih =>
    obtain ⟨hx1, hxs⟩ := List.pairwise_cons.1 hx
    cases ys with
    | nil => simpa using (hm x).1
    | cons y ys =>
      obtain ⟨hy1, hys⟩ := List.pairwise_cons.1 hy
      have hxy : x = y := by
        rcases List.mem_cons.1 ((hm x).1 List.mem_cons_self) with hxy | hxy
        · exact hxy
        · rcases List.mem_cons.1 ((hm y).2 List.mem_cons_self) with hyx | hyx
          · exact hyx.symm
          · exact absurd (KeyOrder.trans (hx1 y hyx) (hy1 x hxy)) (KeyOrder.irrefl _)
      subst hxy
      refine congrArg (x :: ·) (ih hxs hys fun e => ⟨fun he => ?_, fun he => ?_⟩)
      · rcases List.mem_cons.1 ((hm e).1 (List.mem_cons_of_mem _ he)) with rfl | he'
        · exact absurd (hx1 e he) (KeyOrder.irrefl _)
        · exact he'
      · rcases List.mem_cons.1 ((hm e).2 (List.mem_cons_of_mem _ he)) with rfl | he'
        · exact absurd (hy1 e he) (KeyOrder.irrefl _)
        · exact he'

variable [DecidableLT κ]

@[simp] theorem get?_insert_self (k : κ) (v : α) (entries : List (κ × α)) :
    get? k (insert k v entries) = some v := by
  induction entries with
  | nil => simp [insert, get?]
  | cons hd tl ih =>
    obtain ⟨k', v'⟩ := hd
    unfold insert
    split
    · simp [get?]
    · split
      · rename_i hgt
        simp [get?, ne_of_lt hgt, ih]
      · simp [get?]

theorem get?_insert_of_ne {k l : κ} (hne : l ≠ k) (v : α) (entries : List (κ × α)) :
    get? l (insert k v entries) = get? l entries := by
  induction entries with
  | nil => simp [insert, get?, hne]
  | cons hd tl ih =>
    obtain ⟨k', v'⟩ := hd
    unfold insert
    split
    · simp [get?, hne]
    · split
      · simp [get?, ih]
      · rename_i hlt hgt
        obtain rfl := KeyOrder.eq_of_not_lt hlt hgt
        simp [get?, hne]

end Entries

namespace KeyMap

variable {κ α : Type} [LT κ] [DecidableEq κ]

@[simp] theorem get?_empty (k : κ) : (∅ : KeyMap κ α).get? k = none := rfl

@[simp] theorem get?_erase_self (m : KeyMap κ α) (k : κ) : (m.erase k).get? k = none :=
  Entries.get?_erase_self k m.entries

theorem get?_erase_of_ne (m : KeyMap κ α) {k l : κ} (h : l ≠ k) :
    (m.erase k).get? l = m.get? l :=
  Entries.get?_erase_of_ne h m.entries

theorem contains_eq_true {m : KeyMap κ α} {k : κ} : m.contains k = true ↔ ∃ v, m.get? k = some v :=
  Option.isSome_iff_exists

theorem contains_eq_false {m : KeyMap κ α} {k : κ} : m.contains k = false ↔ m.get? k = none :=
  Option.isSome_eq_false_iff.trans Option.isNone_iff_eq_none

variable [KeyOrder κ]

theorem get?_eq_some_iff (m : KeyMap κ α) {k : κ} {v : α} :
    m.get? k = some v ↔ (k, v) ∈ m.entries :=
  Entries.get?_eq_some_iff m.sorted

omit [DecidableEq κ] in
theorem keys_nodup (m : KeyMap κ α) : m.keys.Nodup := Entries.nodup_keys m.sorted

theorem contains_iff_mem_keys (m : KeyMap κ α) {k : κ} : m.contains k = true ↔ k ∈ m.keys := by
  rw [contains_eq_true, keys, List.mem_map]
  constructor
  · rintro ⟨v, hv⟩
    exact ⟨(k, v), m.get?_eq_some_iff.1 hv, rfl⟩
  · rintro ⟨⟨l, v⟩, hmem, rfl⟩
    exact ⟨v, m.get?_eq_some_iff.2 hmem⟩

theorem size_erase (m : KeyMap κ α) {k : κ} {v : α} (h : m.get? k = some v) :
    (m.erase k).size + 1 = m.size :=
  Entries.length_erase m.sorted h

theorem ext_get? {m n : KeyMap κ α} (h : ∀ k, m.get? k = n.get? k) : m = n :=
  KeyMap.ext (Entries.ext_get? m.sorted n.sorted h)

variable [DecidableLT κ]

@[simp] theorem get?_insert_self (m : KeyMap κ α) (k : κ) (v : α) :
    (m.insert k v).get? k = some v :=
  Entries.get?_insert_self k v m.entries

theorem get?_insert_of_ne (m : KeyMap κ α) {k l : κ} (h : l ≠ k) (v : α) :
    (m.insert k v).get? l = m.get? l :=
  Entries.get?_insert_of_ne h v m.entries

theorem get?_insert (m : KeyMap κ α) (k l : κ) (v : α) :
    (m.insert k v).get? l = if l = k then some v else m.get? l := by
  by_cases h : l = k
  · simp [h]
  · simp [h, m.get?_insert_of_ne h]

theorem isEmpty_insert (m : KeyMap κ α) (k : κ) (v : α) : (m.insert k v).isEmpty = false := by
  have h := m.get?_insert_self k v
  cases he : (m.insert k v).entries with
  | nil => simp [get?, he, Entries.get?] at h
  | cons _ _ => simp [isEmpty, he]

theorem isEmpty_ofList (pairs : List (κ × α)) : (ofList pairs).isEmpty = pairs.isEmpty := by
  have hfold (m : KeyMap κ α) (hm : m.isEmpty = false) (ps : List (κ × α)) :
      (ps.foldl (fun m e => m.insert e.1 e.2) m).isEmpty = false := by
    induction ps generalizing m with
    | nil => exact hm
    | cons p ps ih => exact ih _ (m.isEmpty_insert _ _)
  cases pairs with
  | nil => rfl
  | cons p ps => exact hfold _ (isEmpty_insert _ _ _) ps

/-- What is found under a key is the last thing that was put there. -/
theorem get?_ofList (pairs : List (κ × α)) (k : κ) :
    (ofList pairs).get? k = (pairs.reverse.find? fun e => e.1 = k).map (·.2) := by
  have hfold (m : KeyMap κ α) : (pairs.foldl (fun m e => m.insert e.1 e.2) m).get? k =
      ((pairs.reverse.find? fun e => e.1 = k).map (·.2)).or (m.get? k) := by
    induction pairs generalizing m with
    | nil => rfl
    | cons p ps ih =>
      rw [List.foldl_cons, ih, get?_insert, List.reverse_cons, List.find?_append]
      cases ps.reverse.find? fun e => e.1 = k with
      | some e => rfl
      | none =>
        by_cases hk : k = p.1
        · simp [hk]
        · simp [hk, Ne.symm hk]
  exact (hfold empty).trans Option.or_none

theorem get?_foldl_insert (m : KeyMap κ α) {pairs : List (κ × α)}
    (hs : Entries.Sorted pairs) (k : κ) :
    (pairs.foldl (fun m e => m.insert e.1 e.2) m).get? k =
      (Entries.get? k pairs).or (m.get? k) := by
  induction pairs generalizing m with
  | nil => rfl
  | cons p ps ih =>
    obtain ⟨l, v⟩ := p
    obtain ⟨hhd, hps⟩ := List.pairwise_cons.1 hs
    rw [List.foldl_cons, ih _ hps]
    by_cases hk : k = l
    · subst hk
      have hnone : Entries.get? k ps = none := Entries.get?_eq_none_of_lt hhd
      simp [Entries.get?, hnone]
    · simp [Entries.get?, hk, get?_insert_of_ne]

theorem ofList_entries (m : KeyMap κ α) : ofList m.entries = m :=
  ext_get? fun k => by
    rw [ofList, get?_foldl_insert _ m.sorted]
    exact Option.or_none

end KeyMap

end MonitoringStack
