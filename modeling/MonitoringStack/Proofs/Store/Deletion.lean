import MonitoringStack.Proofs.Store.Operations

namespace MonitoringStack

open Kube

namespace Store

variable {α : Type} [Resource α]

/-- Every object stands under the key that it names for itself, and names both parts of it. -/
def Placed (s : Store α) : Prop :=
  ∀ key a, s.objects.get? key = some a → identity a = .ok key

theorem name_of_identity {a : α} {key : Key} (h : identity a = .ok key) :
    (Resource.metadata a).name = some key.name := by
  have hkey := key_of_identity h
  cases hname : (Resource.metadata a).name with
  | some name => rw [hkey, Key.of, hname, Option.getD_some]
  | none =>
    have hempty : (Key.of a).name = "" := by rw [Key.of, hname, Option.getD_none]
    simp [identity, hempty] at h

variable (s : Store α)

def Deletes (key : Key) : Prop := s.fault? .delete (some key) = none

instance (key : Key) : Decidable (s.Deletes key) :=
  inferInstanceAs (Decidable (s.fault? .delete (some key) = none))

theorem access_list (ns? : Option String) (selector : Selector) :
    (access : ResourceStore (StateM (Store α)) α).list ns? selector = list ns? selector := rfl

theorem access_delete (key : Key) :
    (access : ResourceStore (StateM (Store α)) α).delete key = delete key := rfl

section Delete

variable {s} {key : Key}

theorem delete_of_fault {fault : Fault} (h : s.fault? .delete (some key) = some fault) :
    s.delete key = (.error (fault.error (describe α key)), s.logged (.delete key)) := by
  simp [delete, h]

theorem delete_of_present {a : α} (h : s.Deletes key) (hget : s.objects.get? key = some a) :
    s.delete key =
      (.ok (), { s.logged (.delete key) with objects := s.objects.erase key }) := by
  have hfault : s.fault? .delete (some key) = none := h
  have hthere : s.objects.contains key = true := KeyMap.contains_eq_true.2 ⟨a, hget⟩
  simp [delete, hfault, hthere]

theorem delete_of_absent (h : s.Deletes key) (hget : s.objects.get? key = none) :
    s.delete key = (.error (.notFound (describe α key)), s.logged (.delete key)) := by
  have hfault : s.fault? .delete (some key) = none := h
  have habsent : s.objects.contains key = false := KeyMap.contains_eq_false.2 hget
  simp [delete, hfault, habsent]

end Delete

theorem delete_snd (key : Key) :
    (s.delete key).2 =
      { s.logged (.delete key) with objects := (s.delete key).2.objects } := by
  by_cases h : s.Deletes key
  · cases hget : s.objects.get? key with
    | some a => rw [delete_of_present h hget]
    | none => rw [delete_of_absent h hget]
  · obtain ⟨fault, hfault⟩ := Option.ne_none_iff_exists'.1 h
    rw [delete_of_fault hfault]

theorem get?_delete (key l : Key) :
    (s.delete key).2.objects.get? l =
      if l = key ∧ s.Deletes l then none else s.objects.get? l := by
  by_cases h : s.Deletes key
  · cases hget : s.objects.get? key with
    | some a =>
      rw [delete_of_present h hget]
      by_cases hl : l = key
      · simp [hl, h]
      · simp [hl, s.objects.get?_erase_of_ne hl]
    | none =>
      rw [delete_of_absent h hget, objects_logged]
      by_cases hl : l = key
      · simp [hl, hget]
      · simp [hl]
  · obtain ⟨fault, hfault⟩ := Option.ne_none_iff_exists'.1 h
    rw [delete_of_fault hfault, objects_logged]
    by_cases hl : l = key
    · simp [hl, h]
    · simp [hl]

theorem fault?_delete (key : Key) (op : StoreOp) (key? : Option Key) :
    (s.delete key).2.fault? op key? = s.fault? op key? := by
  rw [delete_snd]
  rfl

theorem deletes_delete (key l : Key) : (s.delete key).2.Deletes l ↔ s.Deletes l := by
  rw [Deletes, fault?_delete, Deletes]

def swept (keys : List Key) : Store α := keys.foldl (fun s key => (s.delete key).2) s

theorem swept_eq (keys : List Key) :
    s.swept keys = { s with
      objects := (s.swept keys).objects
      calls := s.calls ++ keys.map .delete } := by
  induction keys generalizing s with
  | nil => simp [swept]
  | cons key keys ih =>
    change (s.delete key).2.swept keys = { s with
      objects := ((s.delete key).2.swept keys).objects
      calls := s.calls ++ StoreCall.delete key :: keys.map .delete }
    rw [ih, delete_snd]
    simp [logged]

theorem get?_swept (keys : List Key) (key : Key) :
    (s.swept keys).objects.get? key =
      if key ∈ keys ∧ s.Deletes key then none else s.objects.get? key := by
  induction keys generalizing s with
  | nil => simp [swept]
  | cons k keys ih =>
    change ((s.delete k).2.swept keys).objects.get? key = _
    rw [ih, get?_delete]
    simp only [deletes_delete, List.mem_cons]
    by_cases hk : key = k
    · subst hk
      by_cases hd : s.Deletes key <;> simp [hd]
    · simp [hk]

section Thinned

variable {s s' s'' : Store α}

def removed (s s' : Store α) : Nat :=
  s.objects.keys.countP fun key => !s'.objects.contains key

/-- Objects are gone, and nothing else has happened to any. -/
def Thinned (s s' : Store α) : Prop := s'.objects.entries.Sublist s.objects.entries

omit [Resource α] in
theorem Thinned.refl (s : Store α) : Thinned s s := List.Sublist.refl _

omit [Resource α] in
theorem Thinned.of_objects_eq (h : s'.objects = s.objects) : Thinned s s' := by
  have hentries : s'.objects.entries = s.objects.entries := congrArg KeyMap.entries h
  unfold Thinned
  exact hentries ▸ List.Sublist.refl _

omit [Resource α] in
theorem Thinned.trans (h : Thinned s s') (h' : Thinned s' s'') : Thinned s s'' :=
  List.Sublist.trans h' h

omit [Resource α] in
theorem Thinned.removed_add_size (h : Thinned s s') :
    s.removed s' + s'.objects.size = s.objects.size := by
  have hkeys : s'.objects.keys.Sublist s.objects.keys := h.map _
  have hperm : (s.objects.keys.filter fun key => s'.objects.contains key).Perm s'.objects.keys := by
    apply (List.perm_ext_iff_of_nodup (s.objects.keys_nodup.filter _) s'.objects.keys_nodup).2
    intro key
    rw [List.mem_filter, KeyMap.contains_iff_mem_keys]
    exact ⟨fun hmem => hmem.2, fun hmem => ⟨hkeys.subset hmem, hmem⟩⟩
  have hsize (t : Store α) : t.objects.size = t.objects.keys.length :=
    (List.length_map _).symm
  have hsplit : s.objects.keys.length =
      s.objects.keys.countP (s'.objects.contains ·) + s.removed s' := by
    rw [List.length_eq_countP_add_countP (s'.objects.contains ·), removed]
    simp
  rw [hsize, hsize, hsplit, ← hperm.length_eq, List.countP_eq_length_filter, Nat.add_comm]

omit [Resource α] in
theorem removed_of_objects_eq (h : s'.objects = s.objects) : s.removed s' = 0 := by
  have hsize := (Thinned.of_objects_eq h).removed_add_size
  rw [h] at hsize
  omega

theorem delete_thinned (s : Store α) (key : Key) : Thinned s (s.delete key).2 ∧
    (match (s.delete key).1 with | .ok () => 1 | .error _ => 0) + (s.delete key).2.objects.size =
      s.objects.size := by
  by_cases h : s.Deletes key
  · cases hget : s.objects.get? key with
    | some a =>
      rw [delete_of_present h hget]
      refine ⟨List.filter_sublist, ?_⟩
      have hsize := s.objects.size_erase hget
      change 1 + (s.objects.erase key).size = _
      omega
    | none =>
      rw [delete_of_absent h hget]
      exact ⟨.refl s, Nat.zero_add _⟩
  · obtain ⟨fault, hfault⟩ := Option.ne_none_iff_exists'.1 h
    rw [delete_of_fault hfault]
    exact ⟨.refl s, Nat.zero_add _⟩

end Thinned

end Store

end MonitoringStack
