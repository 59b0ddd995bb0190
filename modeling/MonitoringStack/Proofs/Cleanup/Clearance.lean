import MonitoringStack.Proofs.Cleanup.Batch

namespace MonitoringStack

open Kube Ownership

/-- A deletion tells of an absent object only when there is none. -/
def Store.Honest {α : Type} (s : Store α) : Prop :=
  ∀ key, s.fault? .delete (some key) ≠ some .notFound

theorem Store.honest_of_faults {α : Type} {s : Store α} (h : ∀ f ∈ s.faults, f.2 ≠ .notFound) :
    s.Honest := by
  intro key hfault
  have hlookup {target : FaultTarget} (hl : s.faults.lookup target = some .notFound) : False := by
    obtain ⟨before, after, heq, -⟩ := List.lookup_eq_some_iff.1 hl
    exact h (target, .notFound) (by simp [heq]) rfl
  rw [Store.fault?, Option.bind_some, Option.orElse_eq_orElse, Option.orElse_eq_or] at hfault
  rcases Option.or_eq_some_iff.1 hfault with hl | ⟨-, hl⟩
  · exact hlookup hl
  · exact hlookup hl

theorem Store.mem_matching {α : Type} [Resource α] {s : Store α} {selector : Selector} {a : α} :
    a ∈ s.matching none selector ↔ ∃ key, s.objects.get? key = some a ∧
      selector.matches (Resource.metadata a).labels = true := by
  rw [Store.matching, List.mem_map]
  constructor
  · rintro ⟨⟨key, b⟩, hmem, rfl⟩
    obtain ⟨hentry, hmatches⟩ := List.mem_filter.1 hmem
    exact ⟨key, s.objects.get?_eq_some_iff.2 hentry, by simpa using hmatches⟩
  · rintro ⟨key, hget, hmatches⟩
    refine ⟨(key, a), List.mem_filter.2 ⟨s.objects.get?_eq_some_iff.1 hget, ?_⟩, rfl⟩
    simpa using hmatches

namespace Cleanup

open MonitoringInstance

variable {s : Store MonitoringInstance}

/-- What a batch over some keys comes to, whether or not there is something at each, and the keys
whose deletion it asks for. -/
inductive Sweeps (s : Store MonitoringInstance) :
    List Key → Except OperatorError Nat → List Key → Prop
  | completed {keys : List Key} {deleted : Nat} (passes : ∀ key ∈ keys, Passes s key) :
      Sweeps s keys (.ok deleted) keys
  | stopped {before after : List Key} {key : Key} {e : OperatorError}
      (fails : ¬ Passes s key) : Sweeps s (before ++ key :: after) (.error e) (before ++ [key])

namespace Sweeps

variable {key : Key} {keys asked : List Key} {result : Except OperatorError Nat} {deleted : Nat}

theorem cons (hpass : Passes s key) (h : Sweeps (s.delete key).2 keys result asked) :
    Sweeps s (key :: keys) result (key :: asked) := by
  cases h with
  | completed passes =>
    exact .completed (List.forall_mem_cons.2 ⟨hpass, fun l hl => passes_delete.1 (passes l hl)⟩)
  | @stopped before after l e fails =>
    rw [passes_delete] at fails
    exact @Sweeps.stopped s (key :: before) after l e fails

theorem subset (h : Sweeps s keys result asked) : asked ⊆ keys := by
  cases h with
  | completed passes => exact List.Subset.refl _
  | stopped fails => simp

theorem ok (h : Sweeps s keys result asked) (hpass : ∀ key, Passes s key) :
    ∃ deleted, result = .ok deleted := by
  cases h with
  | completed passes => exact ⟨_, rfl⟩
  | stopped fails => exact absurd (hpass _) fails

theorem completes (h : Sweeps s keys (.ok deleted) asked) :
    asked = keys ∧ ∀ key ∈ keys, Passes s key := by
  cases h with
  | completed passes => exact ⟨rfl, passes⟩

end Sweeps

section Each

variable (binding : String) (deleted : Nat)

/-- A deletion is asked for, and then the batch goes on or is over. -/
theorem deleteEach_step (i : MonitoringInstance) (rest : List MonitoringInstance)
    (s : Store MonitoringInstance) :
    (Passes s i.address ∧ ∃ deleted', deleteEach Store.access binding deleted (i :: rest) s =
        deleteEach Store.access binding deleted' rest (s.delete i.address).2) ∨
      (¬ Passes s i.address ∧ ∃ e, deleteEach Store.access binding deleted (i :: rest) s =
        (.error e, (s.delete i.address).2)) := by
  by_cases hdeletes : s.Deletes i.address
  · refine .inl ⟨.inl hdeletes, ?_⟩
    cases hget : s.objects.get? i.address with
    | some j => exact ⟨_, deleteEach_of_deletes hdeletes hget⟩
    | none => exact ⟨_, deleteEach_of_absent hdeletes hget⟩
  · obtain ⟨fault, hfault⟩ := Option.ne_none_iff_exists'.1 hdeletes
    by_cases hmissing : fault = .notFound
    · rw [hmissing] at hfault
      exact .inl ⟨.inr hfault, _, deleteEach_of_notFound hfault⟩
    · refine .inr ⟨?_, _, deleteEach_of_fault hfault hmissing⟩
      rintro (h | h)
      · exact hdeletes h
      · exact hmissing (Option.some.inj (hfault.symm.trans h))

theorem deleteEach_sweeps (instances : List MonitoringInstance) (s : Store MonitoringInstance) :
    ∃ asked, Sweeps s (instances.map address)
        (deleteEach Store.access binding deleted instances s).1 asked ∧
      (deleteEach Store.access binding deleted instances s).2 = s.swept asked := by
  induction instances generalizing s deleted with
  | nil => exact ⟨[], .completed (by simp), rfl⟩
  | cons i rest ih =>
    rcases deleteEach_step binding deleted i rest s with ⟨hpass, deleted', heq⟩ | ⟨hfails, e, heq⟩
    · obtain ⟨asked, hsweeps, hswept⟩ := ih deleted' (s.delete i.address).2
      rw [heq]
      exact ⟨i.address :: asked, hsweeps.cons hpass, hswept⟩
    · rw [heq]
      exact ⟨[i.address], @Sweeps.stopped s [] _ _ e hfails, rfl⟩

end Each

/-- A batch makes no instances, and leaves those alone whose place the names of no picked instance
lead to. If it goes through and the store is honest, nothing is left in the places that they do lead
to. -/
structure Clears (s : Store MonitoringInstance) (Picked : MonitoringInstance → Prop)
    (outcome : Except OperatorError Nat × Store MonitoringInstance) : Prop where
  subset : ∀ key i, outcome.2.objects.get? key = some i → s.objects.get? key = some i
  spares : ∀ key i, s.objects.get? key = some i →
    (∀ l j, s.objects.get? l = some j → Picked j → j.address ≠ key) →
      outcome.2.objects.get? key = some i
  clears : ∀ deleted, outcome.1 = .ok deleted → s.Honest →
    ∀ l j, s.objects.get? l = some j → Picked j → outcome.2.objects.get? j.address = none
  calls : ∃ calls, outcome.2.calls = s.calls ++ calls ∧
    ∀ call ∈ calls, call.op = .list ∨ call.op = .delete

variable {binding : String} {selector : Selector} {Picked : MonitoringInstance → Prop}

theorem deleteSelected_sweeps (h : s.fault? .list none = none) (binding : String)
    (selector : Selector) : ∃ asked,
      Sweeps (s.logged (.list none selector.query)) ((s.matching none selector).map address)
        (deleteSelected Store.access binding selector s).1 asked ∧
      (deleteSelected Store.access binding selector s).2 =
        (s.logged (.list none selector.query)).swept asked := by
  rw [deleteSelected, bind_apply, Store.access_list, s.list_of_faultless selector h]
  exact deleteEach_sweeps binding 0 _ _

theorem deleteSelected_clears (hpicked : ∀ i, selector.matches i.metadata.labels = true ↔ Picked i) :
    Clears s Picked (deleteSelected Store.access binding selector s) := by
  cases hfault : s.fault? .list none with
  | some fault =>
    rw [deleteSelected_of_fault hfault binding selector]
    exact {
      subset := fun _ _ hget => hget
      spares := fun _ _ hget _ => hget
      clears := nofun
      calls := ⟨_, rfl, by simp [StoreCall.op]⟩ }
  | none =>
    obtain ⟨asked, hsweeps, hswept⟩ := deleteSelected_sweeps hfault binding selector
    have hget? (key : Key) : (deleteSelected Store.access binding selector s).2.objects.get? key =
        if key ∈ asked ∧ s.Deletes key then none else s.objects.get? key := by
      rw [hswept]
      exact Store.get?_swept _ asked key
    refine ⟨?_, ?_, ?_, .list none selector.query :: asked.map .delete, ?_, by simp [StoreCall.op]⟩
    · intro key i hget
      rw [hget?] at hget
      split at hget
      · cases hget
      · exact hget
    · intro key i hget hspared
      have hkey : key ∉ asked := by
        intro hmem
        obtain ⟨j, hj, haddress⟩ := List.mem_map.1 (hsweeps.subset hmem)
        obtain ⟨l, hl, hmatches⟩ := Store.mem_matching.1 hj
        exact hspared l j hl ((hpicked j).1 hmatches) haddress
      rw [hget?, if_neg fun h => hkey h.1, hget]
    · intro deleted hok hhonest l j hl hj
      rw [hok] at hsweeps
      obtain ⟨rfl, hpasses⟩ := hsweeps.completes
      have hmem : j.address ∈ (s.matching none selector).map address :=
        List.mem_map_of_mem (Store.mem_matching.2 ⟨l, hl, (hpicked j).2 hj⟩)
      have hdeletes : s.Deletes j.address := (hpasses _ hmem).resolve_right (hhonest _)
      rw [hget?, if_pos ⟨hmem, hdeletes⟩]
    · rw [hswept, Store.swept_eq]
      simp [Store.logged]

theorem deleteOwned_clears (binding ns : String) :
    Clears s (fun i => owner? i = some ⟨ns, binding⟩)
      (deleteOwned Store.access binding ns s) :=
  deleteSelected_clears (matches_selectOwned binding ns)

/-- Over a store that nothing is wrong with a batch goes through, and the faults stay none. -/
theorem deleteSelected_completes (hf : s.faults = []) (binding : String) (selector : Selector) :
    ∃ deleted, (deleteSelected Store.access binding selector s).1 = .ok deleted ∧
      (deleteSelected Store.access binding selector s).2.faults = [] := by
  have hfaultless (op : StoreOp) (key? : Option Key) : s.fault? op key? = none :=
    Store.fault?_of_faults_eq_nil hf op key?
  obtain ⟨asked, hsweeps, hswept⟩ := deleteSelected_sweeps (hfaultless _ _) binding selector
  have hfaults : (deleteSelected Store.access binding selector s).2.faults = [] := by
    rw [hswept, Store.swept_eq]
    exact hf
  obtain ⟨deleted, hok⟩ := hsweeps.ok fun key => .inl (hfaultless .delete (some key))
  exact ⟨deleted, hok, hfaults⟩

end Cleanup

end MonitoringStack
