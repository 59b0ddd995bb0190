import MonitoringStack.Operator.Reconcile
import MonitoringStack.Proofs.Reconcile.Labels
import MonitoringStack.Proofs.Store.Deletion

namespace MonitoringStack

open Kube Ownership

namespace Store

variable {α : Type} [Resource α] (s : Store α) (selector : Selector)

def picks : List Key :=
  (s.objects.entries.filter fun e => selector.matches (Resource.metadata e.2).labels).map (·.1)

theorem picks_pairwise : (s.picks selector).Pairwise (· < ·) :=
  List.pairwise_map.2 (List.Pairwise.filter _ s.objects.sorted)

theorem picks_nodup : (s.picks selector).Nodup :=
  Entries.nodup_keys (List.Pairwise.filter _ s.objects.sorted)

theorem mem_picks {key : Key} :
    key ∈ s.picks selector ↔ ∃ a, s.objects.get? key = some a ∧
      selector.matches (Resource.metadata a).labels = true := by
  rw [picks, List.mem_map]
  constructor
  · rintro ⟨⟨l, a⟩, hmem, rfl⟩
    obtain ⟨hentry, hmatches⟩ := List.mem_filter.1 hmem
    exact ⟨a, s.objects.get?_eq_some_iff.2 hentry, hmatches⟩
  · rintro ⟨a, hget, hmatches⟩
    exact ⟨(key, a), List.mem_filter.2 ⟨s.objects.get?_eq_some_iff.1 hget, hmatches⟩, rfl⟩

theorem list_of_fault {ns? : Option String} {fault : Fault}
    (h : s.fault? .list none = some fault) : s.list ns? selector =
      (.error (fault.error (Resource.kind α ++ " list")), s.logged (.list ns? selector.query)) := by
  simp [list, h]

theorem list_of_faultless {ns? : Option String} (h : s.fault? .list none = none) :
    s.list ns? selector = (.ok (s.matching ns? selector), s.logged (.list ns? selector.query)) := by
  simp [list, h, matching]

end Store

namespace MonitoringInstance

def address (i : MonitoringInstance) : Key := ⟨i.metadata.namespaceOrEmpty, i.metadata.nameOrStem⟩

theorem address_of_name {i : MonitoringInstance} {name : String}
    (h : i.metadata.name = some name) : i.address = Key.of i := by
  change Key.mk _ (i.metadata.name.getD _) = Key.mk _ (i.metadata.name.getD _)
  rw [h]
  rfl

theorem address_of_identity {i : MonitoringInstance} {key : Key}
    (h : Store.identity i = .ok key) : i.address = key :=
  (address_of_name (Store.name_of_identity h)).trans (Store.key_of_identity h).symm

end MonitoringInstance

/-- Every instance stands where its own names point to. -/
def Store.Addressed (s : Store MonitoringInstance) : Prop :=
  ∀ key i, s.objects.get? key = some i → i.address = key

theorem Store.Placed.addressed {s : Store MonitoringInstance} (h : s.Placed) : s.Addressed :=
  fun key i hget => MonitoringInstance.address_of_identity (h key i hget)

namespace MonitoringInstance

theorem map_address_matching {s : Store MonitoringInstance} (hs : s.Addressed)
    (selector : Selector) :
    (s.matching none selector).map address = s.picks selector := by
  rw [Store.matching, Store.picks, List.map_map]
  simp only [Option.all_none, Bool.true_and]
  apply List.map_congr_left
  rintro ⟨key, i⟩ hmem
  have hget : s.objects.get? key = some i :=
    s.objects.get?_eq_some_iff.2 (List.mem_filter.1 hmem).1
  exact hs key i hget

end MonitoringInstance

namespace Cleanup

open MonitoringInstance

section Selection

variable (binding ns : String) (i : MonitoringInstance)

theorem matches_selectBinding :
    (selectBinding binding).matches i.metadata.labels = true ↔
      i.metadata.label? bindingLabel = some binding := by
  change ([(bindingLabel, binding)].all (Selector.holds i.metadata.labels)) = true ↔ _
  simp [Selector.holds, Metadata.label?]

theorem matches_selectOwned :
    (selectOwned binding ns).matches i.metadata.labels = true ↔ owner? i = some ⟨ns, binding⟩ := by
  have hentries : (selectOwned binding ns).requirements.entries =
      [(bindingLabel, binding), (bindingNamespaceLabel, ns)] := by
    have hlt : ¬ bindingNamespaceLabel < bindingLabel := by decide
    have hgt : bindingLabel < bindingNamespaceLabel := by decide
    change Entries.insert bindingNamespaceLabel ns [(bindingLabel, binding)] = _
    simp [Entries.insert, hlt, hgt]
  rw [Selector.matches, hentries]
  simp only [List.all_cons, List.all_nil, Bool.and_true, Bool.and_eq_true, Selector.holds,
    decide_eq_true_eq]
  change i.metadata.label? bindingLabel = some binding ∧ ownerNs? i = some ns ↔ _
  rw [owner?]
  cases i.metadata.label? bindingLabel <;> cases ownerNs? i <;> simp [and_comm]

end Selection

def Passes (s : Store MonitoringInstance) (key : Key) : Prop :=
  s.Deletes key ∨ s.fault? .delete (some key) = some .notFound

instance (s : Store MonitoringInstance) (key : Key) : Decidable (Passes s key) :=
  inferInstanceAs (Decidable (_ ∨ _))

def removals (s : Store MonitoringInstance) (keys : List Key) : Nat := keys.countP (s.Deletes ·)

def stopped (binding : String) (deleted remaining : Nat) (e : StoreError) : OperatorError :=
  if deleted = 0 then .ofStoreError e else .partialFailure binding deleted remaining e

theorem deleteEach_cons {m : Type → Type} [Monad m] (store : ResourceStore m MonitoringInstance)
    (binding : String) (deleted : Nat) (i : MonitoringInstance) (rest : List MonitoringInstance) :
    deleteEach store binding deleted (i :: rest) = store.delete i.address >>= fun
      | .ok () => deleteEach store binding (deleted + 1) rest
      | .error e =>
        if e.isNotFound then deleteEach store binding deleted rest
        else pure (.error (stopped binding deleted (rest.length + 1) e)) := by
  rw [deleteEach]
  apply bind_congr
  intro reply
  cases reply with
  | ok => rfl
  | error e =>
    dsimp only
    rw [stopped]
    split
    · rfl
    · split <;> rfl

section Each

variable {s : Store MonitoringInstance} {binding : String} {deleted : Nat}
  {i : MonitoringInstance} {rest : List MonitoringInstance}

theorem deleteEach_of_deletes {j : MonitoringInstance} (h : s.Deletes i.address)
    (hget : s.objects.get? i.address = some j) :
    deleteEach Store.access binding deleted (i :: rest) s =
      deleteEach Store.access binding (deleted + 1) rest (s.delete i.address).2 := by
  rw [deleteEach_cons, bind_apply, Store.access_delete, Store.delete_of_present h hget]

theorem deleteEach_of_absent (h : s.Deletes i.address)
    (hget : s.objects.get? i.address = none) :
    deleteEach Store.access binding deleted (i :: rest) s =
      deleteEach Store.access binding deleted rest (s.delete i.address).2 := by
  rw [deleteEach_cons, bind_apply, Store.access_delete, Store.delete_of_absent h hget]
  rfl

theorem deleteEach_of_notFound (h : s.fault? .delete (some i.address) = some .notFound) :
    deleteEach Store.access binding deleted (i :: rest) s =
      deleteEach Store.access binding deleted rest (s.delete i.address).2 := by
  rw [deleteEach_cons, bind_apply, Store.access_delete, Store.delete_of_fault h]
  rfl

theorem deleteEach_of_fault {fault : Fault} (h : s.fault? .delete (some i.address) = some fault)
    (hne : fault ≠ .notFound) :
    deleteEach Store.access binding deleted (i :: rest) s =
      (.error (stopped binding deleted (rest.length + 1)
        (fault.error (Store.describe MonitoringInstance i.address))),
        (s.delete i.address).2) := by
  rw [deleteEach_cons, bind_apply, Store.access_delete, Store.delete_of_fault h]
  cases fault with
  | notFound => exact absurd rfl hne
  | conflict | unavailable => rfl

end Each

theorem removals_delete (s : Store MonitoringInstance) (key : Key) (keys : List Key) :
    removals (s.delete key).2 keys = removals s keys := by
  rw [removals, removals]
  apply List.countP_congr
  intro l _
  simp [Store.deletes_delete]

theorem passes_delete {s : Store MonitoringInstance} {key l : Key} :
    Passes (s.delete key).2 l ↔ Passes s l := by
  rw [Passes, Passes, Store.deletes_delete, Store.fault?_delete]

theorem deleteEach_append (binding : String) (deleted : Nat) {before : List MonitoringInstance}
    (after : List MonitoringInstance) {s : Store MonitoringInstance}
    (hpass : ∀ i ∈ before, Passes s i.address)
    (hthere : ∀ i ∈ before, ∃ j, s.objects.get? i.address = some j)
    (hnodup : (before.map address).Nodup) :
    deleteEach Store.access binding deleted (before ++ after) s =
      deleteEach Store.access binding (deleted + removals s (before.map address)) after
        (s.swept (before.map address)) := by
  induction before generalizing s deleted with
  | nil => rfl
  | cons i before ih =>
    obtain ⟨hi, hpass⟩ := List.forall_mem_cons.1 hpass
    obtain ⟨⟨j, hj⟩, hthere⟩ := List.forall_mem_cons.1 hthere
    obtain ⟨hne, hnodup⟩ := List.nodup_cons.1 hnodup
    have hpass' : ∀ k ∈ before, Passes (s.delete i.address).2 k.address := fun k hk =>
      passes_delete.2 (hpass k hk)
    -- no key comes twice, so the deletion leaves the instances that are still to come
    have hthere' : ∀ k ∈ before, ∃ l, (s.delete i.address).2.objects.get? k.address = some l := by
      intro k hk
      have hother : k.address ≠ i.address := by
        intro heq
        exact hne (heq ▸ List.mem_map_of_mem hk)
      obtain ⟨l, hl⟩ := hthere k hk
      exact ⟨l, by rw [Store.get?_delete, if_neg (by simp [hother]), hl]⟩
    rw [List.cons_append, List.map_cons]
    by_cases hdeletes : s.Deletes i.address
    · have hcount : removals s (i.address :: before.map address) =
          removals s (before.map address) + 1 := List.countP_cons_of_pos (by simpa using hdeletes)
      rw [deleteEach_of_deletes hdeletes hj, ih _ hpass' hthere' hnodup, removals_delete, hcount,
        Nat.add_assoc, Nat.add_comm 1]
      rfl
    · have hcount : removals s (i.address :: before.map address) =
          removals s (before.map address) := List.countP_cons_of_neg (by simpa using hdeletes)
      rw [deleteEach_of_notFound (hi.resolve_left hdeletes), ih _ hpass' hthere' hnodup,
        removals_delete, hcount]
      rfl

/-- What a batch over some keys comes to, and the keys whose deletion it asks for. -/
inductive Ends (s : Store MonitoringInstance) (binding : String) :
    List Key → Except OperatorError Nat → List Key → Prop
  | completed {keys : List Key} (passes : ∀ key ∈ keys, Passes s key) :
      Ends s binding keys (.ok (removals s keys)) keys
  | stopped {before after : List Key} {key : Key} {fault : Fault}
      (passes : ∀ l ∈ before, Passes s l) (fails : s.fault? .delete (some key) = some fault)
      (counts : fault ≠ .notFound) :
      Ends s binding (before ++ key :: after)
        (.error (stopped binding (removals s before) (after.length + 1)
          (fault.error (Store.describe MonitoringInstance key))))
        (before ++ [key])

theorem deleteEach_ends {s : Store MonitoringInstance} (binding : String)
    {instances : List MonitoringInstance}
    (hthere : ∀ i ∈ instances, ∃ j, s.objects.get? i.address = some j)
    (hnodup : (instances.map address).Nodup) :
    ∃ asked, Ends s binding (instances.map address)
        (deleteEach Store.access binding 0 instances s).1 asked ∧
      (deleteEach Store.access binding 0 instances s).2 = s.swept asked := by
  cases hfirst : instances.find? fun i => ¬ Passes s i.address with
  | none =>
    have hpass : ∀ i ∈ instances, Passes s i.address := by
      simpa using List.find?_eq_none.1 hfirst
    have hall := deleteEach_append binding 0 [] hpass hthere hnodup
    rw [List.append_nil, Nat.zero_add] at hall
    rw [hall]
    exact ⟨_, .completed (List.forall_mem_map.2 hpass), rfl⟩
  | some i =>
    obtain ⟨hi, before, after, rfl, hbefore⟩ := List.find?_eq_some_iff_append.1 hfirst
    have hpass : ∀ k ∈ before, Passes s k.address := by simpa using hbefore
    have hstops : ¬ Passes s i.address := by simpa using hi
    obtain ⟨fault, hfault⟩ := Option.ne_none_iff_exists'.1 (not_or.1 hstops).1
    have hcounts : fault ≠ .notFound := by
      rintro rfl
      exact hstops (.inr hfault)
    have hthere' : ∀ k ∈ before, ∃ j, s.objects.get? k.address = some j := fun k hk =>
      hthere k (List.mem_append_left _ hk)
    have hnodup' : (before.map address).Nodup := by
      rw [List.map_append] at hnodup
      exact (List.nodup_append.1 hnodup).1
    have hfault' : (s.swept (before.map address)).fault? .delete (some i.address) = some fault := by
      rw [Store.swept_eq]
      exact hfault
    rw [deleteEach_append binding 0 _ hpass hthere' hnodup', deleteEach_of_fault hfault' hcounts,
      Nat.zero_add, List.map_append, List.map_cons, ← after.length_map address]
    refine ⟨_, .stopped (List.forall_mem_map.2 hpass) hfault hcounts, ?_⟩
    rw [Store.swept, Store.swept, List.foldl_append]
    rfl

/-- A store after the deletion of some listed objects was asked for. What is gone is what was asked
for and could be deleted. -/
structure Swept (s s' : Store MonitoringInstance) (query : String) (asked : List Key) : Prop where
  get? : ∀ key, s'.objects.get? key =
    if key ∈ asked ∧ s.Deletes key then none else s.objects.get? key
  rest : s' = { s with
    objects := s'.objects
    calls := s.calls ++ .list none query :: asked.map .delete }

/-- A batch over the instances that are picked, by namespace and name, which ends at the first
failure that counts. -/
structure FailsFast (s : Store MonitoringInstance) (binding : String) (selector : Selector)
    (Picked : MonitoringInstance → Prop)
    (outcome : Except OperatorError Nat × Store MonitoringInstance) : Prop where
  unlisted : ∀ fault, s.fault? .list none = some fault → outcome =
    (.error (.ofStoreError (fault.error "MonitoringInstance list")),
      s.logged (.list none selector.query))
  listed : s.fault? .list none = none → ∃ keys asked, keys.Pairwise (· < ·) ∧
    (∀ key, key ∈ keys ↔ ∃ i, s.objects.get? key = some i ∧ Picked i) ∧
    Ends s binding keys outcome.1 asked ∧ Swept s outcome.2 selector.query asked

theorem ends_logged {s : Store MonitoringInstance} {call : StoreCall} {binding : String}
    {keys asked : List Key} {result : Except OperatorError Nat}
    (h : Ends (s.logged call) binding keys result asked) : Ends s binding keys result asked := by
  cases h with
  | completed passes => exact .completed passes
  | stopped passes fails counts => exact .stopped passes fails counts

theorem swept_logged (s : Store MonitoringInstance) (query : String) (asked : List Key) :
    Swept s ((s.logged (.list none query)).swept asked) query asked where
  get? := Store.get?_swept _ asked
  rest := by
    rw [Store.swept_eq]
    simp [Store.logged]

theorem deleteSelected_of_fault {s : Store MonitoringInstance} {fault : Fault}
    (h : s.fault? .list none = some fault) (binding : String) (selector : Selector) :
    deleteSelected Store.access binding selector s =
      (.error (.ofStoreError (fault.error "MonitoringInstance list")),
        s.logged (.list none selector.query)) := by
  rw [deleteSelected, bind_apply, Store.access_list, s.list_of_fault selector h]
  rfl

theorem deleteSelected_failsFast {s : Store MonitoringInstance} (hs : s.Addressed)
    (binding : String) {selector : Selector} {Picked : MonitoringInstance → Prop}
    (hpicked : ∀ i, selector.matches i.metadata.labels = true ↔ Picked i) :
    FailsFast s binding selector Picked (deleteSelected Store.access binding selector s) where
  unlisted := fun _ hfault => deleteSelected_of_fault hfault binding selector
  listed := by
    intro hfaultless
    have hkeys := map_address_matching hs selector
    have hthere : ∀ i ∈ s.matching none selector,
        ∃ j, (s.logged (.list none selector.query)).objects.get? i.address = some j := by
      intro i hi
      have hmem : i.address ∈ s.picks selector := hkeys ▸ List.mem_map_of_mem hi
      obtain ⟨j, hj, -⟩ := (s.mem_picks selector).1 hmem
      exact ⟨j, hj⟩
    obtain ⟨asked, hends, hswept⟩ :=
      deleteEach_ends binding hthere (hkeys ▸ s.picks_nodup selector)
    rw [hkeys] at hends
    rw [deleteSelected, bind_apply, Store.access_list, s.list_of_faultless selector hfaultless]
    dsimp only
    rw [hswept]
    refine ⟨s.picks selector, asked, s.picks_pairwise selector, ?_, ends_logged hends,
      swept_logged s selector.query asked⟩
    intro key
    rw [Store.mem_picks]
    apply exists_congr
    intro i
    exact and_congr_right fun _ => hpicked i

/-- Garbage collection ends at the first failure that counts, whether it goes by the binding's name
alone or by its namespace too. -/
theorem failsFast {s : Store MonitoringInstance} (hs : s.Placed) (binding : String) :
    FailsFast s binding (selectBinding binding)
        (fun i => i.metadata.label? bindingLabel = some binding)
        (deleteAll Store.access binding s) ∧
      ∀ ns, FailsFast s binding (selectOwned binding ns) (fun i => owner? i = some ⟨ns, binding⟩)
        (deleteOwned Store.access binding ns s) := by
  constructor
  · exact deleteSelected_failsFast hs.addressed binding (matches_selectBinding binding)
  · intro ns
    exact deleteSelected_failsFast hs.addressed binding (matches_selectOwned binding ns)

def ordersIn (place owner : String) : MonitoringInstance where
  metadata := {
    name := some "orders"
    ns? := some place
    labels := some (Ownership.labels "orders" owner) }
  spec := {}

/-- Four instances of one owner, of which the second is found gone and the third cannot be deleted,
and one of another. -/
def ordersInFive : Store MonitoringInstance where
  objects := KeyMap.ofList <|
    [("a", "shop"), ("b", "shop"), ("c", "shop"), ("d", "bazaar"), ("e", "shop")].map fun p =>
      (⟨p.1, "orders"⟩, ordersIn p.1 p.2)
  faults := [(⟨.delete, some ⟨"b", "orders"⟩⟩, .notFound),
    (⟨.delete, some ⟨"c", "orders"⟩⟩, .unavailable "etcd timeout")]

theorem failsFast_ordersInFive : ordersInFive.Placed ∧
    (deleteOwned Store.access "orders" "shop" ordersInFive).1 =
      .error (.partialFailure "orders" 1 2 (.unavailable "etcd timeout")) ∧
    FailsFast ordersInFive "orders" (selectOwned "orders" "shop")
      (fun i => owner? i = some ⟨"shop", "orders"⟩)
      (deleteOwned Store.access "orders" "shop" ordersInFive) := by
  have hplaced : ordersInFive.Placed := by
    intro key i hget
    have hmem : (key, i) ∈
        [("a", "shop"), ("b", "shop"), ("c", "shop"), ("d", "bazaar"), ("e", "shop")].map
          fun p => ((⟨p.1, "orders"⟩ : Key), ordersIn p.1 p.2) :=
      ordersInFive.objects.get?_eq_some_iff.1 hget
    obtain ⟨⟨place, owner⟩, hp, heq⟩ := List.mem_map.1 hmem
    cases heq
    have hplace : place ≠ "" := by
      rintro rfl
      simp at hp
    exact Store.identity_eq hplace (by decide : "orders" ≠ "")
  exact ⟨hplaced, rfl, (failsFast hplaced "orders").2 "shop"⟩

end Cleanup

end MonitoringStack
