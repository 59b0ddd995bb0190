import MonitoringStack.Proofs.Interleaving.Consistency

namespace MonitoringStack

open Kube Ownership Store

/-- The claims that every instance ought to have; none where there is no instance. -/
abbrev Ledger := Key → Option StorageClaims

namespace Ledger

def empty : Ledger := fun _ => none

/-- An instance begins with the claims it was made with, and the platform's assignments change them.
An instance that a pass puts in the place of another takes over the other's. -/
def record (l : Ledger) : Event → Ledger
  | .placed i => fun key => if key = Key.of i then some i.spec.claims else l key
  | .assigned key given => fun k => if k = key then (l k).map given.over else l k
  | .removed key => fun k => if k = key then none else l k
  | .replaced _ | .changed _ => l

def ofHistory (history : List Event) : Ledger := history.foldl record empty

theorem ofHistory_append (history events : List Event) :
    ofHistory (history ++ events) = events.foldl record (ofHistory history) :=
  List.foldl_append

end Ledger

/-- Nobody but the platform has a say in the claims of a stored instance; for the rest writers are
lawful. -/
def Step.KeepsClaims : Step → Prop
  | .modify _ change =>
    ∀ i, Key.of (change i) = Key.of i ∧ (change i).spec.claims = i.spec.claims
  | step => step.Lawful

theorem Step.KeepsClaims.lawful {step : Step} (h : step.KeepsClaims) : step.Lawful := by
  cases step with
  | modify key change => exact fun i => (h i).1
  | start | advance | assign | insert | delete | inject => exact h

theorem claims_laidOver (desired existing : InstanceSpec) :
    (desired.laidOver existing).claims = existing.claims := by
  funext part
  cases part <;> rfl

theorem spec_insert (s : Store MonitoringInstance) (i : MonitoringInstance) :
    (s.insert i).1.spec = i.spec := by
  unfold Store.insert
  cases version? i with
  | none =>
    dsimp only
    cases (Resource.metadata (withVersion (toString s.nextVersion) i)).uid <;> rfl
  | some version =>
    dsimp only
    cases (Resource.metadata i).uid <;> rfl

namespace World

variable {w : World}

def claims? (w : World) (key : Key) : Option StorageClaims :=
  (w.store.objects.get? key).map (·.spec.claims)

theorem claims?_eq {w w' : World} (h : w'.store.objects = w.store.objects) (key : Key) :
    w'.claims? key = w.claims? key := by
  rw [claims?, claims?, h]

theorem claims?_of_wrote {w w' : World} {i : MonitoringInstance} (h : Wrote w.store w'.store i)
    (key : Key) :
    w'.claims? key = if key = Key.of i then some i.spec.claims else w.claims? key := by
  rw [claims?, h.get?_objects, claims?]
  by_cases hkey : key = Key.of i <;> simp [hkey]

/-- The update of a pass leaves the claims of every instance as they are: it goes through only over
the object that the pass has read, and takes that object's claims over. -/
theorem claims?_update {d : Desired} {i : MonitoringInstance} (hs : Stamped w.store)
    (hi : Snapshot w.store i) {w' : World} (hw' : w'.store = (w.store.update (d.settle i)).2)
    (key : Key) : w'.claims? key = w.claims? key := by
  rcases hi.update_cases hs (d.key_settle i) rfl with ⟨e, -, h⟩ | ⟨hget, -, h⟩
  · exact claims?_eq (by rw [hw', h.objects]) key
  · rw [← hw'] at h
    rw [claims?_of_wrote h]
    by_cases hkey : key = Key.of i
    · have hclaims : (w.store.stampNext i (d.settle i)).spec.claims = i.spec.claims :=
        claims_laidOver d.spec i.spec
      simp [claims?, hkey, hget, hclaims]
    · simp [hkey]

/-- What the store holds is what the ledger says. -/
def Balanced (w : World) : Prop :=
  ∀ key, w.claims? key = Ledger.ofHistory w.history key

theorem Balanced.of_eq {w w' : World} (hb : w.Balanced)
    (hclaims : ∀ key, w'.claims? key = w.claims? key)
    (hledger : Ledger.ofHistory w'.history = Ledger.ofHistory w.history) : w'.Balanced := by
  intro key
  rw [hclaims, hb, hledger]

theorem Balanced.placed {w w' : World} (hb : w.Balanced) {i stored : MonitoringInstance}
    (hstored : Key.of stored = Key.of i ∧ stored.spec = i.spec)
    (h : Wrote w.store w'.store stored)
    (hhistory : w'.history = w.history ++ [.placed i]) : w'.Balanced := by
  intro key
  rw [claims?_of_wrote h, hhistory, Ledger.ofHistory_append, hstored.1, hstored.2, hb]
  rfl

theorem Balanced.removed {w w' : World} (hb : w.Balanced) {key : Key}
    (h : w'.store.objects = w.store.objects.erase key)
    (hhistory : w'.history = w.history ++ [.removed key]) : w'.Balanced := by
  intro k
  rw [claims?, h, hhistory, Ledger.ofHistory_append]
  by_cases hk : k = key
  · simp [Ledger.record, hk]
  · simpa [Ledger.record, hk, KeyMap.get?_erase_of_ne, claims?] using hb k

theorem Balanced.delete {w w' : World} (hb : w.Balanced) {key : Key}
    (hstore : w'.store = (w.store.delete key).2)
    (hhistory : w'.history =
      w.history ++ StoreAction.events (.delete key) (w.store.delete key).1) : w'.Balanced := by
  rcases w.store.delete_cases key with ⟨e, hr, h⟩ | ⟨hr, h, -, -⟩
  · rw [hr] at hhistory
    refine hb.of_eq (claims?_eq (hstore ▸ h.objects)) ?_
    rw [hhistory, Ledger.ofHistory_append]
    rfl
  · rw [hr] at hhistory
    exact hb.removed (hstore ▸ h) hhistory

theorem Balanced.call (hb : w.Balanced) (hw : w.Consistent) {n : Nat} {job : Job}
    {action : StoreAction} {next : action.Reply → Program job.Result}
    (hn : w.passes[n]? = some ⟨job, .call action next⟩) : (w.call n job action next).Balanced := by
  have hhistory : (w.call n job action next).history =
      w.history ++ action.events (action.perform w.store).1 := rfl
  have hstore : (w.call n job action next).store = (action.perform w.store).2 := rfl
  have hcalling := (hw.passes _ (List.mem_of_getElem? hn)).calling
  cases hcalling with
  | @read build binding d hd =>
    refine hb.of_eq (claims?_eq ?_) (by rw [hhistory, Ledger.ofHistory_append]; rfl)
    rw [hstore, StoreAction.perform, get_snd, objects_logged]
  | list binding ns =>
    refine hb.of_eq (claims?_eq ?_) (by rw [hhistory, Ledger.ofHistory_append]; rfl)
    rw [hstore, StoreAction.perform, list_snd, objects_logged]
  | @create build binding d hd =>
    rcases w.store.create_cases d.newInstance with ⟨e, hr, h⟩ | ⟨-, hr, h⟩
    · refine hb.of_eq (claims?_eq h.objects) ?_
      rw [hhistory, StoreAction.perform, hr, Ledger.ofHistory_append]
      rfl
    · refine hb.placed ⟨w.store.key_stampNew _, rfl⟩ h ?_
      rw [hhistory, StoreAction.perform, hr]
      rfl
  | @update build binding d i hd hkey hi hopen =>
    refine hb.of_eq (claims?_update hw.stamped hi rfl) ?_
    rw [hhistory, Ledger.ofHistory_append]
    cases (StoreAction.perform (.update (d.settle i)) w.store).1 <;> rfl
  | delete binding ns deleted i rest => exact hb.delete rfl rfl

theorem Balanced.change (hb : w.Balanced) (hs : Stamped w.store) {key : Key}
    {f : MonitoringInstance → MonitoringInstance} {event : Event} {g : StorageClaims → StorageClaims}
    (hkey : ∀ i, Key.of (f i) = Key.of i) (hf : ∀ i, (f i).spec.claims = g i.spec.claims)
    (hevent : ∀ l : Ledger, l.record event = fun k => if k = key then (l k).map g else l k) :
    (w.change key f event).Balanced := by
  have hhistory : (w.change key f event).history =
      w.history ++ if (w.store.modify key f).1 then [event] else [] := rfl
  intro k
  rcases w.store.modify_cases key f with ⟨hnone, hr, h⟩ | ⟨i, hget, hr, h⟩
  · rw [claims?_eq h.objects, hb, hhistory, hr]
    simp
  · obtain ⟨rfl, -⟩ := hs key i hget
    have hi : w.claims? (Key.of i) = some i.spec.claims := by rw [claims?, hget]; rfl
    rw [claims?_of_wrote (h (hkey i)), key_withVersion, hkey, hhistory, hr, if_pos rfl,
      Ledger.ofHistory_append, List.foldl_cons, List.foldl_nil, hevent]
    by_cases hk : k = Key.of i
    · subst hk
      have hspec : (withVersion (toString w.store.nextVersion) (f i)).spec.claims =
          g i.spec.claims := hf i
      have hledger : Ledger.ofHistory w.history (Key.of i) = some i.spec.claims := by
        rw [← hb, hi]
      rw [if_pos rfl, hspec]
      simp only [hledger, if_pos, Option.map_some]
    · simp [hk, hb k]

theorem step_balanced (hw : w.Consistent) (hb : w.Balanced) {step : Step} (h : step.KeepsClaims) :
    (w.step step).Balanced := by
  cases step with
  | start job => exact hb
  | advance n =>
    rw [World.step]
    split
    · exact hb.call hw ‹_›
    · exact hb
  | assign key given =>
    apply hb.change hw.stamped
    · intro i
      rfl
    · intro i
      exact i.spec.claims_withClaims _
    · intro l
      rfl
  | modify key f =>
    apply hb.change (g := id) hw.stamped (fun i => (h i).1) (fun i => (h i).2)
    intro l
    funext k
    simp [Ledger.record]
  | insert i =>
    obtain ⟨-, hwrote⟩ := w.store.insert_wrote (a := i) h
    exact hb.placed ⟨w.store.key_insert i, spec_insert _ _⟩ hwrote rfl
  | delete key => exact hb.delete rfl rfl
  | inject faults => exact hb

/-- In every interleaving of passes, assignments and deletions the live instances have the claims
that were assigned to them last, or else those they were made with; and the update of a pass changes
no instance's claims. -/
theorem claims_eq_ledger {steps : List Step} (h : ∀ step ∈ steps, step.KeepsClaims) :
    (∀ key, (World.run {} steps).claims? key = Ledger.ofHistory (World.run {} steps).history key) ∧
      ∀ n p i, (World.run {} steps).passes[n]? = some p → p.action? = some (.update i) →
        ∀ key, ((World.run {} steps).step (.advance n)).claims? key =
          (World.run {} steps).claims? key := by
  have hinv : (World.run {} steps).Consistent ∧ (World.run {} steps).Balanced := by
    refine run_induction (fun w => w.Consistent ∧ w.Balanced) Step.KeepsClaims ?_ ?_ h
    · exact ⟨consistent_nil, fun key => rfl⟩
    · rintro w step ⟨hw, hb⟩ hstep
      exact ⟨step_consistent hw hstep.lawful, step_balanced hw hb hstep⟩
  obtain ⟨hw, hb⟩ := hinv
  refine ⟨hb, ?_⟩
  rintro n ⟨job, rest⟩ i hn haction key
  cases rest with
  | done result => cases haction
  | call action next =>
    obtain rfl : action = .update i := by simpa [Pass.action?] using haction
    have hcalling := (hw.passes _ (List.mem_of_getElem? hn)).calling
    rw [World.step, hn]
    cases hcalling with
    | update hd hkey hi hopen => exact claims?_update hw.stamped hi rfl key

/-- The platform assigns claims between the read and the write of a pass that makes up claims of its
own; the next pass goes through. -/
def assignedBetween : List Step :=
  let orders : Metadata := { name := some "orders", ns? := some systemNamespace }
  let pass : Job := .reconcile
    (fun _ => .ok { grafana.storage := { size := "1Gi", claims := ["made-up"] } })
    { metadata := { name := some "orders", ns? := some "shop" }, spec := {} }
  [.insert { metadata := orders, spec := {} }, .start pass, .advance 0,
    .assign ⟨systemNamespace, "orders"⟩ (fun _ => some ["pvc-0"]), .advance 0, .start pass,
    .advance 1, .advance 1]

theorem claims_assignedBetween :
    (∀ step ∈ assignedBetween, step.KeepsClaims) ∧
      (World.run {} assignedBetween).history.length = 3 ∧
      ((World.run {} assignedBetween).claims? ⟨systemNamespace, "orders"⟩).map (· .grafana) =
        some ["pvc-0"] := by
  have h : ∀ step ∈ assignedBetween, step.KeepsClaims := by
    simp [assignedBetween, Step.KeepsClaims, Step.Lawful]
  refine ⟨h, by decide +kernel, ?_⟩
  rw [(claims_eq_ledger h).1]
  decide +kernel

end World

end MonitoringStack
