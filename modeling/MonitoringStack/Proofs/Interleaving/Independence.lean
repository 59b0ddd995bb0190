import MonitoringStack.Proofs.Interleaving.Consistency
import MonitoringStack.Proofs.Reconcile.Pass

namespace MonitoringStack

open Kube Ownership Store

/-- Two instances that have only their versions of their own, and their identities if they were made
anew. -/
structure Alike (anew : Prop) (i j : MonitoringInstance) : Prop where
  spec : i.spec = j.spec
  metadata : i.metadata = { j.metadata with
    resourceVersion := i.metadata.resourceVersion
    uid := i.metadata.uid }
  uid : ¬ anew → i.metadata.uid = j.metadata.uid

namespace Alike

variable {anew : Prop} {i j k : MonitoringInstance}

theorem refl (i : MonitoringInstance) : Alike anew i i := ⟨rfl, rfl, fun _ => rfl⟩

theorem rel_refl (found : Option MonitoringInstance) : Option.Rel (Alike anew) found found := by
  cases found with
  | none => exact .none
  | some i => exact .some (.refl i)

theorem symm (h : Alike anew i j) : Alike anew j i := by
  refine ⟨h.spec.symm, ?_, fun hnot => (h.uid hnot).symm⟩
  rw [h.metadata]

theorem trans (h : Alike anew i j) (h' : Alike anew j k) : Alike anew i k := by
  refine ⟨h.spec.trans h'.spec, ?_, fun hnot => (h.uid hnot).trans (h'.uid hnot)⟩
  rw [h.metadata, h'.metadata]

theorem rel_mono {anew' : Prop} (himp : anew → anew') {found found' : Option MonitoringInstance}
    (h : Option.Rel (Alike anew) found found') : Option.Rel (Alike anew') found found' := by
  cases h with
  | none => exact .none
  | some hi => exact .some ⟨hi.spec, hi.metadata, fun hnot => hi.uid (mt himp hnot)⟩

theorem rel_join {found found' alone : Option MonitoringInstance}
    (h : Option.Rel (Alike anew) found alone) (h' : Option.Rel (Alike anew) found' alone) :
    Option.Rel (Alike anew) found found' := by
  cases h with
  | none =>
    cases h'
    exact .none
  | some hi =>
    cases h' with
    | some hj => exact .some (hi.trans hj.symm)

theorem stampNew (h : anew) (s t : Store MonitoringInstance) (i : MonitoringInstance) :
    Alike anew (s.stampNew i) (t.stampNew i) := by
  have hmetadata (u : Store MonitoringInstance) : (u.stampNew i).metadata =
      { i.metadata with
        resourceVersion := some (toString u.nextVersion)
        uid := some (uidText u.nextUid) } := rfl
  have hspec (u : Store MonitoringInstance) : (u.stampNew i).spec = i.spec := rfl
  refine ⟨?_, ?_, fun hnot => absurd h hnot⟩
  · rw [hspec, hspec]
  · rw [hmetadata, hmetadata]

theorem stampNext (s t : Store MonitoringInstance) (current i : MonitoringInstance) :
    Alike anew (s.stampNext current i) (t.stampNext current i) :=
  ⟨rfl, rfl, fun _ => rfl⟩

end Alike

/-- A pass came to what it comes to with a store for itself, and so did its instance, which is as
it stands now. -/
structure Reconcile.AsAlone (build : SpecBuilder) (binding : Binding) (s : Store MonitoringInstance)
    (now : Option MonitoringInstance) (result : Except OperatorError Outcome) : Prop where
  outcome : (run Store.access build binding s).1 = result
  object : Option.Rel (Alike (result = .ok .created)) now
    ((run Store.access build binding s).2.objects.get? binding.instanceKey)

section Undisturbed

variable {build : SpecBuilder} {binding : Binding} {s t : Store MonitoringInstance} {d : Desired}

theorem Reconcile.AsAlone.of_run {result : Except OperatorError Outcome}
    {s' : Store MonitoringInstance} (h : run Store.access build binding s = (result, s'))
    {now : Option MonitoringInstance}
    (halike : Option.Rel (Alike (result = .ok .created)) now (s'.objects.get? binding.instanceKey)) :
    AsAlone build binding s now result :=
  ⟨by rw [h], by rwa [h]⟩

/-- What may be left of a pass when nobody else writes at its instance's key, beside what stands
there now. `s` is the store that the pass could have had for itself. -/
inductive Pass.Undisturbed (build : SpecBuilder) (binding : Binding) (s : Store MonitoringInstance)
    (now : Option MonitoringInstance) : Pass → Prop
  | unread (same : now = s.objects.get? binding.instanceKey) :
      Undisturbed build binding s now (.ofJob (.reconcile build binding))
  | unwritten {d : Desired} {decision : Decision}
      (desired : Desired.ofBinding build binding = .ok d)
      (decided : d.decide (s.objects.get? d.instanceKey) = .ok decision)
      (same : now = s.objects.get? d.instanceKey) :
      Undisturbed build binding s now
        ⟨.reconcile build binding, Reconcile.write Program.access decision⟩
  | ended {result : Except OperatorError Outcome}
      (alone : Reconcile.AsAlone build binding s now result) :
      Undisturbed build binding s now ⟨.reconcile build binding, .done result⟩

theorem Pass.Undisturbed.finished (hf : s.faults = []) {now : Option MonitoringInstance} {p : Pass}
    (h : p.Undisturbed build binding s now) (hdone : p.action? = none) :
    ∃ result, p = ⟨.reconcile build binding, .done result⟩ ∧
      Reconcile.AsAlone build binding s now result := by
  cases h with
  | ended halone => exact ⟨_, rfl, halone⟩
  | unread hsame =>
    cases hd : Desired.ofBinding build binding with
    | error e =>
      have hrun : Reconcile.run Store.access build binding s = (.error e, s) := by
        rw [Reconcile.run, hd]
        rfl
      refine ⟨.error e, ?_, .of_run hrun ?_⟩
      · rw [Pass.ofJob, Job.program, Reconcile.program_of_error hd]
        rfl
      · rw [hsame]
        exact Alike.rel_refl _
    | ok d =>
      rw [Pass.ofJob, Job.program, Reconcile.program_of_ok hd] at hdone
      cases hdone
  | @unwritten d decision hd hdecided hsame =>
    cases decision with
    | create i => cases hdone
    | update i => cases hdone
    | keep =>
      have hrun := Reconcile.run_eq hd hf
      rw [hdecided] at hrun
      refine ⟨_, rfl, .of_run hrun ?_⟩
      rw [hsame, Desired.instanceKey_eq hd]
      exact Alike.rel_refl _

/-- The store changed at one key at most, and nothing is wrong with it. -/
structure Store.OnlyAt (key : Key) (t t' : Store MonitoringInstance) : Prop where
  faults : t'.faults = []
  get? : ∀ l, l ≠ key → t'.objects.get? l = t.objects.get? l

theorem Store.Wrote.onlyAt {t' : Store MonitoringInstance} {i : MonitoringInstance}
    (h : Wrote t t' i) (ht : t.faults = []) : OnlyAt (Key.of i) t t' :=
  ⟨h.faults.trans ht, fun l hl => by rw [h.get?_objects, if_neg hl]⟩

/-- A pass goes on and leaves all alone but its own instance. -/
structure Pass.GoesOn (build : SpecBuilder) (binding : Binding) (s t t' : Store MonitoringInstance)
    (q : Pass) : Prop where
  undisturbed : q.Undisturbed build binding s (t'.objects.get? binding.instanceKey)
  onlyAt : OnlyAt binding.instanceKey t t'

namespace Pass.GoesOn

theorem read (hd : Desired.ofBinding build binding = .ok d) (hf : s.faults = [])
    (ht : t.faults = []) (hsame : t.objects.get? d.instanceKey = s.objects.get? d.instanceKey) :
    GoesOn build binding s t (t.get d.instanceKey).2
      ⟨.reconcile build binding, Reconcile.afterRead d (t.get d.instanceKey).1⟩ := by
  have hrun := Reconcile.run_eq hd hf
  rw [Reconcile.afterRead_get ht, get_snd, hsame]
  refine ⟨?_, ht, fun _ _ => rfl⟩
  rw [objects_logged, ← Desired.instanceKey_eq hd, hsame]
  cases hdecided : d.decide (s.objects.get? d.instanceKey) with
  | error e =>
    rw [hdecided] at hrun
    refine .ended (.of_run hrun ?_)
    rw [← Desired.instanceKey_eq hd]
    exact Alike.rel_refl _
  | ok decision => exact .unwritten hd hdecided rfl

theorem wrote {outcome : Outcome} {s₁ s' t' : Store MonitoringInstance}
    {i j : MonitoringInstance} (ht : t.faults = [])
    (hrun : Reconcile.run Store.access build binding s = (.ok outcome, s'))
    (hwrote : Wrote t t' i) (hkey : Key.of i = binding.instanceKey)
    (hwrote' : Wrote s₁ s' j) (hkey' : Key.of j = binding.instanceKey)
    (halike : Alike (Except.ok outcome = (.ok .created : Except OperatorError Outcome)) i j) :
    GoesOn build binding s t t' ⟨.reconcile build binding, .done (.ok outcome)⟩ := by
  refine ⟨.ended (.of_run hrun ?_), hkey ▸ hwrote.onlyAt ht⟩
  rw [hwrote.get?_objects, hwrote'.get?_objects, if_pos hkey.symm, if_pos hkey'.symm]
  exact .some halike

theorem create (hd : Desired.ofBinding build binding = .ok d) (hf : s.faults = [])
    (ht : t.faults = []) (hnone : s.objects.get? d.instanceKey = none)
    (hnow : t.objects.get? d.instanceKey = none) :
    GoesOn build binding s t (t.create d.newInstance).2
      ⟨.reconcile build binding, Reconcile.afterWrite .created (t.create d.newInstance).1⟩ := by
  have hrun := Reconcile.run_eq hd hf
  rw [hnone] at hrun
  have halone := hrun.trans (Reconcile.write_create_eq d.newInstance _)
  have hself : Key.of d.newInstance = binding.instanceKey := Desired.instanceKey_eq hd
  rw [Desired.instanceKey_eq hd] at hnone hnow
  cases hid : identity d.newInstance with
  | error e =>
    rw [create_unidentified _ hid] at halone ⊢
    refine ⟨.ended (.of_run halone ?_), ht, fun _ _ => rfl⟩
    rw [hnow, objects_logged, hnone]
    exact .none
  | ok key =>
    obtain rfl := key_of_identity hid
    have hf' : (s.logged (.get d.instanceKey)).faults = [] := hf
    obtain ⟨hok, -, hwrote⟩ := create_absent ht hid (hself ▸ hnow)
    obtain ⟨hok', -, hwrote'⟩ := create_absent hf' hid (hself ▸ hnone)
    rw [hok'] at halone
    rw [hok]
    exact wrote ht halone hwrote ((key_stampNew _ _).trans hself) hwrote'
      ((key_stampNew _ _).trans hself) (.stampNew rfl _ _ _)

theorem update (hd : Desired.ofBinding build binding = .ok d) (hf : s.faults = [])
    (ht : t.faults = []) {i : MonitoringInstance} (hfound : s.objects.get? d.instanceKey = some i)
    (hkey : Key.of i = d.instanceKey) (hdecided : d.decide (some i) = .ok (.update (d.settle i)))
    (hnow : t.objects.get? d.instanceKey = some i) :
    GoesOn build binding s t (t.update (d.settle i)).2
      ⟨.reconcile build binding, Reconcile.afterWrite .updated (t.update (d.settle i)).1⟩ := by
  have hrun := Reconcile.run_eq hd hf
  rw [hfound, hdecided] at hrun
  have halone := hrun.trans (Reconcile.write_update_eq (d.settle i) _)
  have hself : Key.of (d.settle i) = binding.instanceKey := by
    rw [d.key_settle, hkey, Desired.instanceKey_eq hd]
  rw [Desired.instanceKey_eq hd] at hfound hnow
  cases hid : identity (d.settle i) with
  | error e =>
    rw [update_unidentified _ hid] at halone ⊢
    refine ⟨.ended (.of_run halone ?_), ht, fun _ _ => rfl⟩
    rw [hnow, objects_logged, hfound]
    exact .some (.refl i)
  | ok key =>
    obtain rfl := key_of_identity hid
    have hf' : (s.logged (.get d.instanceKey)).faults = [] := hf
    have hthere : t.objects.get? (Key.of (d.settle i)) = some i := by rwa [hself]
    have hthere' : (s.logged (.get d.instanceKey)).objects.get? (Key.of (d.settle i)) = some i := by
      rwa [hself]
    obtain ⟨hok, -, hwrote⟩ := update_current (fault?_of_faults_eq_nil ht _ _) hid hthere rfl
    obtain ⟨hok', -, hwrote'⟩ := update_current (fault?_of_faults_eq_nil hf' _ _) hid hthere' rfl
    rw [hok'] at halone
    rw [hok]
    exact wrote ht halone hwrote ((key_stampNext _ _ _).trans hself) hwrote'
      ((key_stampNext _ _ _).trans hself) (.stampNext _ _ _ _)

end Pass.GoesOn

theorem Pass.Undisturbed.advance {w : World} {n : Nat} {p : Pass} (hf : s.faults = [])
    (hown : ∀ key i, s.objects.get? key = some i → Key.of i = key) (hw : w.store.faults = [])
    (hn : w.passes[n]? = some p)
    (hp : p.Undisturbed build binding s (w.store.objects.get? binding.instanceKey)) :
    ∃ q, (w.step (.advance n)).passes[n]? = some q ∧
      q.GoesOn build binding s w.store (w.step (.advance n)).store := by
  have hstays (h : w.step (.advance n) = w) : ∃ q, (w.step (.advance n)).passes[n]? = some q ∧
      q.GoesOn build binding s w.store (w.step (.advance n)).store := by
    rw [h]
    exact ⟨p, hn, hp, hw, fun _ _ => rfl⟩
  cases hp with
  | ended => exact hstays (World.step_ended hn)
  | unread hsame =>
    rw [Pass.ofJob, Job.program] at hn
    cases hd : Desired.ofBinding build binding with
    | error e =>
      rw [Reconcile.program_of_error hd] at hn
      exact hstays (World.step_ended hn)
    | ok d =>
      rw [Reconcile.program_of_ok hd] at hn
      rw [← Desired.instanceKey_eq hd] at hsame
      rw [(World.step_call hn).2]
      exact ⟨_, World.getElem?_step_call hn, .read hd hf hw hsame⟩
  | @unwritten d decision hd hdecided hsame =>
    have hdecision := hdecided
    rw [← Desired.instanceKey_eq hd] at hsame
    rcases d.decide_cases hdecided with ⟨hnone, rfl⟩ | ⟨i, hfound, -, ⟨-, rfl⟩ | ⟨-, rfl⟩⟩
    · rw [Reconcile.write_create] at hn
      rw [(World.step_call hn).2]
      exact ⟨_, World.getElem?_step_call hn, .create hd hf hw hnone (hsame.trans hnone)⟩
    · exact hstays (World.step_ended hn)
    · rw [Reconcile.write_update] at hn
      rw [(World.step_call hn).2]
      rw [hfound] at hdecision
      exact ⟨_, World.getElem?_step_call hn,
        .update hd hf hw hfound (hown _ _ hfound) hdecision (hsame.trans hfound)⟩

end Undisturbed

namespace World

variable {build : SpecBuilder} {bindings : List Binding} {s : Store MonitoringInstance} {w : World}

def together (build : SpecBuilder) (bindings : List Binding) (s : Store MonitoringInstance) :
    World where
  store := s
  passes := bindings.map fun binding => .ofJob (.reconcile build binding)

/-- Passes over one store that keep out of each other's way. -/
structure Apart (build : SpecBuilder) (bindings : List Binding) (s : Store MonitoringInstance)
    (w : World) : Prop where
  faults : w.store.faults = []
  passes : ∀ (n : Nat) binding, bindings[n]? = some binding → ∃ p : Pass,
    w.passes[n]? = some p ∧ p.Undisturbed build binding s (w.store.objects.get? binding.instanceKey)
  absent : ∀ n : Nat, bindings[n]? = none → w.passes[n]? = none
  others : ∀ key, (∀ binding ∈ bindings, key ≠ binding.instanceKey) →
    w.store.objects.get? key = s.objects.get? key

theorem apart_together (hf : s.faults = []) :
    Apart build bindings s (together build bindings s) where
  faults := hf
  passes n binding h := ⟨_, by rw [together, List.getElem?_map, h, Option.map_some], .unread rfl⟩
  absent n h := by rw [together, List.getElem?_map, h, Option.map_none]
  others _ _ := rfl

theorem instanceKey_ne (hnames : (bindings.map (·.name)).Nodup) {m n : Nat} {b c : Binding}
    (hb : bindings[m]? = some b) (hc : bindings[n]? = some c) (hne : m ≠ n) :
    b.instanceKey ≠ c.instanceKey := by
  intro hkey
  refine hne ((List.getElem?_inj ?_ hnames).1 ?_)
  · simpa using (List.getElem?_eq_some_iff.1 hb).1
  · have hname : b.name = c.name := congrArg Key.name hkey
    simp [hb, hc, hname]

theorem Apart.step (hnames : (bindings.map (·.name)).Nodup) (hf : s.faults = [])
    (hown : ∀ key i, s.objects.get? key = some i → Key.of i = key) (hw : Apart build bindings s w)
    (n : Nat) : Apart build bindings s (w.step (.advance n)) := by
  cases hb : bindings[n]? with
  | none =>
    rw [World.step, hw.absent n hb]
    exact hw
  | some binding =>
    obtain ⟨p, hn, hp⟩ := hw.passes n binding hb
    obtain ⟨q, hq, hgoes⟩ := hp.advance hf hown hw.faults hn
    refine ⟨hgoes.onlyAt.faults, ?_, ?_, ?_⟩
    · intro m other hother
      by_cases hm : n = m
      · subst hm
        obtain rfl : binding = other := Option.some.inj (hb.symm.trans hother)
        exact ⟨q, hq, hgoes.undisturbed⟩
      · rw [w.passes_advance_of_ne hm,
          hgoes.onlyAt.get? _ (instanceKey_ne hnames hother hb (Ne.symm hm))]
        exact hw.passes m other hother
    · intro m hm
      have hne : n ≠ m := by
        rintro rfl
        cases hb.symm.trans hm
      rw [w.passes_advance_of_ne hne]
      exact hw.absent m hm
    · intro key hkey
      rw [hgoes.onlyAt.get? key (hkey binding (List.mem_of_getElem? hb))]
      exact hw.others key hkey

theorem Apart.run (hnames : (bindings.map (·.name)).Nodup) (hf : s.faults = [])
    (hown : ∀ key i, s.objects.get? key = some i → Key.of i = key) (hw : Apart build bindings s w)
    (schedule : List Nat) : Apart build bindings s (w.run (schedule.map .advance)) := by
  induction schedule generalizing w with
  | nil => exact hw
  | cons n schedule ih => exact ih (hw.step hnames hf hown n)

/-- Passes have all ended as they end alone, and what they are not for is as it was. -/
structure EachAsAlone (build : SpecBuilder) (bindings : List Binding)
    (s : Store MonitoringInstance) (w : World) : Prop where
  passes : ∀ (n : Nat) binding, bindings[n]? = some binding → ∃ result,
    w.passes[n]? = some ⟨.reconcile build binding, .done result⟩ ∧
      Reconcile.AsAlone build binding s (w.store.objects.get? binding.instanceKey) result
  others : ∀ key, (∀ binding ∈ bindings, key ≠ binding.instanceKey) →
    w.store.objects.get? key = s.objects.get? key

theorem Apart.eachAsAlone (hf : s.faults = []) (hw : Apart build bindings s w)
    (hdone : ∀ p ∈ w.passes, p.action? = none) : EachAsAlone build bindings s w := by
  refine ⟨fun n binding hb => ?_, hw.others⟩
  obtain ⟨p, hn, hp⟩ := hw.passes n binding hb
  obtain ⟨result, rfl, halone⟩ := hp.finished hf (hdone p (List.mem_of_getElem? hn))
  exact ⟨result, hn, halone⟩

/-- Passes for bindings of different names do not disturb each other: whatever the order of their
steps, each comes to what it comes to with the store for itself. -/
theorem together_eachAsAlone (hnames : (bindings.map (·.name)).Nodup) (hf : s.faults = [])
    (hown : ∀ key i, s.objects.get? key = some i → Key.of i = key) {schedule schedule' : List Nat}
    (hdone : ∀ p ∈ ((together build bindings s).run (schedule.map .advance)).passes,
      p.action? = none)
    (hdone' : ∀ p ∈ ((together build bindings s).run (schedule'.map .advance)).passes,
      p.action? = none) :
    let w := (together build bindings s).run (schedule.map .advance)
    let w' := (together build bindings s).run (schedule'.map .advance)
    EachAsAlone build bindings s w ∧ w'.passes = w.passes ∧
      ∀ key, Option.Rel (Alike (∃ binding ∈ bindings, key = binding.instanceKey ∧
          (Reconcile.run Store.access build binding s).1 = .ok .created))
        (w'.store.objects.get? key) (w.store.objects.get? key) := by
  intro w w'
  have hw : Apart build bindings s w := (apart_together hf).run hnames hf hown schedule
  have hw' : Apart build bindings s w' := (apart_together hf).run hnames hf hown schedule'
  have heach := hw.eachAsAlone hf hdone
  have heach' := hw'.eachAsAlone hf hdone'
  refine ⟨heach, ?_, fun key => ?_⟩
  · apply List.ext_getElem?
    intro n
    cases hb : bindings[n]? with
    | none => rw [hw.absent n hb, hw'.absent n hb]
    | some binding =>
      obtain ⟨result, hn, halone⟩ := heach.passes n binding hb
      obtain ⟨result', hn', halone'⟩ := heach'.passes n binding hb
      obtain rfl : result' = result := halone'.outcome.symm.trans halone.outcome
      rw [hn, hn']
  · by_cases hkey : ∃ binding ∈ bindings, key = binding.instanceKey
    · obtain ⟨binding, hmem, rfl⟩ := hkey
      obtain ⟨n, hb⟩ := List.getElem?_of_mem hmem
      obtain ⟨result, -, halone⟩ := heach.passes n binding hb
      obtain ⟨result', -, halone'⟩ := heach'.passes n binding hb
      obtain rfl : result' = result := halone'.outcome.symm.trans halone.outcome
      refine Alike.rel_mono (fun hcreated => ?_) (Alike.rel_join halone'.object halone.object)
      exact ⟨binding, hmem, rfl, halone.outcome.trans hcreated⟩
    · have hother : ∀ binding ∈ bindings, key ≠ binding.instanceKey := fun binding hmem heq =>
        hkey ⟨binding, hmem, heq⟩
      rw [heach'.others key hother, heach.others key hother]
      exact Alike.rel_refl _

/-- An instance of nobody's and one of a binding of another namespace. -/
def twoStored : Store MonitoringInstance :=
  ((Store.insert {} Reconcile.storedOrders).2.insert
    { metadata := {
        name := some "bills"
        ns? := some systemNamespace
        labels := some (Ownership.labels "bills" "bazaar") }
      spec := {} }).2

def bindingNamed (name : String) : Binding where
  metadata := { name := some name, ns? := some "shop" }
  spec := {}

def threeOf : List Binding := [bindingNamed "orders", bindingNamed "invoices", bindingNamed "bills"]

def endedNamed (name : String) (result : Except OperatorError Outcome) : Pass :=
  ⟨.reconcile Reconcile.twoGi (bindingNamed name), .done result⟩

theorem together_eachAsAlone_threeOf :
    let start := together Reconcile.twoGi threeOf twoStored
    let w := start.run ([0, 1, 2, 1, 0].map .advance)
    EachAsAlone Reconcile.twoGi threeOf twoStored w ∧
      (start.run ([2, 1, 1, 0, 0].map .advance)).passes = w.passes ∧
      ∃ detail, w.passes = [endedNamed "orders" (.ok .updated), endedNamed "invoices" (.ok .created),
        endedNamed "bills" (.error (.invalidInput detail))] := by
  have hstamped : Stamped twoStored :=
    (insert_evolves _ rfl).stamped ((insert_evolves {} rfl).stamped stamped_empty)
  obtain ⟨detail, hended⟩ : ∃ detail, ((together Reconcile.twoGi threeOf twoStored).run
      ([0, 1, 2, 1, 0].map .advance)).passes = [endedNamed "orders" (.ok .updated),
        endedNamed "invoices" (.ok .created), endedNamed "bills" (.error (.invalidInput detail))] :=
    ⟨_, rfl⟩
  have hdone : ∀ p ∈ ((together Reconcile.twoGi threeOf twoStored).run
      ([0, 1, 2, 1, 0].map .advance)).passes, p.action? = none := by
    rw [hended]
    simp [endedNamed, Pass.action?]
  have hdone' : ∀ p ∈ ((together Reconcile.twoGi threeOf twoStored).run
      ([2, 1, 1, 0, 0].map .advance)).passes, p.action? = none := by
    decide +kernel
  obtain ⟨heach, hpasses, -⟩ := together_eachAsAlone (by decide) rfl
    (fun key i hget => (hstamped key i hget).1) hdone hdone'
  exact ⟨heach, hpasses, detail, hended⟩

end World

end MonitoringStack
