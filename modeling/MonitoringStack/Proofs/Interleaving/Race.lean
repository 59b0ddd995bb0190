import MonitoringStack.Proofs.Interleaving.Ownership

namespace MonitoringStack

open Kube Ownership Store

namespace Desired

variable (d : Desired)

def opening : Option MonitoringInstance → Decision
  | none => .create d.newInstance
  | some i => .update (d.settle i)

theorem decide_opening {build : SpecBuilder} {binding : Binding}
    (hd : ofBinding build binding = .ok d) {found : Option MonitoringInstance}
    (hfree : ∀ i, found = some i → ownerNs? i = none ∧ binding.ns ≠ "") :
    d.decide found = .ok (d.opening found) := by
  cases found with
  | none => rfl
  | some i =>
    obtain ⟨hnone, hns⟩ := hfree i rfl
    obtain ⟨-, hlabels, -⟩ := d.ofBinding_eq hd
    have hopen : OpenTo d.binding.ns i := by simp [OpenTo, hnone]
    have hdiffers : ¬ d.Agrees i := by
      rintro ⟨hagrees, -⟩
      have hlabel := laidOver_eq_self.1 hagrees bindingNamespaceLabel binding.ns
        (by rw [hlabels, get?_bindingNamespaceLabel]) hns
      rw [get?_getD_labels, show i.metadata.label? bindingNamespaceLabel = none from hnone] at hlabel
      cases hlabel
    rw [d.decide_some hopen, if_neg hdiffers]
    rfl

end Desired

/-- One of the passes that are out for an instance. -/
structure Racer where
  build : SpecBuilder
  binding : Binding
  built : InstanceSpec
  build_eq : build binding = .ok built

namespace Racer

variable (r : Racer)

def job : Job := .reconcile r.build r.binding

def desired : Desired :=
  ⟨⟨r.binding.ns, r.binding.name⟩, Ownership.labels r.binding.name r.binding.ns, r.built⟩

theorem ofBinding_eq : Desired.ofBinding r.build r.binding = .ok r.desired := by
  rw [Desired.ofBinding, r.build_eq]
  rfl

def fresh : Pass := .ofJob r.job

def pending (found : Option MonitoringInstance) : Pass :=
  ⟨r.job, Reconcile.write Program.access (r.desired.opening found)⟩

def ended (result : Except OperatorError Outcome) : Pass := ⟨r.job, .done result⟩

def opened : Option MonitoringInstance → Outcome
  | none => .created
  | some _ => .updated

def attempt : Option MonitoringInstance →
    StateM (Store MonitoringInstance) (Except StoreError MonitoringInstance)
  | none => Store.create r.desired.newInstance
  | some i => Store.update (r.desired.settle i)

theorem action?_fresh : r.fresh.action? ≠ none := by
  rw [fresh, Pass.ofJob, job, Job.program, Reconcile.program_of_ok r.ofBinding_eq]
  simp [Pass.action?]

theorem action?_pending (found : Option MonitoringInstance) :
    (r.pending found).action? ≠ none := by
  cases found with
  | none => simp [pending, Desired.opening, Reconcile.write_create, Pass.action?]
  | some i => simp [pending, Desired.opening, Reconcile.write_update, Pass.action?]

variable {r} {w : World} {n : Nat} {found : Option MonitoringInstance}

theorem step_fresh (hn : w.passes[n]? = some r.fresh) :
    (w.step (.advance n)).passes = w.passes.set n
        ⟨r.job, Reconcile.afterRead r.desired (w.store.get r.binding.instanceKey).1⟩ ∧
      (w.step (.advance n)).store = w.store.logged (.get r.binding.instanceKey) := by
  rw [fresh, Pass.ofJob, job, Job.program, Reconcile.program_of_ok r.ofBinding_eq] at hn
  rw [← get_snd]
  exact World.step_call hn

theorem step_pending (hn : w.passes[n]? = some (r.pending found)) :
    (w.step (.advance n)).passes = w.passes.set n
        ⟨r.job, Reconcile.afterWrite (opened found) (r.attempt found w.store).1⟩ ∧
      (w.step (.advance n)).store = (r.attempt found w.store).2 := by
  cases found with
  | none =>
    rw [pending, Desired.opening, Reconcile.write_create] at hn
    exact World.step_call hn
  | some i =>
    rw [pending, Desired.opening, Reconcile.write_update] at hn
    exact World.step_call hn

section Attempt

variable {s : Store MonitoringInstance} {j : MonitoringInstance}

theorem attempt_wins (hf : s.faults = []) (hname : r.binding.name ≠ "")
    (hget : s.objects.get? r.binding.instanceKey = found)
    (hkey : ∀ i, found = some i → Key.of i = r.binding.instanceKey)
    (hns : ∀ i, found = some i → r.binding.ns ≠ "") :
    ∃ stored, (r.attempt found s).1 = .ok stored ∧ Wrote s (r.attempt found s).2 stored ∧
      Key.of stored = r.binding.instanceKey ∧ ownerNs? stored = some r.binding.ns ∧
      version? stored = some (toString s.nextVersion) := by
  cases found with
  | none =>
    have hid : identity r.desired.newInstance = .ok (Key.of r.desired.newInstance) :=
      r.desired.identity_of_key rfl hname
    obtain ⟨hok, -, hwrote⟩ := create_absent hf hid hget
    refine ⟨_, hok, hwrote, key_stampNew _ _, ?_, version?_stampNew _ _⟩
    exact Desired.ownerNs?_newInstance r.ofBinding_eq
  | some i =>
    have hid : identity (r.desired.settle i) = .ok (Key.of (r.desired.settle i)) :=
      r.desired.identity_of_key (hkey i rfl) hname
    have hcurrent : s.objects.get? (Key.of (r.desired.settle i)) = some i := by
      rwa [Desired.key_settle, hkey i rfl]
    obtain ⟨hok, -, hwrote⟩ := update_current (fault?_of_faults_eq_nil hf _ _) hid hcurrent rfl
    refine ⟨_, hok, hwrote, (key_stampNext _ _ _).trans (hkey i rfl), ?_, version?_stampNext _ _ _⟩
    exact (Desired.ownerNs?_settle r.ofBinding_eq i).trans (if_neg (hns i rfl))

theorem attempt_loses (hf : s.faults = []) (hname : r.binding.name ≠ "")
    (hget : s.objects.get? r.binding.instanceKey = some j)
    (hstale : ∀ i, found = some i → Key.of i = r.binding.instanceKey ∧
      ∃ version, version? i = some version ∧ version ≠ (version? j).getD "") (outcome : Outcome) :
    (∃ detail, Reconcile.afterWrite outcome (r.attempt found s).1 =
        .done (.error (.conflict detail))) ∧ Untouched s (r.attempt found s).2 := by
  cases found with
  | none =>
    have hid : identity r.desired.newInstance = .ok (Key.of r.desired.newInstance) :=
      r.desired.identity_of_key rfl hname
    obtain ⟨herror, h⟩ := create_present hf hid hget
    refine ⟨⟨describe MonitoringInstance (Key.of r.desired.newInstance), ?_⟩, h⟩
    rw [attempt, herror]
    rfl
  | some i =>
    obtain ⟨hkey, version, hv, hne⟩ := hstale i rfl
    have hid : identity (r.desired.settle i) = .ok (Key.of (r.desired.settle i)) :=
      r.desired.identity_of_key hkey hname
    have hcurrent : s.objects.get? (Key.of (r.desired.settle i)) = some j := by
      rwa [Desired.key_settle, hkey]
    obtain ⟨herror, h⟩ := update_stale (fault?_of_faults_eq_nil hf _ _) hid hcurrent hv hne
    have hconflict : ∃ detail, (s.update (r.desired.settle i)).1 = .error (.conflict detail) :=
      ⟨_, herror⟩
    obtain ⟨detail, herror⟩ := hconflict
    refine ⟨⟨detail, ?_⟩, h⟩
    rw [attempt, herror]
    rfl

end Attempt

end Racer

/-- Passes of bindings of one name, no two of them from one namespace, are out for an instance that
is not there or that nobody owns. Without a namespace of its own a binding cannot own what it has not
made. -/
structure Race (s : Store MonitoringInstance) (name : String) (racers : List Racer) : Prop where
  faults : s.faults = []
  named : name ≠ ""
  names : ∀ r ∈ racers, r.binding.name = name
  namespaces : (racers.map (·.binding.ns)).Nodup
  free : ∀ i, s.objects.get? ⟨systemNamespace, name⟩ = some i →
    ownerNs? i = none ∧ ∀ r ∈ racers, r.binding.ns ≠ ""

namespace Race

def world (s : Store MonitoringInstance) (racers : List Racer) : World where
  store := s
  passes := racers.map Racer.fresh

def after (w : World) (schedule : List Nat) : World := w.run (schedule.map .advance)

variable {s : Store MonitoringInstance} {name : String} {racers : List Racer}

/-- Nobody has written, and those on the list have read. -/
structure Undecided (s : Store MonitoringInstance) (name : String) (racers : List Racer)
    (read : List Nat) (w : World) : Prop where
  consistent : w.Consistent
  faults : w.store.faults = []
  objects : w.store.objects = s.objects
  passes : ∀ n, w.passes[n]? = racers[n]?.map fun r =>
    if n ∈ read then r.pending (s.objects.get? ⟨systemNamespace, name⟩) else r.fresh

/-- What is written first: it is marked as its writer's, and its version tells it from what was
there. -/
structure Taken (s : Store MonitoringInstance) (name : String) (r : Racer)
    (stored : MonitoringInstance) : Prop where
  owner : ownerNs? stored = some r.binding.ns
  version : ∀ i, s.objects.get? ⟨systemNamespace, name⟩ = some i → version? i ≠ version? stored

/-- One has written; those that had read before are in conflict, the others are turned away. -/
structure Decided (s : Store MonitoringInstance) (name : String) (racers : List Racer)
    (objects : KeyMap Key MonitoringInstance) (before : List Nat) (winner : Nat) (w : World) :
    Prop where
  consistent : w.Consistent
  faults : w.store.faults = []
  objects : w.store.objects = objects
  absent : ∀ n : Nat, racers[n]? = none → w.passes[n]? = none
  won : ∀ r, racers[winner]? = some r → w.passes[winner]? =
    some (r.ended (.ok (Racer.opened (s.objects.get? ⟨systemNamespace, name⟩))))
  late : ∀ n r, racers[n]? = some r → n ≠ winner → n ∈ before →
    w.passes[n]? = some (r.pending (s.objects.get? ⟨systemNamespace, name⟩)) ∨
      ∃ detail, w.passes[n]? = some (r.ended (.error (.conflict detail)))
  later : ∀ n r, racers[n]? = some r → n ≠ winner → n ∉ before →
    w.passes[n]? = some r.fresh ∨
      ∃ detail, w.passes[n]? = some (r.ended (.error (.invalidInput detail)))

theorem instanceKey (h : Race s name racers) {r : Racer} (hr : r ∈ racers) :
    r.binding.instanceKey = ⟨systemNamespace, name⟩ := by
  rw [Binding.instanceKey, h.names r hr]

theorem stranger (h : Race s name racers) {m n : Nat} {r r' : Racer} (hr : racers[m]? = some r)
    (hr' : racers[n]? = some r') (hne : m ≠ n) : r.binding.ns ≠ r'.binding.ns := by
  intro hns
  refine hne ((List.getElem?_inj ?_ h.namespaces).1 ?_)
  · simpa using (List.getElem?_eq_some_iff.1 hr).1
  · simp [hr, hr', hns]

theorem undecided_world (hs : Stamped s) (hf : s.faults = []) :
    Undecided s name racers [] (world s racers) where
  consistent := by
    refine ⟨hs, fun p hp => ?_⟩
    obtain ⟨r, -, rfl⟩ := List.mem_map.1 hp
    exact .start r.job
  faults := hf
  objects := rfl
  passes n := by simp [world]

theorem Undecided.step_read (h : Race s name racers) {read : List Nat} {w : World} {n : Nat}
    {r : Racer} (hw : Undecided s name racers read w) (hr : racers[n]? = some r) (hn : n ∉ read) :
    Undecided s name racers (read ++ [n]) (w.step (.advance n)) := by
  have hmem := List.mem_of_getElem? hr
  have hpass : w.passes[n]? = some r.fresh := by simp [hw.passes, hr, hn]
  have hkey := h.instanceKey hmem
  obtain ⟨hpasses, hstore⟩ := Racer.step_fresh hpass
  rw [Reconcile.afterRead_get hw.faults, hw.objects, hkey,
    r.desired.decide_opening r.ofBinding_eq fun i hi => ⟨(h.free i hi).1, (h.free i hi).2 r hmem⟩]
    at hpasses
  refine ⟨World.step_consistent hw.consistent trivial, ?_, ?_, fun k => ?_⟩
  · rw [hstore]
    exact hw.faults
  · rw [hstore]
    exact hw.objects
  · rw [hpasses]
    by_cases hk : k = n
    · rw [hk, List.getElem?_set_self (List.getElem?_eq_some_iff.1 hpass).1, hr]
      simp [Racer.pending]
    · rw [List.getElem?_set_ne (Ne.symm hk), hw.passes]
      simp [hk]

theorem Undecided.step_absent {read : List Nat} {w : World} {n : Nat}
    (hw : Undecided s name racers read w) (hr : racers[n]? = none) :
    Undecided s name racers (read ++ [n]) (w.step (.advance n)) := by
  have hpass : w.passes[n]? = none := by rw [hw.passes, hr]; rfl
  have hstep : w.step (.advance n) = w := by rw [World.step, hpass]
  rw [hstep]
  refine ⟨hw.consistent, hw.faults, hw.objects, fun k => ?_⟩
  rw [hw.passes]
  by_cases hk : k = n
  · rw [hk, hr]
    rfl
  · simp [hk]

theorem Undecided.decided {read : List Nat} {w w' : World} {n : Nat} {r : Racer}
    (hw : Undecided s name racers read w) (hr : racers[n]? = some r) (hn : n ∈ read)
    (hconsistent : w'.Consistent) (hfaults : w'.store.faults = [])
    (hpasses : w'.passes = w.passes.set n
      (r.ended (.ok (Racer.opened (s.objects.get? ⟨systemNamespace, name⟩))))) :
    Decided s name racers w'.store.objects read n w' := by
  have hpass : w.passes[n]? = some (r.pending (s.objects.get? ⟨systemNamespace, name⟩)) := by
    simp [hw.passes, hr, hn]
  have hother : ∀ k, k ≠ n → w'.passes[k]? = racers[k]?.map fun r =>
      if k ∈ read then r.pending (s.objects.get? ⟨systemNamespace, name⟩) else r.fresh := by
    intro k hk
    rw [hpasses, List.getElem?_set_ne (Ne.symm hk), hw.passes]
  refine ⟨hconsistent, hfaults, rfl, fun k hk => ?_, fun r' hr' => ?_,
    fun k r' hr' hne hk => .inl ?_, fun k r' hr' hne hk => .inl ?_⟩
  · rw [hother k, hk]
    · rfl
    · rintro rfl
      rw [hr] at hk
      cases hk
  · obtain rfl : r = r' := Option.some.inj (hr.symm.trans hr')
    rw [hpasses, List.getElem?_set_self (List.getElem?_eq_some_iff.1 hpass).1]
  · simp [hother k hne, hr', hk]
  · simp [hother k hne, hr', hk]

theorem Undecided.step_write (h : Race s name racers) {read : List Nat} {w : World} {n : Nat}
    {r : Racer} (hw : Undecided s name racers read w) (hr : racers[n]? = some r) (hn : n ∈ read) :
    ∃ stored, Taken s name r stored ∧
      Decided s name racers (s.objects.insert ⟨systemNamespace, name⟩ stored) read n
        (w.step (.advance n)) := by
  have hmem := List.mem_of_getElem? hr
  have hpass : w.passes[n]? = some (r.pending (s.objects.get? ⟨systemNamespace, name⟩)) := by
    simp [hw.passes, hr, hn]
  have hkey := h.instanceKey hmem
  have hstamped := hw.consistent.stamped
  rw [← hkey] at hpass ⊢
  obtain ⟨hpasses, hstore⟩ := Racer.step_pending hpass
  have hget : w.store.objects.get? r.binding.instanceKey =
      s.objects.get? r.binding.instanceKey := by rw [hw.objects]
  obtain ⟨stored, hok, hwrote, hstored, howner, hversion⟩ :=
    Racer.attempt_wins hw.faults (by rw [h.names r hmem]; exact h.named) hget
      (fun i hi => (hstamped _ i (hget.trans hi)).1)
      (fun i hi => (h.free i (hkey ▸ hi)).2 r hmem)
  rw [hok] at hpasses
  refine ⟨stored, ⟨howner, fun i hi => ?_⟩, ?_⟩
  · -- the stored version is older than the one that was made for the write
    obtain ⟨-, m, hm, hmv⟩ := hstamped _ i (hget.trans (hkey ▸ hi))
    rw [hmv, hversion]
    intro heq
    have := toString_nat_injective (Option.some.inj heq)
    omega
  · have hobjects : (w.step (.advance n)).store.objects =
        s.objects.insert r.binding.instanceKey stored := by
      rw [hstore, hwrote.objects, hstored, hw.objects]
    have hconsistent : (w.step (.advance n)).Consistent :=
      World.step_consistent hw.consistent trivial
    rw [← hobjects]
    apply hw.decided hr hn hconsistent
    · rw [hstore, hwrote.faults, hw.faults]
    · rw [hpasses, ← hkey]
      rfl

section Decided

variable {objects : KeyMap Key MonitoringInstance} {before : List Nat} {winner n : Nat}
  {w w' : World} {r first : Racer} {stored : MonitoringInstance}

theorem Taken.stale (htaken : Taken s name r stored) (hs : Stamped s) (hw : w.Consistent)
    {key : Key} (hget : w.store.objects.get? key = some stored) {i : MonitoringInstance}
    (hi : s.objects.get? ⟨systemNamespace, name⟩ = some i) :
    Key.of i = ⟨systemNamespace, name⟩ ∧
      ∃ version, version? i = some version ∧ version ≠ (version? stored).getD "" := by
  obtain ⟨hkey, m, -, hm⟩ := hs _ i hi
  obtain ⟨-, m', -, hm'⟩ := hw.stamped _ stored hget
  refine ⟨hkey, _, hm, ?_⟩
  intro heq
  apply htaken.version i hi
  rw [hm, hm', heq, hm', Option.getD_some]

theorem Decided.set (hw : Decided s name racers objects before winner w) {e : OperatorError}
    (hr : racers[n]? = some r) (hne : n ≠ winner) (hlt : n < w.passes.length)
    (he : (n ∈ before ∧ ∃ detail, e = .conflict detail) ∨
      (n ∉ before ∧ ∃ detail, e = .invalidInput detail))
    (hconsistent : w'.Consistent) (hfaults : w'.store.faults = w.store.faults)
    (hobjects : w'.store.objects = w.store.objects)
    (hpasses : w'.passes = w.passes.set n (r.ended (.error e))) :
    Decided s name racers objects before winner w' := by
  have hself : w'.passes[n]? = some (r.ended (.error e)) := by
    rw [hpasses, List.getElem?_set_self hlt]
  have hother : ∀ k, k ≠ n → w'.passes[k]? = w.passes[k]? := by
    intro k hk
    rw [hpasses, List.getElem?_set_ne (Ne.symm hk)]
  refine ⟨hconsistent, hfaults.trans hw.faults, hobjects.trans hw.objects, fun k hk => ?_,
    fun r' hr' => ?_, fun k r' hr' hkne hk => ?_, fun k r' hr' hkne hk => ?_⟩
  · rw [hother k, hw.absent k hk]
    rintro rfl
    rw [hr] at hk
    cases hk
  · rw [hother winner (Ne.symm hne), hw.won r' hr']
  · by_cases hkn : k = n
    · subst hkn
      obtain rfl : r = r' := Option.some.inj (hr.symm.trans hr')
      rcases he with ⟨-, detail, rfl⟩ | ⟨hnot, -⟩
      · exact .inr ⟨detail, hself⟩
      · exact absurd hk hnot
    · rw [hother k hkn]
      exact hw.late k r' hr' hkne hk
  · by_cases hkn : k = n
    · subst hkn
      obtain rfl : r = r' := Option.some.inj (hr.symm.trans hr')
      rcases he with ⟨hmem, -⟩ | ⟨-, detail, rfl⟩
      · exact absurd hmem hk
      · exact .inr ⟨detail, hself⟩
    · rw [hother k hkn]
      exact hw.later k r' hr' hkne hk

theorem Decided.step (h : Race s name racers) (hs : Stamped s)
    (hw : Decided s name racers objects before winner w) (hfirst : racers[winner]? = some first)
    (hstored : objects.get? ⟨systemNamespace, name⟩ = some stored)
    (htaken : Taken s name first stored) (n : Nat) :
    Decided s name racers objects before winner (w.step (.advance n)) := by
  have hconsistent : (w.step (.advance n)).Consistent :=
    World.step_consistent hw.consistent trivial
  cases hr : racers[n]? with
  | none =>
    rw [World.step, hw.absent n hr]
    exact hw
  | some r =>
    by_cases hne : n = winner
    · obtain rfl : r = first := Option.some.inj (hr.symm.trans (hne ▸ hfirst))
      rw [hne, World.step_ended (hw.won r hfirst)]
      exact hw
    · have hmem := List.mem_of_getElem? hr
      have hkey := h.instanceKey hmem
      have hnamed : r.binding.name ≠ "" := by
        rw [h.names r hmem]
        exact h.named
      have hget : w.store.objects.get? r.binding.instanceKey = some stored := by
        rw [hw.objects, hkey, hstored]
      have hstranger : first.binding.ns ≠ r.desired.binding.ns := h.stranger hfirst hr (Ne.symm hne)
      have hstale : ∀ i, s.objects.get? ⟨systemNamespace, name⟩ = some i →
          Key.of i = r.binding.instanceKey ∧
            ∃ version, version? i = some version ∧ version ≠ (version? stored).getD "" := by
        intro i hi
        rw [hkey]
        exact htaken.stale hs hw.consistent hget hi
      by_cases hn : n ∈ before
      · rcases hw.late n r hr hne hn with hpass | ⟨detail, hpass⟩
        · obtain ⟨hpasses, hstore⟩ := Racer.step_pending hpass
          obtain ⟨⟨detail, hlost⟩, huntouched⟩ :=
            Racer.attempt_loses hw.faults hnamed hget hstale (Racer.opened _)
          rw [hlost] at hpasses
          rw [← hstore] at huntouched
          exact hw.set hr hne (List.getElem?_eq_some_iff.1 hpass).1 (.inl ⟨hn, detail, rfl⟩)
            hconsistent huntouched.faults huntouched.objects hpasses
        · rw [World.step_ended hpass]
          exact hw
      · rcases hw.later n r hr hne hn with hpass | ⟨detail, hpass⟩
        · obtain ⟨hpasses, hstore⟩ := Racer.step_fresh hpass
          rw [Reconcile.afterRead_get hw.faults, hget, r.desired.decide_stranger htaken.owner hstranger]
            at hpasses
          refine hw.set hr hne (List.getElem?_eq_some_iff.1 hpass).1 (.inr ⟨hn, _, rfl⟩) hconsistent
            ?_ ?_ hpasses
          · rw [hstore]
            rfl
          · rw [hstore]
            rfl
        · rw [World.step_ended hpass]
          exact hw

theorem Decided.run (h : Race s name racers) (hs : Stamped s)
    (hw : Decided s name racers objects before winner w) (hfirst : racers[winner]? = some first)
    (hstored : objects.get? ⟨systemNamespace, name⟩ = some stored)
    (htaken : Taken s name first stored) (schedule : List Nat) :
    Decided s name racers objects before winner (after w schedule) := by
  induction schedule generalizing w with
  | nil => exact hw
  | cons n schedule ih => exact ih (hw.step h hs hfirst hstored htaken n)

end Decided

theorem after_append (w : World) (schedule schedule' : List Nat) :
    after w (schedule ++ schedule') = after (after w schedule) schedule' := by
  rw [after, List.map_append, World.run_append]
  rfl

theorem Undecided.run (h : Race s name racers) {read : List Nat} {w : World}
    (hw : Undecided s name racers read w) (schedule : List Nat) :
    Undecided s name racers (read ++ schedule) (after w schedule) ∨
      ∃ before winner rest r stored, schedule = before ++ winner :: rest ∧
        racers[winner]? = some r ∧ winner ∈ read ++ before ∧
        (after w before).store.objects = s.objects ∧ Taken s name r stored ∧
        Decided s name racers (s.objects.insert ⟨systemNamespace, name⟩ stored) (read ++ before)
          winner (after w (before ++ [winner])) := by
  -- what has been read grows by every call that is made in vain
  induction schedule generalizing read w with
  | nil => exact .inl (by rwa [List.append_nil])
  | cons n schedule ih =>
    by_cases hwrites : ∃ r, racers[n]? = some r ∧ n ∈ read
    · obtain ⟨r, hr, hn⟩ := hwrites
      obtain ⟨stored, htaken, hdecided⟩ := hw.step_write h hr hn
      refine .inr ⟨[], n, schedule, r, stored, rfl, hr, ?_, hw.objects, htaken, ?_⟩
      · rwa [List.append_nil]
      · rw [List.append_nil]
        exact hdecided
    · have hnext : Undecided s name racers (read ++ [n]) (w.step (.advance n)) := by
        cases hr : racers[n]? with
        | none => exact hw.step_absent hr
        | some r => exact hw.step_read h hr fun hn => hwrites ⟨r, hr, hn⟩
      rcases ih hnext with hopen | ⟨before, winner, rest, r, stored, hsplit, hr, hread, hobjects, h'⟩
      · rw [List.append_assoc] at hopen
        exact .inl hopen
      · rw [List.append_assoc] at hread h'
        refine .inr ⟨n :: before, winner, rest, r, stored, ?_, hr, hread, hobjects, h'⟩
        rw [hsplit, List.cons_append]

theorem Undecided.racing (hne : racers ≠ []) {read : List Nat} {w : World}
    (hw : Undecided s name racers read w) : ∃ p ∈ w.passes, p.action? ≠ none := by
  obtain ⟨r, racers, rfl⟩ := List.exists_cons_of_ne_nil hne
  have hpass := hw.passes 0
  refine ⟨_, List.mem_of_getElem? hpass, ?_⟩
  split
  · exact r.action?_pending _
  · exact r.action?_fresh

/-- How a race ends that the pass at a place has won: by the one write there is. Who had read before
it is in conflict, who reads after it is turned away. -/
structure Won (s : Store MonitoringInstance) (name : String) (racers : List Racer)
    (before : List Nat) (winner : Nat) (rest : List Nat) : Prop where
  read : winner ∈ before
  first : (after (world s racers) before).store.objects = s.objects
  written : ∃ r stored, racers[winner]? = some r ∧ ownerNs? stored = some r.binding.ns ∧
    (after (world s racers) (before ++ [winner])).store.objects =
      s.objects.insert ⟨systemNamespace, name⟩ stored ∧
    (after (world s racers) (before ++ winner :: rest)).passes[winner]? =
      some (r.ended (.ok (Racer.opened (s.objects.get? ⟨systemNamespace, name⟩))))
  last : (after (world s racers) (before ++ winner :: rest)).store.objects =
    (after (world s racers) (before ++ [winner])).store.objects
  losers : ∀ n r, racers[n]? = some r → n ≠ winner → ∃ detail,
    (after (world s racers) (before ++ winner :: rest)).passes[n]? =
      some (r.ended (.error (if n ∈ before then .conflict detail else .invalidInput detail)))

theorem exists_won (h : Race s name racers) (hs : Stamped s) (hne : racers ≠ [])
    {schedule : List Nat}
    (hdone : ∀ p ∈ (after (world s racers) schedule).passes, p.action? = none) :
    ∃ before winner rest, schedule = before ++ winner :: rest ∧
      Won s name racers before winner rest := by
  have hbegin : Undecided s name racers [] (world s racers) := undecided_world hs h.faults
  rcases hbegin.run h schedule with
    hopen | ⟨before, winner, rest, r, stored, rfl, hr, hread, hobjects, htaken, hdecided⟩
  · obtain ⟨p, hp, hcalling⟩ := hopen.racing hne
    exact absurd (hdone p hp) hcalling
  · rw [List.nil_append] at hread hdecided
    have hstored : (s.objects.insert ⟨systemNamespace, name⟩ stored).get?
        ⟨systemNamespace, name⟩ = some stored := KeyMap.get?_insert_self _ _ _
    have hfinal := hdecided.run h hs hr hstored htaken rest
    rw [← after_append, List.append_assoc, List.singleton_append] at hfinal
    refine ⟨before, winner, rest, rfl, hread, hobjects, ?_, ?_, fun n r' hr' hn => ?_⟩
    · exact ⟨r, stored, hr, htaken.owner, hdecided.objects, hfinal.won r hr⟩
    · rw [hfinal.objects, hdecided.objects]
    · by_cases hbefore : n ∈ before
      · simp only [if_pos hbefore]
        rcases hfinal.late n r' hr' hn hbefore with hp | hp
        · exact absurd (hdone _ (List.mem_of_getElem? hp)) (r'.action?_pending _)
        · exact hp
      · simp only [if_neg hbefore]
        rcases hfinal.later n r' hr' hn hbefore with hp | hp
        · exact absurd (hdone _ (List.mem_of_getElem? hp)) r'.action?_fresh
        · exact hp

end Race

namespace World

/-- An instance has one owner for its whole life: no pass takes it from its owner, and others than the
owner leave it alone; of the passes that are out for an instance of nobody's one gets it. -/
theorem one_owner {w : World} (hw : w.Reachable) :
    (∀ n build binding rest key i owner,
      w.passes[n]? = some ⟨.reconcile build binding, rest⟩ →
      w.store.objects.get? key = some i → ownerNs? i = some owner →
      ∃ j, (w.step (.advance n)).store.objects.get? key = some j ∧ ownerNs? j = some owner ∧
        (binding.ns ≠ owner → j = i)) ∧
    (∀ key owner steps, w.Owned key owner → (∀ step ∈ steps, step.KeepsOwners) →
      w.KeepsOwner (w.run steps) key owner) ∧
    ∀ name racers schedule, Race w.store name racers → racers ≠ [] →
      (∀ p ∈ (Race.after (Race.world w.store racers) schedule).passes, p.action? = none) →
      ∃ before winner rest, schedule = before ++ winner :: rest ∧
        Race.Won w.store name racers before winner rest := by
  have hconsistent := hw.consistent
  refine ⟨?_, ?_, ?_⟩
  · intro n build binding rest key i owner hn hget howner
    exact advance_reconcile hconsistent hn hget howner
  · intro key owner steps howned hsteps
    exact run_keepsOwner hconsistent howned hsteps
  · intro name racers schedule hrace hne hdone
    exact hrace.exists_won hconsistent.stamped hne hdone

def bindingIn (ns name : String) : Binding where
  metadata := { name := some name, ns? := some ns }
  spec := {}

def racerIn (ns : String) : Racer where
  build _ := .ok {}
  binding := bindingIn ns "invoices"
  built := {}
  build_eq := rfl

def ordersOfShop : World := World.run {}
  [.insert { Reconcile.storedOrders with metadata.labels := some (Ownership.labels "orders" "shop") },
    .start (.reconcile Reconcile.twoGi (bindingIn "bazaar" "orders"))]

theorem one_owner_ordersOfShop :
    (ordersOfShop.step (.advance 0)).store.objects.get? ⟨systemNamespace, "orders"⟩ =
        ordersOfShop.store.objects.get? ⟨systemNamespace, "orders"⟩ ∧
      ordersOfShop.KeepsOwner (ordersOfShop.run [.advance 0, .advance 0])
        ⟨systemNamespace, "orders"⟩ "shop" ∧
      ∃ before winner rest, [0, 1, 1, 0, 2] = before ++ winner :: rest ∧
        Race.Won ordersOfShop.store "invoices" [racerIn "shop", racerIn "bazaar", racerIn "market"]
          before winner rest := by
  have hw : ordersOfShop.Reachable := by
    refine ⟨_, ?_, rfl⟩
    simp [Step.Lawful, Reconcile.storedOrders]
  obtain ⟨hleaves, hkeeps, hrace⟩ := one_owner hw
  refine ⟨?_, hkeeps _ _ _ ⟨_, rfl, rfl⟩ (by simp [Step.KeepsOwners]), hrace _ _ _ ?_ (by simp) ?_⟩
  · have hstored : ordersOfShop.store.objects.get? ⟨systemNamespace, "orders"⟩ = some _ := rfl
    obtain ⟨j, hget, -, hsame⟩ := hleaves 0 _ _ _ _ _ "shop" rfl hstored rfl
    rw [hget, hstored, hsame (by decide)]
  · refine ⟨rfl, by decide, by simp [racerIn, bindingIn, Binding.name, Metadata.nameOrStem],
      by decide, ?_⟩
    intro i hi
    cases hi
  · decide +kernel

end World

end MonitoringStack
