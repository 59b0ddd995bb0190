import MonitoringStack.Proofs.Dispatch.Desk
import MonitoringStack.Proofs.Reconcile.Settled
import MonitoringStack.Proofs.Store.Translation

namespace MonitoringStack

open Kube Dispatch Store

namespace Desk

def lift {α : Type} (x : StateM (Store MonitoringInstance) α) : StateM Desk α :=
  fun w => ((x w.instances).1, { w with instances := (x w.instances).2 })

def access : ResourceStore (StateM Desk) MonitoringInstance where
  get key := lift (Store.get key)
  list ns? selector := lift (Store.list ns? selector)
  create i := lift (Store.create i)
  update i := lift (Store.update i)
  delete key := lift (Store.delete key)

theorem translates_lift : Translates lift Store.access access where
  pure _ := rfl
  bind _ _ := rfl
  find _ := rfl
  list _ _ := rfl
  create _ := rfl
  update _ := rfl
  delete _ := rfl

theorem leaves_access : access.Leaves papers where
  get _ _ := ⟨rfl, trivial⟩
  create _ _ := ⟨rfl, trivial⟩
  update _ _ := ⟨rfl, trivial⟩

end Desk

/-- An environment in which nothing goes wrong: the instances are those of the desk, and every
request is met. -/
structure Environment.Prompt (env : Environment (StateM Desk)) (build : SpecBuilder) : Prop where
  timed : env.Timed
  instances : env.instances = Desk.access
  build : env.build = build
  server : ∀ r w, (env.server r w).2 = w.receive r true

namespace Environment.Prompt

variable {env : Environment (StateM Desk)} {build : SpecBuilder} (h : env.Prompt build)
include h

theorem atDesk : env.AtDesk where
  timed := h.timed
  instances := h.instances ▸ Desk.leaves_access
  server r w := ⟨true, h.server r w⟩

theorem run_eq {b : Binding} {w : Desk} {result : Except OperatorError Outcome}
    {s : Store MonitoringInstance}
    (hrun : Reconcile.run Store.access build b w.instances = (result, s)) :
    Reconcile.run env.instances env.build b w = (result, { w with instances := s }) := by
  rw [h.instances, h.build, ← Desk.translates_lift.reconcile]
  exact congrArg (fun ran => (ran.1, { w with instances := ran.2 })) hrun

end Environment.Prompt

/-- A spec that does not hang on what the status says. -/
def StatusBlind (build : SpecBuilder) : Prop := ∀ b status, build { b with status } = build b

theorem InstanceSettings.specBuilder_statusBlind (s : InstanceSettings) :
    StatusBlind s.specBuilder := fun _ _ => rfl

theorem StatusBlind.ofBinding {build : SpecBuilder} (h : StatusBlind build) (b : Binding)
    (status : Option BindingStatus) :
    Desired.ofBinding build { b with status } = Desired.ofBinding build b := by
  rw [Desired.ofBinding, h]
  rfl

/-- A pass that finds nothing to do: it reads once, and neither writes nor asks for anything. -/
structure Round.Quiet (r : Round Desk) : Prop where
  unchanged : r.reconciled = .ok .unchanged
  world : r.stop.world = { r.start.world with
    instances := r.start.world.instances.logged (.get r.turn.binding.instanceKey) }

namespace Desk.Holds

variable {sc : Scene Desk} {b : Binding} (h : sc.world.Holds b) {env : Environment (StateM Desk)}
  {build : SpecBuilder} (henv : env.Prompt build) {result : Except OperatorError Outcome}
  {s : Store MonitoringInstance}
  (hrun : Reconcile.run Store.access build b sc.world.instances = (result, s))
include h henv hrun

omit h in
theorem reconciled_prompt : (Turn.play { env, binding := b } sc).reconciled = result :=
  congrArg Prod.fst (henv.run_eq hrun)

theorem play_shown (hshows : b.Shows (dueState result) (dueMessage result)) :
    (Turn.play { env, binding := b } sc).stop.world = { sc.world with instances := s } := by
  rcases h.stop_cases henv.timed (henv.run_eq hrun) (h.of_papers_eq rfl) with
    ⟨-, hstop⟩ | ⟨hnot, -⟩
  · exact hstop
  · exact absurd hshows hnot

theorem play_prompt : (Turn.play { env, binding := b } sc).stop.world.instances = s ∧
    ∃ status, (Turn.play { env, binding := b } sc).stop.world.Holds { b with status } ∧
      { b with status }.Shows (dueState result) (dueMessage result) := by
  have hw : ({ sc.world with instances := s } : Desk).Holds b := h.of_papers_eq rfl
  rcases h.stop_cases henv.timed (henv.run_eq hrun) hw with ⟨hshows, hstop⟩ | ⟨-, now, hstop⟩
  · rw [hstop]
    exact ⟨rfl, b.status, hw, hshows⟩
  · rw [henv.server] at hstop
    rw [hstop]
    exact ⟨rfl, _, hw.receive_true _ _ now, ⟨_, rfl, rfl, rfl⟩⟩

end Desk.Holds

namespace Scene

variable {sc : Scene Desk} {b : Binding} {build : SpecBuilder} {d : Desired}
  {envs : List (Environment (StateM Desk))}

/-- Once the instance is settled and the status says that it is, nothing happens any more. -/
theorem watch_quiet (hd : Desired.ofBinding build b = .ok d)
    (henvs : ∀ env ∈ envs, env.Prompt build) (h : sc.world.Holds b)
    (hsettled : d.Settled sc.world.instances) (hshows : b.Shows .unchanged none) :
    ∀ r ∈ sc.watch envs, r.Quiet ∧ r.stop.world.Shows .unchanged none := by
  induction envs generalizing sc with
  | nil => exact fun _ hr => absurd hr List.not_mem_nil
  | cons env envs ih =>
    obtain ⟨henv, hrest⟩ := List.forall_mem_cons.1 henvs
    have hrun := hsettled.run hd
    have hstop := h.play_shown henv hrun hshows
    have hholds : (Turn.play { env, binding := b } sc).stop.world.Holds b :=
      h.of_papers_eq (hstop ▸ rfl)
    -- of the world only the log of the reads has changed, so the next pass begins as this one did
    rw [h.watch_cons, List.forall_mem_cons]
    refine ⟨⟨⟨Desk.Holds.reconciled_prompt henv hrun, ?_⟩, hholds.shows_iff.2 hshows⟩, ?_⟩
    · rw [hstop, Desired.instanceKey_eq hd]
      rfl
    · refine ih hrest hholds ?_
      rw [hstop]
      exact hsettled.logged _

theorem watch_truthful (h : sc.world.Holds b) (henvs : ∀ env ∈ envs, env.AtDesk) :
    (sc.watch envs).length = envs.length ∧ ∀ r ∈ sc.watch envs, r.Truthful := by
  induction envs generalizing sc b with
  | nil => exact ⟨rfl, fun _ hr => absurd hr List.not_mem_nil⟩
  | cons env envs ih =>
    obtain ⟨henv, hrest⟩ := List.forall_mem_cons.1 henvs
    obtain ⟨htruthful, status, hholds⟩ := h.play_truthful henv
    obtain ⟨hlength, hrounds⟩ := ih hholds hrest
    rw [h.watch_cons]
    exact ⟨congrArg (· + 1) hlength, List.forall_mem_cons.2 ⟨htruthful, hrounds⟩⟩

theorem watch_settled (hd : Desired.ofBinding build b = .ok d) (hblind : StatusBlind build)
    (henvs : ∀ env ∈ envs, env.Prompt build) (h : sc.world.Holds b)
    (hsettled : d.Settled sc.world.instances) {n : Nat} {r : Round Desk}
    (hr : (sc.watch envs)[n]? = some r) :
    r.reconciled = .ok .unchanged ∧ r.stop.world.Shows .unchanged none ∧ (0 < n → r.Quiet) := by
  cases envs with
  | nil => cases hr
  | cons env envs =>
    obtain ⟨henv, hrest⟩ := List.forall_mem_cons.1 henvs
    have hrun := hsettled.run hd
    obtain ⟨hinstances, status, hholds, hshows⟩ := h.play_prompt henv hrun
    rw [h.watch_cons] at hr
    cases n with
    | zero =>
      cases hr
      exact ⟨Desk.Holds.reconciled_prompt henv hrun, hholds.shows_iff.2 hshows, nofun⟩
    | succ n =>
      -- this pass found the instance as it should be, and left a status that says so
      have hquiet := watch_quiet ((hblind.ofBinding b status).trans hd) hrest hholds
        (hinstances ▸ hsettled.logged _) hshows r (List.mem_of_getElem? hr)
      exact ⟨hquiet.1.unchanged, hquiet.2, fun _ => hquiet.1⟩

theorem watch_prompt (hblind : StatusBlind build) (henvs : ∀ env ∈ envs, env.Prompt build)
    (h : sc.world.Holds b) (hf : sc.world.instances.faults = [])
    (hown : ∀ key i, sc.world.instances.objects.get? key = some i → Key.of i = key)
    {outcome : Outcome}
    (hok : (Reconcile.run Store.access build b sc.world.instances).1 = .ok outcome) {n : Nat}
    {r : Round Desk} (hr : (sc.watch envs)[n]? = some r) :
    (∃ outcome, r.reconciled = .ok outcome ∧ r.stop.world.Shows outcome.state none) ∧
      (0 < n → r.reconciled = .ok .unchanged) ∧ (1 < n → r.Quiet) := by
  rcases hrun : Reconcile.run Store.access build b sc.world.instances with ⟨result, s⟩
  rw [hrun] at hok
  obtain rfl : result = .ok outcome := hok
  obtain ⟨d, hd⟩ := Reconcile.ofBinding_of_run hrun
  have hsettled : d.Settled s := .of_run hd hf hown hrun
  cases envs with
  | nil => cases hr
  | cons env envs =>
    obtain ⟨henv, hrest⟩ := List.forall_mem_cons.1 henvs
    obtain ⟨hinstances, status, hholds, hshows⟩ := h.play_prompt henv hrun
    rw [h.watch_cons] at hr
    cases n with
    | zero =>
      cases hr
      have hreconciled := Desk.Holds.reconciled_prompt henv hrun
      exact ⟨⟨outcome, hreconciled, hholds.shows_iff.2 hshows⟩, nofun, nofun⟩
    | succ n =>
      -- whatever the first pass did, it left the instance settled
      obtain ⟨hunchanged, hshown, hquiet⟩ := watch_settled ((hblind.ofBinding b status).trans hd)
        hblind hrest hholds (hinstances ▸ hsettled) hr
      exact ⟨⟨.unchanged, hunchanged, hshown⟩, fun _ => hunchanged,
        fun hn => hquiet (Nat.lt_of_succ_lt_succ hn)⟩

/-- The status says after every pass how the pass went, and nothing is written that it says already.
Where nothing goes wrong, the second pass finds the instance as it should be, and from the third one
on nothing is written at all. -/
theorem watch_settles (h : sc.world.Holds b) :
    (∀ envs, (∀ env ∈ envs, env.AtDesk) →
      (sc.watch envs).length = envs.length ∧ ∀ r ∈ sc.watch envs, r.Truthful) ∧
    ∀ build envs outcome, StatusBlind build → (∀ env ∈ envs, env.Prompt build) →
      sc.world.instances.faults = [] →
      (∀ key i, sc.world.instances.objects.get? key = some i → Key.of i = key) →
      (Reconcile.run Store.access build b sc.world.instances).1 = .ok outcome →
      (sc.watch envs).length = envs.length ∧ ∀ n r, (sc.watch envs)[n]? = some r →
        (∃ outcome, r.reconciled = .ok outcome ∧ r.stop.world.Shows outcome.state none) ∧
        (0 < n → r.reconciled = .ok .unchanged) ∧ (1 < n → r.Quiet) := by
  refine ⟨fun envs henvs => watch_truthful h henvs, ?_⟩
  intro build envs outcome hblind henvs hf hown hok
  have hlength := (watch_truthful h fun env henv => (henvs env henv).atDesk).1
  exact ⟨hlength, fun n r hr => watch_prompt hblind henvs h hf hown hok hr⟩

end Scene

section Samples

def ordersDocument : Json := .object [("apiVersion", .string (apiGroup ++ "/" ++ apiVersionName)),
  ("kind", .string "Binding"),
  ("metadata", .object [("finalizers", Wire.strings [bindingFinalizer]),
    ("name", .string "orders"), ("namespace", .string "shop")]),
  ("spec", .object []),
  ("status", .object [("message", .string "etcd timeout"), ("state", .string "Failed")])]

def ordersDesk : Scene Desk where
  world := {
    document := ordersDocument
    status := ⟨"/apis/" ++ apiGroup ++ "/" ++ apiVersionName ++
      "/namespaces/shop/bindings/orders/status", ""⟩ }

def ordersBinding : Binding :=
  { finalizedOrders "shop" with
    status := some { state := .failed, message := some "etcd timeout" } }

theorem sorted_ordersDocument : ordersDocument.Sorted := by
  have hmetadata : (Json.object [("finalizers", Wire.strings [bindingFinalizer]),
      ("name", .string "orders"), ("namespace", .string "shop")]).Sorted := by
    rw [Json.sorted_object, Entries.sorted_iff_keys]
    simp only [List.forall_mem_cons]
    exact ⟨by decide, ⟨trivial, trivial⟩, trivial, trivial, nofun⟩
  have hstatus : (Json.object [("message", .string "etcd timeout"),
      ("state", .string "Failed")]).Sorted := by
    rw [Json.sorted_object, Entries.sorted_iff_keys]
    simp only [List.forall_mem_cons]
    exact ⟨by decide, trivial, trivial, nofun⟩
  rw [ordersDocument, Json.sorted_object, Entries.sorted_iff_keys]
  simp only [List.forall_mem_cons]
  exact ⟨by decide, trivial, trivial, hmetadata, ⟨List.Pairwise.nil, trivial⟩, hstatus, nofun⟩

theorem ordersDesk_holds : ordersDesk.world.Holds ordersBinding :=
  ⟨sorted_ordersDocument, ⟨_, rfl⟩, rfl, ⟨by decide, List.mem_singleton_self _, rfl⟩, by decide,
    by decide +kernel⟩

def exampleOrg : SpecBuilder := { platformUri := "example.org" : InstanceSettings }.specBuilder

def Environment.obliging (store : ResourceStore (StateM Desk) MonitoringInstance) :
    Environment (StateM Desk) where
  instances := store
  server r w := (.ok ⟨200, "\x7b\x7d"⟩, w.receive r true)
  build := exampleOrg
  elapsed := pure 0
  now := pure newYear

def unreachable : ResourceStore (StateM Desk) MonitoringInstance where
  get _ := pure (.error (.unavailable "no leader"))
  list _ _ := pure (.error (.unavailable "no leader"))
  create _ := pure (.error (.unavailable "no leader"))
  update _ := pure (.error (.unavailable "no leader"))
  delete _ := pure (.error (.unavailable "no leader"))

theorem obliging_prompt : (Environment.obliging Desk.access).Prompt exampleOrg where
  timed := ⟨fun _ => rfl, fun _ => rfl⟩
  instances := rfl
  build := rfl
  server _ _ := rfl

theorem obliging_atDesk : (Environment.obliging unreachable).AtDesk where
  timed := ⟨fun _ => rfl, fun _ => rfl⟩
  instances := ⟨fun _ _ => ⟨rfl, trivial⟩, fun _ _ => ⟨rfl, trivial⟩, fun _ _ => ⟨rfl, trivial⟩⟩
  server _ _ := ⟨true, rfl⟩

def Round.status (r : Round Desk) : Option (InstanceState × Option String) × Nat :=
  ((r.stop.world.binding?.bind (·.status)).map fun s => (s.state, s.message),
    r.stop.world.requests.length)

theorem watch_settles_ordersDesk :
    let outage := ordersDesk.watch [.obliging unreachable, .obliging unreachable,
      .obliging Desk.access]
    let calm := ordersDesk.watch (List.replicate 3 (.obliging Desk.access))
    let text := "Store error: Resource store unavailable: no leader"
    outage.map Round.status = [(some (.failed, some text), 1), (some (.failed, some text), 1),
      (some (.created, none), 2)] ∧
    (∀ r ∈ outage, r.Truthful) ∧
    calm.length = 3 ∧ ∀ n r, calm[n]? = some r →
      (∃ outcome, r.reconciled = .ok outcome ∧ r.stop.world.Shows outcome.state none) ∧
      (0 < n → r.reconciled = .ok .unchanged) ∧ (1 < n → r.Quiet) := by
  obtain ⟨htruthful, hsettles⟩ := Scene.watch_settles ordersDesk_holds
  have hown : ∀ key i, ordersDesk.world.instances.objects.get? key = some i → Key.of i = key := by
    intro key i hget
    cases hget
  have hok : (Reconcile.run Store.access exampleOrg ordersBinding
      ordersDesk.world.instances).1 = .ok .created := rfl
  have hcalm := hsettles exampleOrg (List.replicate 3 (.obliging Desk.access)) .created
    (InstanceSettings.specBuilder_statusBlind _)
    (fun env henv => List.eq_of_mem_replicate henv ▸ obliging_prompt) rfl hown hok
  refine ⟨by decide +kernel, ?_, hcalm⟩
  refine (htruthful _ ?_).2
  simp [obliging_atDesk, obliging_prompt.atDesk]

end Samples

end MonitoringStack
