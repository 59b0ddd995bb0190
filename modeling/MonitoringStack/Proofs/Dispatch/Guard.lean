import MonitoringStack.Proofs.Dispatch.Deletions
import MonitoringStack.Proofs.Dispatch.Site

namespace MonitoringStack

open Kube Dispatch Ownership

/-- An environment that works at a site. Any request may fail, whether or not it was met. -/
structure Environment.OverSite (env : Environment (StateM Site)) : Prop where
  instances : env.instances = Site.access
  timed : env.Timed
  server : ∀ r w, Site.Answers r w (env.server r w).2

namespace Site

variable {b c : Binding} {w w' : Site}

section Held

theorem held_congr (h : b.key = c.key) : w.held b = w.held c := by
  obtain ⟨hns, hname⟩ := Key.mk.inj h
  rw [held, held, Binding.path?, Binding.path?, hns, hname]

theorem held_of_finalizers_eq (h : w'.finalizers = w.finalizers) : w'.held c = w.held c := by
  rw [held, held, h]

theorem held_hold {path : String} (held : List String) (h : c.path? ≠ some path) :
    (w.hold path held).held c = w.held c := by
  unfold Site.held Site.hold
  cases hpath : c.path? with
  | none => rfl
  | some p =>
    have hne : p ≠ path := fun heq => h (heq ▸ hpath)
    exact if_neg hne

theorem held_hold_self {path : String} (held : List String) (h : c.path? = some path) :
    (w.hold path held).held c = held := by
  rw [Site.held, h]
  exact if_pos rfl

end Held

section Requests

variable {r : Request}

theorem Answers.of_status (h : Answers r w w') (hr : IsStatusPatch b r) : w' = w := by
  obtain ⟨status, hpatch⟩ := hr
  cases h with
  | kept => rfl
  | patched type =>
    rw [hpatch.contentType] at type
    exact absurd type (by decide)
  | beyond unknown => exact absurd (.without hpatch.contentType hpatch.body rfl) unknown

theorem Answers.of_patch {steps : List PatchStep} {body : Json} (h : Answers r w w')
    (hr : IsPatch b b.name "" jsonPatchType body r) (hsteps : PatchStep.list? body = some steps)
    (hwithin : ∀ step ∈ steps, step.Within) :
    w' = w ∨ ∃ path before after, b.path? = some path ∧
      steps.foldlM PatchStep.take? before = some after ∧ w' = w.hold path after := by
  have hpath : b.path? = some r.target.path := by
    rw [Binding.path?, ← String.append_empty (s := collection Binding (some b.ns) ++ "/" ++ b.name),
      hr.target]
    rfl
  cases h with
  | kept => exact .inl rfl
  | @patched body' steps' held _ body_eq steps_eq taken =>
    obtain rfl : body = body' := Option.some.inj (hr.body.symm.trans body_eq)
    obtain rfl : steps = steps' := Option.some.inj (hsteps.symm.trans steps_eq)
    exact .inr ⟨_, _, held, hpath, taken, rfl⟩
  | beyond unknown => exact absurd (.within hr.contentType hr.body hsteps hwithin) unknown

variable {env : Environment (StateM Site)} (henv : env.OverSite)
include henv

theorem asked_status (h : Asked env (IsStatusPatch b) w w') : w' = w := by
  cases h with
  | nothing => rfl
  | request hr => exact (henv.server _ w).of_status hr

theorem asked_adding {finalizers : List String}
    (h : Asked env (IsPatch b b.name "" jsonPatchType (addFinalizerPatch finalizers)) w w') :
    w' = w ∨ ∃ path held, bindingFinalizer ∈ held ∧ w' = w.hold path held := by
  cases h with
  | nothing => exact .inl rfl
  | request hr =>
    obtain ⟨steps, hsteps, hwithin, htaken⟩ := PatchStep.list?_addFinalizerPatch finalizers
    rcases (henv.server _ w).of_patch hr hsteps hwithin with
      heq | ⟨path, before, after, -, hafter, heq⟩
    · exact .inl heq
    · exact .inr ⟨path, after, htaken before after hafter, heq⟩

theorem asked_removing {index : Nat}
    (h : Asked env (IsPatch b b.name "" jsonPatchType (removeFinalizerPatch index)) w w') :
    w' = w ∨ ∃ path held, b.path? = some path ∧ w' = w.hold path held := by
  cases h with
  | nothing => exact .inl rfl
  | request hr =>
    obtain ⟨steps, hsteps, hwithin⟩ := PatchStep.list?_removeFinalizerPatch index
    rcases (henv.server _ w).of_patch hr hsteps hwithin with heq | ⟨path, -, after, hpath, -, heq⟩
    · exact .inl heq
    · exact .inr ⟨path, after, hpath, heq⟩

end Requests

/-- Takes the JSON patches that can be taken. -/
def obey (w : Site) (r : Request) : Site :=
  match (r.body.bind PatchStep.list?).bind (·.foldlM PatchStep.take? (w.finalizers r.target.path))
  with
  | some held => if r.contentType = some jsonPatchType then w.hold r.target.path held else w
  | none => w

theorem answers_obey (w : Site) (r : Request) : Answers r w (w.obey r) := by
  unfold obey
  split
  · rename_i held h
    obtain ⟨steps, hread, htaken⟩ := Option.bind_eq_some_iff.1 h
    obtain ⟨body, hbody, hsteps⟩ := Option.bind_eq_some_iff.1 hread
    split
    · rename_i htype
      exact .patched htype hbody hsteps htaken
    · exact .kept
  · exact .kept

end Site

/-- What a pass over a binding may do to the instances: make or change them for a binding that is
live, and then for that binding; take away none but those of a binding that is to go, and what the
names of those lead to. -/
structure Tended (b : Binding) (s s' : Store MonitoringInstance) : Prop where
  makes : ¬ b.Live → (∀ key i, s'.objects.get? key = some i → s.objects.get? key = some i) ∧
    ∃ calls, s'.calls = s.calls ++ calls ∧ ∀ call ∈ calls, call.op ≠ .create ∧ call.op ≠ .update
  labels : b.ns ≠ "" → b.name ≠ "" → ∀ key i, s'.objects.get? key = some i →
    s.objects.get? key ≠ some i → owner? i = some b.key
  spares : b.metadata.deletionTimestamp ≠ none → ∀ key i, s.objects.get? key = some i →
    (∀ l j, s.objects.get? l = some j → owner? j = some b.key → j.address ≠ key) →
      s'.objects.get? key = some i

namespace Tended

variable {b : Binding} {s : Store MonitoringInstance}

theorem refl (b : Binding) (s : Store MonitoringInstance) : Tended b s s where
  makes _ := ⟨fun _ _ hget => hget, [], by simp, by simp⟩
  labels _ _ _ _ hget hnew := absurd hget hnew
  spares _ _ _ hget _ := hget

theorem reconcile (hlive : b.Live) (build : SpecBuilder) (s : Store MonitoringInstance) :
    Tended b s (Reconcile.run Store.access build b s).2 where
  makes hdead := absurd hlive hdead
  labels hns hname _ _ hget hnew := (Reconcile.run_written build hns hname s).owned hget hnew
  spares hgoes := absurd hlive.stays hgoes

theorem deleteOwned (b : Binding) (s : Store MonitoringInstance) :
    Tended b s (Cleanup.deleteOwned Store.access b.name b.ns s).2 := by
  have hclears := Cleanup.deleteOwned_clears (s := s) b.name b.ns
  refine ⟨fun _ => ⟨hclears.subset, ?_⟩, ?_, fun _ => hclears.spares⟩
  · obtain ⟨calls, hcalls, hops⟩ := hclears.calls
    refine ⟨calls, hcalls, fun call hcall => ?_⟩
    rcases hops call hcall with hop | hop <;> simp [hop]
  · intro _ _ key i hget hnew
    exact absurd (hclears.subset key i hget) hnew

end Tended

/-- What is known of a binding `c` that loses the finalizer in a pass over `b`: it is `b` itself, to
the API server at least, which has been cleaned up. Only strays of its instances are left. -/
structure Released (b c : Binding) (w w' : Site) : Prop where
  place : c.path? = b.path?
  same : b.Named → c.Named → c.key = b.key
  leaving : b.Leaving
  cleaned : ∃ deleted, w.cleaned b = .ok deleted
  cleared : w.instances.Honest → ∀ key i, w'.instances.objects.get? key = some i →
    owner? i = some b.key → i.address ≠ key

structure Guarded (b : Binding) (w w' : Site) : Prop where
  instances : Tended b w.instances w'.instances
  releases : ∀ c : Binding, bindingFinalizer ∈ w.held c → bindingFinalizer ∉ w'.held c →
    Released b c w w'
  keeps : ∀ e, b.Leaving → w.cleaned b = .error e → w'.finalizers = w.finalizers

/-- Every instance of a binding that stands where its own names lead to has the binding's finalizer
to go with it. -/
def Site.Covered (w : Site) : Prop :=
  ∀ b : Binding, b.Named → ∀ key i, w.instances.objects.get? key = some i → i.address = key →
    owner? i = some b.key → bindingFinalizer ∈ w.held b

namespace Guarded

variable {b : Binding} {w w' : Site} {env : Environment (StateM Site)}

theorem of_finalizers_eq (hinstances : Tended b w.instances w'.instances)
    (h : w'.finalizers = w.finalizers) : Guarded b w w' where
  instances := hinstances
  releases _ hheld hlost := absurd (Site.held_of_finalizers_eq h ▸ hheld) hlost
  keeps _ _ _ := h

section Courses

variable (henv : env.OverSite)
include henv

theorem of_releases {index : Nat} {deleted : Nat} (leaving : b.Leaving)
    (ok : w.cleaned b = .ok deleted)
    (asked : Asked env (IsPatch b b.name "" jsonPatchType (removeFinalizerPatch index))
      (w.swept b) w') : Guarded b w w' := by
  have hclears := Cleanup.deleteOwned_clears (s := w.instances) b.name b.ns
  have htended := Tended.deleteOwned b w.instances
  rcases Site.asked_removing henv asked with rfl | ⟨path, held, hpath, rfl⟩
  · exact of_finalizers_eq htended rfl
  · refine ⟨htended, fun c hheld hlost => ?_, ?_⟩
    · -- the patch went to one path, and a binding that lost the finalizer is kept there
      have hcpath : c.path? = some path := by
        by_contra hne
        rw [Site.held_hold held hne] at hlost
        exact hlost hheld
      refine ⟨hcpath.trans hpath.symm, fun hb hc => Binding.key_of_path? hc hb hcpath hpath,
        leaving, ⟨deleted, ok⟩, ?_⟩
      rintro hhonest key i hget howner rfl
      have hgone := hclears.clears deleted ok hhonest _ i (hclears.subset _ i hget) howner
      cases hgone.symm.trans hget
    · intro e _ herror
      rw [ok] at herror
      cases herror

theorem of_course (h : Course env b w w') : Guarded b w w' := by
  cases h with
  | rests => exact of_finalizers_eq (.refl b w.instances) rfl
  | joins unfinalized asked =>
    rcases Site.asked_adding henv asked with rfl | ⟨path, held, hmem, rfl⟩
    · exact of_finalizers_eq (.refl b _) rfl
    · refine ⟨.refl b w.instances, ?_, ?_⟩
      · intro c hheld hlost
        by_cases hpath : c.path? = some path
        · rw [Site.held_hold_self held hpath] at hlost
          exact absurd hmem hlost
        · rw [Site.held_hold held hpath] at hlost
          exact absurd hheld hlost
      · intro e leaving _
        exact absurd leaving.finalized unfinalized
  | applies live asked =>
    obtain rfl := Site.asked_status henv asked
    rw [Site.applyPart_snd w b henv.instances]
    exact of_finalizers_eq (.reconcile live env.build w.instances) rfl
  | fails leaving error =>
    rw [Site.cleanupPart_eq w b henv.instances]
    exact of_finalizers_eq (.deleteOwned b w.instances) rfl
  | releases leaving ok asked =>
    rw [Site.cleanupPart_eq w b henv.instances] at ok asked
    obtain ⟨deleted, hdeleted⟩ : ∃ deleted, w.cleaned b = .ok deleted := by
      cases hcleaned : w.cleaned b with
      | ok deleted => exact ⟨deleted, rfl⟩
      | error e =>
        rw [hcleaned] at ok
        cases ok
    exact of_releases henv leaving hdeleted asked

end Courses

/-- A binding gets an instance only with the finalizer on it, and loses the finalizer only without
an instance. -/
theorem covered (h : Guarded b w w') (hb : b.Named)
    (current : b.metadata.finalizers.getD [] = w.held b) (honest : w.instances.Honest)
    (hw : w.Covered) : w'.Covered := by
  intro c hc key i hget haddress howner
  by_contra hlost
  have hheld : bindingFinalizer ∈ w.held c := by
    by_cases hold : w.instances.objects.get? key = some i
    · exact hw c hc key i hold haddress howner
    · have hkey : c.key = b.key := by
        have hlabels := h.instances.labels hb.ns hb.name key i hget hold
        rw [howner] at hlabels
        exact Option.some.inj hlabels
      have hlive : b.Live := by
        by_contra hdead
        exact hold ((h.instances.makes hdead).1 key i hget)
      rw [Site.held_congr hkey, ← current]
      exact hlive.finalized
  have hreleased := h.releases c hheld hlost
  rw [hreleased.same hb hc] at howner
  exact hreleased.cleared honest key i hget howner haddress

end Guarded

namespace Round

def Guards (r : Round Site) : Prop := Guarded r.turn.binding r.start.world r.stop.world

/-- The pass was over a binding as it stood at the API server, and deletions told the truth. -/
structure Current (r : Round Site) : Prop where
  named : r.turn.binding.Named
  finalizers : r.turn.binding.metadata.finalizers.getD [] = r.start.world.held r.turn.binding
  honest : r.start.world.instances.Honest

end Round

theorem Turn.guards {t : Turn Site} (h : t.env.OverSite) (sc : Scene Site) : (t.play sc).Guards := by
  rw [Round.Guards, t.play_world]
  exact Guarded.of_course h (pass_course h.timed _ _)

namespace Scene

/-- No instance is made without its binding's finalizer, and none outlives it that stands where its
own names lead to. -/
theorem guards_finalizer (sc : Scene Site) {turns : List (Turn Site)}
    (hturns : ∀ t ∈ turns, t.env.OverSite) :
    (∀ r ∈ sc.rounds turns, r.Guards) ∧
      (sc.world.Covered → (∀ t ∈ turns, ∀ w : Site, w.Covered → (t.meanwhile w).Covered) →
        (∀ r ∈ sc.rounds turns, r.Current) →
        ∀ r ∈ sc.rounds turns, r.stop.world.Covered) := by
  induction turns generalizing sc with
  | nil => simp [rounds]
  | cons t turns ih =>
    obtain ⟨ht, hrest⟩ := List.forall_mem_cons.1 hturns
    have hguards := Turn.guards ht sc
    obtain ⟨hrounds, hcovered⟩ := ih (t.play sc).stop hrest
    refine ⟨List.forall_mem_cons.2 ⟨hguards, hrounds⟩, fun hsc' hmeanwhile hcurrent => ?_⟩
    obtain ⟨hfirst, hmeanwhile⟩ := List.forall_mem_cons.1 hmeanwhile
    obtain ⟨hnow, hcurrent⟩ := List.forall_mem_cons.1 hcurrent
    have hstop : (t.play sc).stop.world.Covered :=
      hguards.covered hnow.named hnow.finalizers hnow.honest (hfirst _ hsc')
    exact List.forall_mem_cons.2 ⟨hstop, hcovered hstop hmeanwhile hcurrent⟩

/-- A site at which patches are taken and the answers to them are lost. -/
def losing : Environment (StateM Site) where
  instances := Site.access
  server r w := (.ok ⟨503, ""⟩, w.obey r)
  build _ := .ok {}
  elapsed := pure 0
  now := pure newYear

theorem losing_overSite : losing.OverSite where
  instances := rfl
  timed := ⟨fun _ => rfl, fun _ => rfl⟩
  server r w := w.answers_obey r

/-- A pass over a binding with other faults than before. -/
def faulty (b : Binding) (faults : List (FaultTarget × Fault)) : Turn Site where
  env := losing
  binding := b
  meanwhile w := { w with instances.faults := faults }

theorem named_of_eq {b : Binding} (hns : b.ns = "shop") (hname : b.name = "orders") : b.Named :=
  ⟨by simp [hns], by simp [hname], by simp [hns], by simp [hname]⟩

/-- A binding is given the finalizer and an instance, is to go, can be cleaned up at the second
attempt only, and is released. -/
def comeAndGo : List (Binding × List (FaultTarget × Fault)) :=
  [({ finalizedOrders "shop" with metadata.finalizers := none }, []),
    (finalizedOrders "shop", []),
    (leaving, [(⟨.delete, none⟩, .unavailable "etcd timeout")]),
    (leaving, [])]

def nothingYet : Scene Site where
  world := {}

theorem guards_finalizer_comeAndGo :
    let rounds := nothingYet.rounds (comeAndGo.map fun p => faulty p.1 p.2)
    rounds.map (fun r => r.stop.world.held leaving) =
        [[bindingFinalizer], [bindingFinalizer], [bindingFinalizer], []] ∧
      rounds.map (fun r => r.stop.world.instances.objects.size) = [0, 1, 1, 0] ∧
      (∀ r ∈ rounds, r.Guards) ∧ ∀ r ∈ rounds, r.stop.world.Covered := by
  intro rounds
  have hturns : ∀ t ∈ comeAndGo.map fun p => faulty p.1 p.2, t.env.OverSite :=
    List.forall_mem_map.2 fun _ _ => losing_overSite
  have hmeanwhile : ∀ t ∈ comeAndGo.map fun p => faulty p.1 p.2,
      ∀ w : Site, w.Covered → (t.meanwhile w).Covered :=
    List.forall_mem_map.2 fun _ _ _ hw => hw
  have hcovered : nothingYet.world.Covered := by
    intro b _ key i hget
    cases (KeyMap.get?_empty key).symm.trans hget
  have hruns : (∀ r ∈ rounds, (r.turn.binding.ns = "shop" ∧ r.turn.binding.name = "orders") ∧
      r.turn.binding.metadata.finalizers.getD [] = r.start.world.held r.turn.binding ∧
        ∀ f ∈ r.start.world.instances.faults, f.2 ≠ .notFound) ∧
      rounds.map (fun r => r.stop.world.held leaving) =
        [[bindingFinalizer], [bindingFinalizer], [bindingFinalizer], []] ∧
      rounds.map (fun r => r.stop.world.instances.objects.size) = [0, 1, 1, 0] := by
    decide +kernel
  obtain ⟨hcurrent, hheld, hsizes⟩ := hruns
  have hcurrent : ∀ r ∈ rounds, r.Current := by
    intro r hr
    obtain ⟨⟨hns, hname⟩, hfinalizers, hfaults⟩ := hcurrent r hr
    exact ⟨named_of_eq hns hname, hfinalizers, Store.honest_of_faults hfaults⟩
  obtain ⟨hguards, hcovers⟩ := guards_finalizer nothingYet hturns
  exact ⟨hheld, hsizes, hguards, hcovers hcovered hmeanwhile hcurrent⟩

/-- An instance of the binding that is to go. Its name is left to be made from the binding's. -/
def strayOrders : MonitoringInstance where
  metadata := {
    ns? := some systemNamespace
    generateName := some "orders"
    labels := some (Ownership.labels "orders" "shop") }
  spec := {}

def besideStray : Scene Site where
  world.instances.objects := .ofList [(⟨systemNamespace, ""⟩, strayOrders),
    (⟨systemNamespace, "orders"⟩, Cleanup.ordersIn systemNamespace "bazaar")]
  world.finalizers _ := [bindingFinalizer]

/-- The stray stays behind when its binding's finalizer goes, and in its stead the instance of
another binding is deleted. -/
theorem stray_outlives_finalizer :
    let r := (faulty leaving []).play besideStray
    r.Current ∧ r.start.world.held leaving = [bindingFinalizer] ∧ r.stop.world.held leaving = [] ∧
      owner? strayOrders = some leaving.key ∧
      r.stop.world.instances.objects.get? ⟨systemNamespace, ""⟩ = some strayOrders ∧
      owner? (Cleanup.ordersIn systemNamespace "bazaar") = some ⟨"bazaar", "orders"⟩ ∧
      r.start.world.instances.objects.get? ⟨systemNamespace, "orders"⟩ =
        some (Cleanup.ordersIn systemNamespace "bazaar") ∧
      r.stop.world.instances.objects.get? ⟨systemNamespace, "orders"⟩ = none :=
  ⟨⟨named_of_eq rfl rfl, by decide +kernel, Store.honest_of_faults fun _ => nofun⟩,
    by decide +kernel, by decide +kernel, rfl, rfl, rfl, rfl, rfl⟩

end Scene

end MonitoringStack
