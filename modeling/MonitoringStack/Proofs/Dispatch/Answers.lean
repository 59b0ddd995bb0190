import MonitoringStack.Proofs.Cleanup.Answers
import MonitoringStack.Proofs.Dispatch.Deletions
import MonitoringStack.Proofs.Dispatch.Streak
import MonitoringStack.Proofs.Reconcile.Answers

namespace MonitoringStack

open Kube

namespace Dispatch

variable {σ : Type}

section Parts

def applyProgram (build : SpecBuilder) (b : Binding) : Program (Except OperatorError Work) := do
  return (← Reconcile.run Program.access build b).map .applied

def cleanupProgram (b : Binding) : Program (Except OperatorError Work) := do
  return (← Cleanup.deleteOwned Program.access b.name b.ns).map .cleaned

/-- The part of a pass at the store, as calls to be made. -/
def program? (build : SpecBuilder) (b : Binding) : Option (Program (Except OperatorError Work)) :=
  if b.metadata.ns? = none then none
  else match finalizerIndex? b, b.metadata.deletionTimestamp with
  | some _, none => some (applyProgram build b)
  | some _, some _ => if b.metadata.name = none then none else some (cleanupProgram b)
  | none, _ => none

variable (env : Environment (StateM σ)) (b : Binding)

theorem applyPart_eq_through :
    applyPart env b = (applyProgram env.build b).through env.instances := by
  have htranslates := Program.translates_through env.instances
  rw [applyProgram, htranslates.bind, htranslates.reconcile]
  rfl

theorem cleanupPart_eq_through : cleanupPart env b = (cleanupProgram b).through env.instances := by
  have htranslates := Program.translates_through env.instances
  rw [cleanupProgram, htranslates.bind, htranslates.deleteOwned]
  rfl

theorem storePart?_eq_through :
    storePart? env b = (program? env.build b).map fun p => p.through env.instances := by
  rw [storePart?, program?, applyPart_eq_through, cleanupPart_eq_through]
  by_cases hns : b.metadata.ns? = none
  · rw [if_pos hns, if_pos hns]
    rfl
  · rw [if_neg hns, if_neg hns]
    cases finalizerIndex? b with
    | none => rfl
    | some index =>
      cases b.metadata.deletionTimestamp with
      | none => rfl
      | some deleted => cases b.metadata.name <;> rfl

/-- The calls of a pass that reach the API server, with the answers to them. -/
def talk (w : σ) : List Answered :=
  match program? env.build b with
  | none => []
  | some p => p.talk env.server w

theorem program?_cases {build : SpecBuilder} {b : Binding} {p : Program (Except OperatorError Work)}
    (h : program? build b = some p) : p = applyProgram build b ∨ p = cleanupProgram b := by
  rw [program?] at h
  split at h
  · cases h
  · split at h
    · exact .inl (Option.some.inj h).symm
    · split at h
      · cases h
      · exact .inr (Option.some.inj h).symm
    · cases h

variable {env} {b}

theorem talk_cases (hstore : env.instances = Cluster.access env.server) {w : σ}
    {calls : List Answered} (h : talk env b w = calls) (hcalls : calls ≠ []) :
    ∃ x, storePart? env b = some x ∧
      (((Reconcile.run Program.access env.build b).talk env.server w = calls ∧ (x w).1 =
        ((Reconcile.run Program.access env.build b).outcome env.server w).map .applied) ∨
      ((Cleanup.deleteOwned Program.access b.name b.ns).talk env.server w = calls ∧ (x w).1 =
        ((Cleanup.deleteOwned Program.access b.name b.ns).outcome env.server w).map .cleaned)) := by
  have hpart := storePart?_eq_through env b
  rw [talk] at h
  cases hprogram : program? env.build b with
  | none =>
    rw [hprogram] at h
    exact absurd h.symm hcalls
  | some p =>
    rw [hprogram] at h hpart
    refine ⟨_, hpart, ?_⟩
    rw [hstore]
    rcases program?_cases hprogram with rfl | rfl
    · exact .inl ⟨(Program.talk_map _ _ w).symm.trans h, Program.outcome_map _ _ w⟩
    · exact .inr ⟨(Program.talk_map _ _ w).symm.trans h, Program.outcome_map _ _ w⟩

end Parts

section Failures

variable {env : Environment (StateM σ)} {b : Binding} {s : OperatorState} {w : σ}
  {x : StateM σ (Except OperatorError Work)} {e : OperatorError}

theorem run_fails (hpart : storePart? env b = some x) (herror : (x w).1 = .error e) :
    ∃ e', e'.root = e.root ∧ (run env b s w).1 =
      (((errorPolicy b e s).1, some e'), (errorPolicy b e s).2) := by
  have hpassed := pass_passed (b := b) env.leaves_nothing s w
  have hrun := run_eq env b s w
  rcases hpass : pass env b s w with ⟨⟨result, s'⟩, w'⟩
  rw [hpass] at hpassed hrun
  cases hpassed with
  | idle part =>
    rw [hpart] at part
    cases part
  | done part ok =>
    rw [hpart] at part
    cases part
    rw [herror] at ok
    cases ok
  | @failed _ _ e' _ part error root =>
    rw [hpart] at part
    cases part
    rw [herror] at error
    cases error
    have hkind : e'.kind = e.kind := congrArg OperatorError.label root
    have hpolicy : errorPolicy b e' s = errorPolicy b e s := by
      rw [errorPolicy, errorPolicy, retryAction, retryAction, root, hkind]
    refine ⟨e', root, ?_⟩
    rw [hrun]
    dsimp only
    rw [hpolicy]

end Failures

/-- The operator after a pass, with the time of the next one and the error, if any. -/
abbrev Ending := (Action × Option OperatorError) × OperatorState

section Endings

variable (b : Binding) (s : OperatorState) (root : OperatorError) (ending : Ending)

/-- The pass fails, at bottom for one reason. There is one more error of its kind, and nothing else
is measured. -/
structure FailsWith : Prop where
  error : ∃ e, ending.1.2 = some e ∧ e.root = root
  counted : ∀ kind, (ending.2.metrics.errors.get? kind).getD 0 =
    (s.metrics.errors.get? kind).getD 0 + if kind = root.kind then 1 else 0
  rest : ending.2.metrics = { s.metrics with errors := ending.2.metrics.errors }

/-- The next pass is soon, and not because of this one any later. -/
def Hurries : Prop := ending.1.1 = .requeue 5 ∧ ending.2.tracker = s.tracker

/-- The binding has one failure more, and no other binding has. The next pass waits the longer the
more failures in a row there were. -/
structure BacksOff : Prop where
  counted : ending.2.tracker.errorCount (bindingKey b) = s.tracker.errorCount (bindingKey b) + 1
  waits : ∀ n, s.tracker.failures (bindingKey b) = .after n →
    ending.1.1 = .requeue (.ofNat (60 * min 10 (Nat.fib (n + 1))))
  advances : ∀ n, s.tracker.failures (bindingKey b) = .after n →
    ending.2.tracker.failures (bindingKey b) = .after (n + 1)
  others : ∀ key, key ≠ bindingKey b → ending.2.tracker.failures key = s.tracker.failures key

/-- A clash is a conflict, and all else is a failure of the store. -/
def Blames (e : ClientError) : Prop :=
  (e.Clashes → ∃ detail, FailsWith s (.conflict detail) ending ∧ Hurries s ending) ∧
    (¬ e.Clashes → ∃ cause, FailsWith s (.store cause) ending ∧ BacksOff b s ending)

def LeavesOff (deleted : Nat) : Prop :=
  ∃ remaining cause, FailsWith s (.partialFailure b.name deleted remaining cause) ending ∧
    BacksOff b s ending

end Endings

section Policy

variable {b : Binding} {s : OperatorState} {e : OperatorError}

theorem failsWith_errorPolicy {e' : OperatorError} (hroot : e'.root = e) :
    FailsWith s e (((errorPolicy b e s).1, some e'), (errorPolicy b e s).2) where
  error := ⟨e', rfl, hroot⟩
  counted := by
    intro kind
    change ((Metrics.increment s.metrics.errors e.kind).get? kind).getD 0 = _
    rw [Metrics.increment, KeyMap.get?_insert]
    split
    · next h =>
      rw [h]
      rfl
    · exact (UInt64.add_zero _).symm
  rest := rfl

theorem backsOff_errorPolicy (h : e.backsOff = true) (error? : Option OperatorError) :
    BacksOff b s (((errorPolicy b e s).1, error?), (errorPolicy b e s).2) where
  counted := by
    change (retryAction e (bindingKey b) s.tracker).2.errorCount _ = _
    rw [retryAction_of_backsOff _ _ h, BackoffTracker.errorCount_nextDelay]
  waits _ hn := (errorPolicy_after hn).2 h
  advances n hn := by
    have hafter := (errorPolicy_after (e := e) hn).1
    rwa [h] at hafter
  others _ hne := failures_errorPolicy_of_ne hne

end Policy

section Blame

variable {env : Environment (StateM σ)} {b : Binding} {s : OperatorState} {w : σ}
  {x : StateM σ (Except OperatorError Work)} {e : ClientError}

theorem blames (what : String) (hpart : storePart? env b = some x)
    (herror : (x w).1 = .error (.ofStoreError (.ofClientError what e))) :
    Blames b s (run env b s w).1 e := by
  obtain ⟨e', hroot, hrun⟩ := run_fails (s := s) hpart herror
  rw [hrun]
  constructor
  · intro h
    obtain ⟨detail, hdetail⟩ := StoreError.ofClientError_clashes what h
    rw [hdetail] at hroot ⊢
    exact ⟨detail, failsWith_errorPolicy hroot, rfl, rfl⟩
  · intro h
    obtain ⟨cause, hcause⟩ := StoreError.ofStoreError_ofClientError what h
    rw [hcause] at hroot ⊢
    exact ⟨cause, failsWith_errorPolicy hroot, backsOff_errorPolicy rfl _⟩

theorem leavesOff {deleted remaining : Nat} {cause : StoreError} (hpart : storePart? env b = some x)
    (herror : (x w).1 = .error (.partialFailure b.name deleted remaining cause)) :
    LeavesOff b s (run env b s w).1 deleted := by
  obtain ⟨e', hroot, hrun⟩ := run_fails (s := s) hpart herror
  rw [hrun]
  exact ⟨remaining, cause, failsWith_errorPolicy hroot, backsOff_errorPolicy rfl _⟩

end Blame

section Answers

variable {env : Environment (StateM σ)} {b : Binding} {s : OperatorState} {w : σ}
  {before after : List Answered} {call : Answered} {e : ClientError}

variable (env b w) in
/-- All that is left of the pass is to create its instance. -/
def GoesOnCreating (after : List Answered) : Prop :=
  ∃ d answer, Desired.ofBinding env.build b = .ok d ∧ after = [⟨.create d.newInstance, answer⟩] ∧
    ∀ i, answer = .ok i → work? env b w = some (.applied .created)

variable (env b w) in
/-- The pass goes on with the next of the instances that it listed, if there is one. -/
def GoesOnDeleting (before after : List Answered) : Prop :=
  ∃ (instances : List MonitoringInstance) (deleting : List Answered),
    before = ⟨.list none (Cleanup.selectOwned b.name b.ns), .ok instances⟩ :: deleting ∧
    after.head?.map (·.action) =
      instances[deleting.length + 1]?.map (fun i => .delete i.address) ∧
    (after = [] → work? env b w = some (.cleaned (Cleanup.deletions before)))

theorem work?_of_part {x : StateM σ (Except OperatorError Work)} {work : Work}
    (hpart : storePart? env b = some x) (hok : (x w).1 = .ok work) : work? env b w = some work := by
  rw [work?, hpart, Option.bind_some, hok]
  rfl

variable (env b s w) in
def Decides (before after : List Answered) (e : ClientError) : StoreAction → Prop
  | .get _ => (e.Missing → GoesOnCreating env b w after) ∧
      (¬ e.Missing → after = [] ∧ Blames b s (run env b s w).1 e)
  | .create _ | .update _ | .list .. => after = [] ∧ Blames b s (run env b s w).1 e
  | .delete _ => (e.Missing → GoesOnDeleting env b w before after) ∧
      (¬ e.Missing → after = [] ∧
        (Cleanup.deletions before = 0 → Blames b s (run env b s w).1 e) ∧
        (0 < Cleanup.deletions before →
          LeavesOff b s (run env b s w).1 (Cleanup.deletions before)))

theorem decides_of_apply {x : StateM σ (Except OperatorError Work)}
    (hpart : storePart? env b = some x)
    (hresult : (x w).1 =
      ((Reconcile.run Program.access env.build b).outcome env.server w).map .applied)
    (h : (Reconcile.run Program.access env.build b).talk env.server w = before ++ call :: after)
    (he : call.error? = some e) : Decides env b s w before after e call.action := by
  generalize haction : call.action = action
  obtain ⟨d, hd, hstands⟩ := Reconcile.run_answers h he
  rw [haction] at hstands
  cases hstands with
  | creates missing next created =>
    refine ⟨fun _ => ⟨d, _, hd, next, fun i hi => work?_of_part hpart ?_⟩,
      fun h => absurd missing h⟩
    rw [hresult, created i hi]
    rfl
  | unread refused last fails =>
    rw [fails] at hresult
    exact ⟨fun h => absurd h refused, fun _ => ⟨last, blames _ hpart hresult⟩⟩
  | unwritten write last fails =>
    rw [fails] at hresult
    have hblames : Blames b s (run env b s w).1 e := blames _ hpart hresult
    rcases write with rfl | rfl
    · exact ⟨last, hblames⟩
    · exact ⟨last, hblames⟩

theorem decides_of_cleanup {x : StateM σ (Except OperatorError Work)}
    (hpart : storePart? env b = some x)
    (hresult : (x w).1 =
      ((Cleanup.deleteOwned Program.access b.name b.ns).outcome env.server w).map .cleaned)
    (h : (Cleanup.deleteOwned Program.access b.name b.ns).talk env.server w =
      before ++ call :: after)
    (he : call.error? = some e) : Decides env b s w before after e call.action := by
  rcases Cleanup.deleteOwned_answers h he with
    ⟨⟨haction, hlast⟩, what, hfails⟩ | ⟨instances, deleting, rfl, ⟨i, -, haction⟩, hstands⟩
  · rw [hfails] at hresult
    rw [haction]
    exact ⟨hlast, blames _ hpart hresult⟩
  · have hcount : Cleanup.deletions
        (⟨.list none (Cleanup.selectOwned b.name b.ns), .ok instances⟩ :: deleting) =
          Cleanup.deletions deleting := rfl
    rw [haction]
    cases hstands with
    | skips missing next completes =>
      refine ⟨fun _ => ⟨instances, deleting, rfl, next, fun hlast => work?_of_part hpart ?_⟩,
        fun h => absurd missing h⟩
      rw [hresult, completes hlast, Nat.zero_add, hcount]
      rfl
    | ends refused last stops =>
      obtain ⟨what, hstops⟩ := stops
      rw [hstops, Nat.zero_add, ← hcount, Cleanup.stopped] at hresult
      refine ⟨fun h => absurd h refused, fun _ => ⟨last, fun hnone => ?_, fun hsome => ?_⟩⟩
      · rw [if_pos hnone] at hresult
        exact blames _ hpart hresult
      · rw [if_neg (Nat.ne_of_gt hsome)] at hresult
        exact leavesOff hpart hresult

/-- However the API server refuses a call, the pass goes on as it should or ends with an error that
blames the right thing. -/
theorem answers_decide (hstore : env.instances = Cluster.access env.server) (s : OperatorState)
    (h : talk env b w = before ++ call :: after) (he : call.error? = some e) :
    Decides env b s w before after e call.action := by
  obtain ⟨x, hpart, ⟨htalk, hresult⟩ | ⟨htalk, hresult⟩⟩ := talk_cases hstore h (by simp)
  · exact decides_of_apply hpart hresult htalk he
  · exact decides_of_cleanup hpart hresult htalk he

end Answers

section Samples

def bareItem (place : String) : Json :=
  .object [("metadata", .object [("namespace", .string place), ("name", .string "orders")]),
    ("spec", .object [])]

/-- Lists two instances, deletes the first and holds on to the second. -/
def grudging : Server (StateM Nat) := fun _ answered =>
  let reply : Reply := match answered with
    | 0 => ⟨200, (Json.object [("items", .array [bareItem "a", bareItem "b"])]).text⟩
    | 1 => ⟨200, (Json.object [("kind", .string "Status")]).text⟩
    | _ => ⟨409, ""⟩
  (.ok reply, answered + 1)

def overGrudging : Environment (StateM Nat) where
  instances := Cluster.access grudging
  server := grudging
  build _ := .ok {}
  elapsed := pure 0
  now := pure newYear

/-- A call, whether it deleted an instance, and how it was refused. -/
def inShort (x : Answered) : Option StoreCall × Bool × Option Nat :=
  (x.action.note?, x.Deletes, x.error?.map fun
    | .api f => f.code
    | _ => 0)

theorem answers_decide_grudging :
    LeavesOff Scene.leaving {} (run overGrudging Scene.leaving {} 0).1 1 := by
  have hstore : overGrudging.instances = Cluster.access overGrudging.server := rfl
  have hresults : (talk overGrudging Scene.leaving 0).map inShort =
      [(some (.list none (Cleanup.selectOwned "orders" "shop").query), false, none),
        (some (.delete ⟨"a", "orders"⟩), true, none),
        (some (.delete ⟨"b", "orders"⟩), false, some 409)] := by
    decide +kernel
  obtain ⟨list, rest, hcalls, hlist, hrest⟩ := List.map_eq_cons_iff.1 hresults
  obtain ⟨first, rest, rfl, hfirst, hrest⟩ := List.map_eq_cons_iff.1 hrest
  obtain ⟨second, rest, rfl, hsecond, hrest⟩ := List.map_eq_cons_iff.1 hrest
  obtain rfl := List.map_eq_nil_iff.1 hrest
  have hdeletions : Cleanup.deletions [list, first] = 1 := by
    simp only [inShort, Prod.mk.injEq] at hlist hfirst
    simp [Cleanup.deletions, hlist.2.1, hfirst.2.1]
  simp only [inShort, Prod.mk.injEq] at hsecond
  obtain ⟨hnote, -, hcode⟩ := hsecond
  obtain ⟨e, he, hcode⟩ := Option.map_eq_some_iff.1 hcode
  have hrefused : ¬ e.Missing := by
    rintro ⟨f, rfl, hmissing⟩
    cases hmissing.symm.trans hcode
  have hsplit : talk overGrudging Scene.leaving 0 = [list, first] ++ second :: [] := hcalls
  have hdecides := answers_decide hstore {} hsplit he
  cases haction : second.action with
  | delete key =>
    rw [haction] at hdecides
    obtain ⟨-, -, hleaves⟩ := hdecides.2 hrefused
    rw [hdeletions] at hleaves
    exact hleaves Nat.one_pos
  | get | list =>
    rw [haction] at hnote
    cases hnote
  | create i | update i =>
    rw [haction, StoreAction.note?] at hnote
    cases Cluster.identity i <;> simp [Except.toOption] at hnote

end Samples

end Dispatch

end MonitoringStack
