import MonitoringStack.Operator.Dispatch

namespace MonitoringStack

open Kube

inductive Work where
  | applied (outcome : Outcome)
  | cleaned (deleted : Nat)
deriving DecidableEq

def OperatorState.record (s : OperatorState) (key : String) (elapsed : Milliseconds) :
    Work → OperatorState
  | .applied outcome => {
      metrics := s.metrics.recordReconcile outcome.name elapsed
      tracker := s.tracker.reset key }
  | .cleaned deleted => {
      metrics := s.metrics.recordCleanup (UInt64.ofNat deleted) elapsed
      tracker := s.tracker.reset key }

/-- Errors of passes that do not come from the store. -/
inductive OperatorError.Outside : OperatorError → Prop
  | unplaced (detail : String) : Outside (.invalidInput detail)
  | status (e : ClientError) : Outside (.finalizer (.applyFailed (.kube e)))
  | unnamed : Outside (.finalizer .unnamedObject)
  | adding (e : ClientError) : Outside (.finalizer (.addFinalizer e))
  | removing (e : ClientError) : Outside (.finalizer (.removeFinalizer e))

/-- A part of a pass that leaves what is seen of the world as it is, and what it returns. -/
def Unseen {σ β α : Type} (view : σ → β) (P : α → Prop) (x : StateM σ α) : Prop :=
  ∀ w, view (x w).2 = view w ∧ P (x w).1

namespace Unseen

variable {σ β α γ : Type} {view : σ → β} {P : α → Prop} {Q : γ → Prop}

theorem pure {a : α} (h : P a) : Unseen view P (Pure.pure a : StateM σ α) := fun _ => ⟨rfl, h⟩

theorem bind {x : StateM σ α} {f : α → StateM σ γ} (hx : Unseen view P x)
    (hf : ∀ a, P a → Unseen view Q (f a)) : Unseen view Q (x >>= f) := by
  intro w
  obtain ⟨hview, hP⟩ := hx w
  obtain ⟨hview', hQ⟩ := hf _ hP (x w).2
  exact ⟨hview'.trans hview, hQ⟩

end Unseen

/-- Apart from its store, an environment leaves what is seen of the world as it is. -/
structure Environment.Leaves {σ β : Type} (env : Environment (StateM σ)) (view : σ → β) : Prop where
  server : ∀ request, Unseen view (fun _ => True) (env.server request)
  elapsed : Unseen view (fun _ => True) env.elapsed
  now : Unseen view (fun _ => True) env.now

namespace Dispatch

section Apply

variable {σ α γ : Type} (f : α → StateT OperatorState (StateM σ) γ) (s : OperatorState) (w : σ)

theorem bind_apply (x : StateT OperatorState (StateM σ) α) :
    (x >>= f) s w = f (x s w).1.1 (x s w).1.2 (x s w).2 := rfl

theorem liftM_bind_apply (x : StateM σ α) :
    ((liftM x : StateT OperatorState (StateM σ) α) >>= f) s w = f (x w).1 s (x w).2 := rfl

theorem modify_bind_apply (g : OperatorState → OperatorState)
    (f : PUnit → StateT OperatorState (StateM σ) γ) :
    ((modify g : StateT OperatorState (StateM σ) PUnit) >>= f) s w = f ⟨⟩ (g s) w := rfl

end Apply

variable {σ β : Type} (env : Environment (StateM σ)) (b : Binding)

def applyPart : StateM σ (Except OperatorError Work) := do
  return (← Reconcile.run env.instances env.build b).map .applied

def cleanupPart : StateM σ (Except OperatorError Work) := do
  return (← Cleanup.deleteOwned env.instances b.name b.ns).map .cleaned

/-- The part of a pass at the store, if the pass comes to it. -/
def storePart? : Option (StateM σ (Except OperatorError Work)) :=
  if b.metadata.ns? = none then none
  else match finalizerIndex? b, b.metadata.deletionTimestamp with
  | some _, none => some (applyPart env b)
  | some _, some _ => if b.metadata.name = none then none else some (cleanupPart env b)
  | none, _ => none

def work? (w : σ) : Option Work := (storePart? env b).bind fun x => (x w).1.toOption

/-- What becomes of a pass: its result, the operator's state and the world after it. -/
inductive Passed (view : σ → β) (s : OperatorState) (w : σ) :
    (Except OperatorError Action × OperatorState) × σ → Prop
  | idle {result : Except OperatorError Action} {w' : σ} (part : storePart? env b = none)
      (outside : ∀ e, result = .error e → e.Outside) (leaves : view w' = view w) :
      Passed view s w ((result, s), w')
  | failed {x : StateM σ (Except OperatorError Work)} {e e' : OperatorError} {w' : σ}
      (part : storePart? env b = some x) (error : (x w).1 = .error e)
      (root : e'.root = e.root) (leaves : view w' = view (x w).2) :
      Passed view s w ((.error e', s), w')
  | done {x : StateM σ (Except OperatorError Work)} {work : Work} {elapsed : Milliseconds}
      {result : Except OperatorError Action} {w' : σ} (part : storePart? env b = some x)
      (ok : (x w).1 = .ok work) (outside : ∀ e, result = .error e → e.Outside)
      (leaves : view w' = view (x w).2) :
      Passed view s w ((result, s.record (bindingKey b) elapsed work), w')

namespace Passed

variable {env} {b} {view : σ → β} {s s' : OperatorState} {w w' : σ}
  {result : Except OperatorError Action}

theorem tracker (h : Passed env b view s w ((result, s'), w')) :
    s'.tracker = if (work? env b w).isSome then s.tracker.reset (bindingKey b) else s.tracker := by
  cases h with
  | idle part => simp [work?, part]
  | failed part error => simp [work?, part, error, Except.toOption]
  | @done x work elapsed result w' part ok =>
    have hwork : work? env b w = some work := by simp [work?, part, ok, Except.toOption]
    rw [hwork]
    cases work <;> rfl

end Passed

variable {env} {view : σ → β} (henv : env.Leaves view)
include henv

theorem unseen_patch (name part contentType : String) (body : Json) :
    Unseen view (fun _ => True) (patch env b name part contentType body) := by
  unfold patch sendNamed send
  split
  · exact .pure trivial
  · cases Http.Target.read? (collection Binding (some b.ns) ++ "/" ++ name ++ part ++ "?") with
    | none => exact .pure trivial
    | some target => exact .bind (henv.server _) fun _ _ => .pure trivial

theorem unseen_patchStatus (state : InstanceState) (message : Option String) :
    Unseen view (fun result => ∀ e, result = .error e → ∃ c, e = .kube c)
      (patchStatus env b state message) := by
  refine .bind henv.now fun now _ => ?_
  split
  · exact .pure (by simp)
  · refine .bind (unseen_patch b henv _ _ _ _) fun reply _ => ?_
    cases reply with
    | ok => exact .pure (by simp)
    | error c => exact .pure (by simp)

theorem apply_cases (s : OperatorState) (w : σ) :
    (∃ e w', (applyPart env b w).1 = .error e ∧ apply env b s w = ((.error e, s), w') ∧
      view w' = view (applyPart env b w).2) ∨
    ∃ work elapsed result w', (applyPart env b w).1 = .ok work ∧
      apply env b s w = ((result, s.record (bindingKey b) elapsed work), w') ∧
      (∀ e, result = .error e → ∃ c, e = .kube c) ∧ view w' = view (applyPart env b w).2 := by
  have hpart : applyPart env b w = ((Reconcile.run env.instances env.build b w).1.map .applied,
      (Reconcile.run env.instances env.build b w).2) := rfl
  rw [apply, liftM_bind_apply, hpart]
  rcases Reconcile.run env.instances env.build b w with ⟨reply, w₁⟩
  cases reply with
  | error e =>
    -- whether the status could be written plays no part
    obtain ⟨hview, -⟩ := unseen_patchStatus b henv .failed (some e.text) w₁
    exact .inl ⟨e, _, rfl, rfl, hview⟩
  | ok outcome =>
    obtain ⟨hview, -⟩ := henv.elapsed w₁
    obtain ⟨hview', hkube⟩ :=
      unseen_patchStatus b henv outcome.state none (env.elapsed w₁).2
    rcases hpatch : patchStatus env b outcome.state none (env.elapsed w₁).2 with ⟨patched, w₂⟩
    rw [hpatch] at hview' hkube
    refine .inr ⟨.applied outcome, (env.elapsed w₁).1,
      patched.map fun _ => .requeue resyncDelay, w₂, rfl, ?_, ?_, hview'.trans hview⟩
    · dsimp only
      rw [liftM_bind_apply, modify_bind_apply, liftM_bind_apply, hpatch]
      cases patched <;> rfl
    · cases patched with
      | ok => exact nofun
      | error e =>
        rintro _ ⟨⟩
        exact hkube e rfl

theorem cleanup_cases (s : OperatorState) (w : σ) :
    (∃ e, (cleanupPart env b w).1 = .error e ∧
      cleanup env b s w = ((.error e, s), (cleanupPart env b w).2)) ∨
    ∃ work elapsed w', (cleanupPart env b w).1 = .ok work ∧
      cleanup env b s w = ((.ok .awaitChange, s.record (bindingKey b) elapsed work), w') ∧
      view w' = view (cleanupPart env b w).2 := by
  have hpart : cleanupPart env b w =
      ((Cleanup.deleteOwned env.instances b.name b.ns w).1.map .cleaned,
        (Cleanup.deleteOwned env.instances b.name b.ns w).2) := rfl
  rw [cleanup, liftM_bind_apply, hpart]
  rcases Cleanup.deleteOwned env.instances b.name b.ns w with ⟨reply, w₁⟩
  cases reply with
  | error e => exact .inl ⟨e, rfl, rfl⟩
  | ok deleted =>
    obtain ⟨hview, -⟩ := henv.elapsed w₁
    refine .inr ⟨.cleaned deleted, (env.elapsed w₁).1, (env.elapsed w₁).2, rfl, ?_, hview⟩
    dsimp only
    rw [liftM_bind_apply, modify_bind_apply]
    rfl

section Branches

variable {b} {s : OperatorState} {w : σ}

omit henv in
theorem pass_eq (hns : b.metadata.ns? ≠ none) : pass env b s w =
    (((withFinalizer env b s w).1.1.mapError .finalizer, (withFinalizer env b s w).1.2),
      (withFinalizer env b s w).2) := by
  cases hns' : b.metadata.ns? with
  | none => exact absurd hns' hns
  | some ns =>
    rw [pass, hns']
    dsimp only
    rw [bind_apply]
    rcases withFinalizer env b s w with ⟨⟨result, s'⟩, w'⟩
    cases result <;> rfl

theorem passed_apply {index : Nat} (hns : b.metadata.ns? ≠ none)
    (hindex : finalizerIndex? b = some index) (hstays : b.metadata.deletionTimestamp = none) :
    Passed env b view s w (pass env b s w) := by
  have hpart : storePart? env b = some (applyPart env b) := by
    rw [storePart?, if_neg hns, hindex, hstays]
  rw [pass_eq hns, withFinalizer, hindex, hstays]
  dsimp only
  rw [bind_apply]
  rcases apply_cases b henv s w with
    ⟨e, w', herror, hrun, hview⟩ | ⟨work, elapsed, result, w', hok, hrun, hkube, hview⟩
  · rw [hrun]
    exact .failed hpart herror rfl hview
  · rw [hrun]
    cases result with
    | ok action => exact .done hpart hok nofun hview
    | error e =>
      obtain ⟨c, rfl⟩ := hkube e rfl
      refine .done hpart hok ?_ hview
      rintro _ ⟨⟩
      exact .status c

theorem passed_cleanup {index : Nat} {deleted : Timestamp} (hns : b.metadata.ns? ≠ none)
    (hindex : finalizerIndex? b = some index) (hgoes : b.metadata.deletionTimestamp = some deleted) :
    Passed env b view s w (pass env b s w) := by
  rw [pass_eq hns, withFinalizer, hindex, hgoes]
  dsimp only
  cases hname : b.metadata.name with
  | none =>
    have hpart : storePart? env b = none := by
      rw [storePart?, if_neg hns, hindex, hgoes]
      simp [hname]
    refine .idle hpart ?_ rfl
    rintro _ ⟨⟩
    exact .unnamed
  | some name =>
    have hpart : storePart? env b = some (cleanupPart env b) := by
      rw [storePart?, if_neg hns, hindex, hgoes]
      simp [hname]
    dsimp only
    rw [bind_apply]
    rcases cleanup_cases b henv s w with
      ⟨e, herror, hrun⟩ | ⟨work, elapsed, w', hok, hrun, hview⟩
    · rw [hrun]
      exact .failed hpart herror rfl rfl
    · rw [hrun]
      dsimp only
      rw [liftM_bind_apply]
      obtain ⟨hview', -⟩ :=
        unseen_patch b henv name "" jsonPatchType (removeFinalizerPatch index) w'
      rcases hpatch : patch env b name "" jsonPatchType (removeFinalizerPatch index) w'
        with ⟨patched, w₂⟩
      rw [hpatch] at hview'
      cases patched with
      | ok => exact .done hpart hok nofun (hview'.trans hview)
      | error c =>
        refine .done hpart hok ?_ (hview'.trans hview)
        rintro _ ⟨⟩
        exact .removing c

theorem passed_unfinalized (hns : b.metadata.ns? ≠ none) (hindex : finalizerIndex? b = none) :
    Passed env b view s w (pass env b s w) := by
  have hpart : storePart? env b = none := by
    rw [storePart?, if_neg hns, hindex]
  rw [pass_eq hns, withFinalizer, hindex]
  cases hdeleted : b.metadata.deletionTimestamp with
  | some deleted => exact .idle hpart nofun rfl
  | none =>
    dsimp only
    cases hname : b.metadata.name with
    | none =>
      refine .idle hpart ?_ rfl
      rintro _ ⟨⟩
      exact .unnamed
    | some name =>
      dsimp only
      rw [liftM_bind_apply]
      obtain ⟨hview, -⟩ := unseen_patch b henv name "" jsonPatchType
        (addFinalizerPatch (b.metadata.finalizers.getD [])) w
      rcases hpatch : patch env b name "" jsonPatchType
        (addFinalizerPatch (b.metadata.finalizers.getD [])) w with ⟨patched, w'⟩
      rw [hpatch] at hview
      cases patched with
      | ok => exact .idle hpart nofun hview
      | error c =>
        refine .idle hpart ?_ hview
        rintro _ ⟨⟩
        exact .adding c

end Branches

/-- A pass changes the operator's state only when its part at the store goes through. -/
theorem pass_passed (s : OperatorState) (w : σ) :
    Passed env b view s w (pass env b s w) := by
  by_cases hns : b.metadata.ns? = none
  · have hpart : storePart? env b = none := by rw [storePart?, if_pos hns]
    have hpass : pass env b s w =
        ((.error (.invalidInput ("Binding " ++ b.name ++ " has no namespace")), s), w) := by
      rw [pass, hns]
      rfl
    rw [hpass]
    refine .idle hpart ?_ rfl
    rintro _ ⟨⟩
    exact .unplaced _
  · cases hindex : finalizerIndex? b with
    | none => exact passed_unfinalized henv hns hindex
    | some index =>
      cases hdeleted : b.metadata.deletionTimestamp with
      | none => exact passed_apply henv hns hindex hdeleted
      | some deleted => exact passed_cleanup henv hns hindex hdeleted

end Dispatch

end MonitoringStack
