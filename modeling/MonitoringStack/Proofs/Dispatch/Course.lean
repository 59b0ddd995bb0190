import MonitoringStack.Proofs.Cleanup.Batch
import MonitoringStack.Proofs.Dispatch.Pass

namespace MonitoringStack

open Kube

namespace Binding

def Finalized (b : Binding) : Prop := bindingFinalizer ∈ b.metadata.finalizers.getD []

/-- The binding is to stay, and its instance is to be brought about. -/
structure Live (b : Binding) : Prop where
  placed : b.metadata.ns? ≠ none
  finalized : b.Finalized
  stays : b.metadata.deletionTimestamp = none

/-- The binding is to go, once its instances are gone. -/
structure Leaving (b : Binding) : Prop where
  placed : b.metadata.ns? ≠ none
  finalized : b.Finalized
  goes : b.metadata.deletionTimestamp ≠ none

end Binding

structure Environment.Timed {σ : Type} (env : Environment (StateM σ)) : Prop where
  elapsed : ∀ w, (env.elapsed w).2 = w
  now : ∀ w, (env.now w).2 = w

namespace Dispatch

theorem finalized_of_index {b : Binding} {index : Nat} (h : finalizerIndex? b = some index) :
    b.Finalized := by
  obtain ⟨hlt, hat, -⟩ := List.findIdx?_eq_some_iff_getElem.1 h
  have hfinalizer : (b.metadata.finalizers.getD [])[index] = bindingFinalizer := of_decide_eq_true hat
  rw [Binding.Finalized, ← hfinalizer]
  exact List.getElem_mem hlt

theorem not_finalized_of_index {b : Binding} (h : finalizerIndex? b = none) : ¬ b.Finalized := by
  intro hmem
  exact absurd rfl (of_decide_eq_false (List.findIdx?_eq_none_iff.1 h _ hmem))

structure IsPatch (b : Binding) (name part contentType : String) (body : Json) (r : Request) :
    Prop where
  target : Http.Target.read? (collection Binding (some b.ns) ++ "/" ++ name ++ part ++ "?") =
    some r.target
  method : r.method = "PATCH"
  contentType : r.contentType = some contentType
  body : r.body = some body

def IsStatusPatch (b : Binding) (r : Request) : Prop :=
  ∃ status, IsPatch b b.name "/status" mergePatchType (.object [("status", status)]) r

variable {σ : Type}

/-- The world after at most one request, of a kind. -/
inductive Asked (env : Environment (StateM σ)) (P : Request → Prop) (w : σ) : σ → Prop
  | nothing : Asked env P w w
  | request {r : Request} (h : P r) : Asked env P w (env.server r w).2

theorem Asked.imp {env : Environment (StateM σ)} {P Q : Request → Prop} {w w' : σ}
    (h : Asked env P w w') (hPQ : ∀ r, P r → Q r) : Asked env Q w w' := by
  cases h with
  | nothing => exact .nothing
  | request h => exact .request (hPQ _ h)

/-- The world after a pass, by what the pass came to. -/
inductive Course (env : Environment (StateM σ)) (b : Binding) (w : σ) : σ → Prop
  | rests : Course env b w w
  | joins {w' : σ} (unfinalized : ¬ b.Finalized) (asked : Asked env (IsPatch b b.name "" jsonPatchType
      (addFinalizerPatch (b.metadata.finalizers.getD []))) w w') : Course env b w w'
  | applies {w' : σ} (live : b.Live)
      (asked : Asked env (IsStatusPatch b) (applyPart env b w).2 w') : Course env b w w'
  | fails {e : OperatorError} (leaving : b.Leaving) (error : (cleanupPart env b w).1 = .error e) :
      Course env b w (cleanupPart env b w).2
  | releases {work : Work} {index : Nat} {w' : σ} (leaving : b.Leaving)
      (ok : (cleanupPart env b w).1 = .ok work)
      (asked : Asked env (IsPatch b b.name "" jsonPatchType (removeFinalizerPatch index))
        (cleanupPart env b w).2 w') : Course env b w w'

def dueState : Except OperatorError Outcome → InstanceState
  | .ok outcome => outcome.state
  | .error _ => .failed

def dueMessage : Except OperatorError Outcome → Option String
  | .ok _ => none
  | .error e => some e.text

section Parts

variable {env : Environment (StateM σ)} {b : Binding} {w : σ}

theorem asked_patch (name part contentType : String) (body : Json) (w : σ) :
    Asked env (IsPatch b name part contentType body) w
      (patch env b name part contentType body w).2 := by
  unfold patch sendNamed
  split
  · exact .nothing
  · unfold send
    cases htarget :
        Http.Target.read? (collection Binding (some b.ns) ++ "/" ++ name ++ part ++ "?") with
    | none => exact .nothing
    | some target =>
      have hpatch : IsPatch b name part contentType body
          { method := "PATCH", target, contentType := some contentType, body := some body } :=
        ⟨htarget, rfl, rfl, rfl⟩
      exact .request hpatch

theorem statusPatch_object {now : Timestamp} {instanceName : String} {state : InstanceState}
    {message : Option String} {body : Json}
    (h : statusPatch now b instanceName state message = some body) :
    ∃ status, body = .object [("status", status)] := by
  unfold statusPatch at h
  split at h
  · cases h
  · exact ⟨_, (Option.some.inj h).symm⟩

variable (htimed : env.Timed)
include htimed

theorem asked_patchStatus (state : InstanceState) (message : Option String) (w : σ) :
    Asked env (IsStatusPatch b) w (patchStatus env b state message w).2 := by
  rw [patchStatus, MonitoringStack.bind_apply, htimed.now]
  cases hbody : statusPatch (env.now w).1 b b.name state message with
  | none => exact .nothing
  | some body =>
    obtain ⟨status, rfl⟩ := statusPatch_object hbody
    have hasked : Asked env (IsStatusPatch b) w _ :=
      (asked_patch b.name "/status" mergePatchType (.object [("status", status)]) w).imp
        fun _ h => ⟨status, h⟩
    dsimp only
    rw [MonitoringStack.bind_apply]
    rcases hpatch : patch env b b.name "/status" mergePatchType (.object [("status", status)]) w
      with ⟨reply, w'⟩
    rw [hpatch] at hasked
    -- how the request was answered plays no part
    cases reply <;> exact hasked

theorem apply_world (s : OperatorState) (w : σ) : (apply env b s w).2 =
    (patchStatus env b (dueState (Reconcile.run env.instances env.build b w).1)
      (dueMessage (Reconcile.run env.instances env.build b w).1)
      (Reconcile.run env.instances env.build b w).2).2 := by
  rw [apply, liftM_bind_apply]
  rcases Reconcile.run env.instances env.build b w with ⟨result, w₁⟩
  cases result with
  | error e => rfl
  | ok outcome =>
    dsimp only [dueState, dueMessage]
    rw [liftM_bind_apply, modify_bind_apply, liftM_bind_apply, htimed.elapsed]
    rcases patchStatus env b outcome.state none w₁ with ⟨patched, w₂⟩
    cases patched <;> rfl

theorem asked_apply (s : OperatorState) (w : σ) :
    Asked env (IsStatusPatch b) (applyPart env b w).2 (apply env b s w).2 := by
  rw [apply_world htimed]
  exact asked_patchStatus htimed _ _ _

theorem pass_world (hlive : b.Live) (s : OperatorState) (w : σ) : (pass env b s w).2 =
    (patchStatus env b (dueState (Reconcile.run env.instances env.build b w).1)
      (dueMessage (Reconcile.run env.instances env.build b w).1)
      (Reconcile.run env.instances env.build b w).2).2 := by
  cases hindex : finalizerIndex? b with
  | none => exact absurd hlive.finalized (not_finalized_of_index hindex)
  | some index =>
    rw [pass_eq hlive.placed, withFinalizer, hindex, hlive.stays, ← apply_world htimed s w]
    dsimp only
    rw [bind_apply]
    rcases apply env b s w with ⟨⟨result, s'⟩, w'⟩
    cases result <;> rfl

theorem cleanup_eq (s : OperatorState) (w : σ) :
    (cleanup env b s w).2 = (cleanupPart env b w).2 ∧
      (cleanup env b s w).1.1 = (cleanupPart env b w).1.map fun _ => .awaitChange := by
  have hpart : cleanupPart env b w =
      ((Cleanup.deleteOwned env.instances b.name b.ns w).1.map .cleaned,
        (Cleanup.deleteOwned env.instances b.name b.ns w).2) := rfl
  rw [cleanup, liftM_bind_apply, hpart]
  rcases Cleanup.deleteOwned env.instances b.name b.ns w with ⟨reply, w₁⟩
  cases reply with
  | error e => exact ⟨rfl, rfl⟩
  | ok deleted =>
    dsimp only
    rw [liftM_bind_apply, modify_bind_apply, htimed.elapsed]
    exact ⟨rfl, rfl⟩

theorem course_cleanup {index : Nat} {deleted : Timestamp} (hns : b.metadata.ns? ≠ none)
    (hindex : finalizerIndex? b = some index) (hgoes : b.metadata.deletionTimestamp = some deleted)
    (s : OperatorState) (w : σ) : Course env b w (withFinalizer env b s w).2 := by
  have hleaving : b.Leaving := ⟨hns, finalized_of_index hindex, by simp [hgoes]⟩
  rw [withFinalizer, hindex, hgoes]
  dsimp only
  cases hname : b.metadata.name with
  | none => exact .rests
  | some name =>
    have hbname : name = b.name := by simp [Binding.name, Metadata.nameOrStem, hname]
    obtain ⟨hworld, hresult⟩ := cleanup_eq htimed s w (b := b)
    dsimp only
    rw [bind_apply, hresult]
    cases hpart : (cleanupPart env b w).1 with
    | error e => exact hworld ▸ .fails hleaving hpart
    | ok work =>
      have hasked : Asked env _ (cleanupPart env b w).2 _ := asked_patch b.name "" jsonPatchType
        (removeFinalizerPatch index) (cleanupPart env b w).2 (b := b)
      dsimp only [Except.map]
      rw [liftM_bind_apply, hworld, hbname]
      rcases hpatch : patch env b b.name "" jsonPatchType (removeFinalizerPatch index)
        (cleanupPart env b w).2 with ⟨patched, w'⟩
      rw [hpatch] at hasked
      cases patched <;> exact .releases hleaving hpart hasked

theorem course_apply {index : Nat} (hns : b.metadata.ns? ≠ none)
    (hindex : finalizerIndex? b = some index) (hstays : b.metadata.deletionTimestamp = none)
    (s : OperatorState) (w : σ) : Course env b w (withFinalizer env b s w).2 := by
  have hasked := asked_apply (b := b) htimed s w
  rw [withFinalizer, hindex, hstays]
  dsimp only
  rw [bind_apply]
  rcases hrun : apply env b s w with ⟨⟨result, s'⟩, w'⟩
  rw [hrun] at hasked
  cases result <;> exact .applies ⟨hns, finalized_of_index hindex, hstays⟩ hasked

omit htimed in
theorem course_unfinalized (hindex : finalizerIndex? b = none) (s : OperatorState) (w : σ) :
    Course env b w (withFinalizer env b s w).2 := by
  rw [withFinalizer, hindex]
  cases b.metadata.deletionTimestamp with
  | some deleted => exact .rests
  | none =>
    dsimp only
    cases hname : b.metadata.name with
    | none => exact .rests
    | some name =>
      have hbname : name = b.name := by simp [Binding.name, Metadata.nameOrStem, hname]
      have hasked : Asked env _ w _ := asked_patch b.name "" jsonPatchType
        (addFinalizerPatch (b.metadata.finalizers.getD [])) w (b := b)
      dsimp only
      rw [liftM_bind_apply, hbname]
      rcases hpatch : patch env b b.name "" jsonPatchType
        (addFinalizerPatch (b.metadata.finalizers.getD [])) w with ⟨patched, w'⟩
      rw [hpatch] at hasked
      cases patched <;> exact .joins (not_finalized_of_index hindex) hasked

/-- All that a pass can do. -/
theorem pass_course (s : OperatorState) (w : σ) : Course env b w (pass env b s w).2 := by
  by_cases hns : b.metadata.ns? = none
  · have hrests : (pass env b s w).2 = w := by
      rw [pass, hns]
      rfl
    rw [hrests]
    exact .rests
  · rw [pass_eq hns]
    cases hindex : finalizerIndex? b with
    | none => exact course_unfinalized hindex s w
    | some index =>
      cases hdeleted : b.metadata.deletionTimestamp with
      | none => exact course_apply htimed hns hindex hdeleted s w
      | some deleted => exact course_cleanup htimed hns hindex hdeleted s w

end Parts

end Dispatch

end MonitoringStack
