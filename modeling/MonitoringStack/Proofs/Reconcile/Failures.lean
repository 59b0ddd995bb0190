import MonitoringStack.Proofs.Reconcile.Transcript

namespace MonitoringStack

open Kube

namespace Program

/-- What a program may come to, whatever the replies to its calls are. -/
inductive MayEnd {α : Type} : Program α → α → Prop
  | done (a : α) : MayEnd (.done a) a
  | call {action : StoreAction} {next : action.Reply → Program α} {a : α} (reply : action.Reply)
      (h : MayEnd (next reply) a) : MayEnd (.call action next) a

variable {α : Type} {a b : α} {action : StoreAction} {next : action.Reply → Program α}

theorem MayEnd.of_done (h : MayEnd (.done a) b) : b = a := by
  cases h
  rfl

theorem MayEnd.of_call (h : MayEnd (.call action next) a) : ∃ reply, MayEnd (next reply) a := by
  cases h with
  | call reply h => exact ⟨reply, h⟩

end Program

namespace Reconcile

/-- Whom a pass that failed has to blame: the builder, the store, or another owner. -/
inductive Blamed (build : SpecBuilder) (binding : Binding) : OperatorError → Prop
  | builder {e : OperatorError} (built : build binding = .error e) : Blamed build binding e
  | store (e : StoreError) : Blamed build binding (.ofStoreError e)
  | stranger {d : Desired} (desired : Desired.ofBinding build binding = .ok d) (owner : String) :
      Blamed build binding (.invalidInput (d.strangerText owner))

variable {build : SpecBuilder} {binding : Binding} {d : Desired} {e : OperatorError}

theorem blamed_afterWrite {outcome : Outcome} {reply : Except StoreError MonitoringInstance}
    (h : (afterWrite outcome reply).MayEnd (.error e)) : Blamed build binding e := by
  cases reply with
  | ok i => cases h.of_done
  | error cause =>
    cases h.of_done
    exact .store cause

theorem blamed_write {decision : Decision}
    (h : (write Program.access decision).MayEnd (.error e)) : Blamed build binding e := by
  cases decision with
  | keep => cases Program.MayEnd.of_done h
  | create i =>
    rw [write_create] at h
    obtain ⟨reply, h⟩ := h.of_call
    exact blamed_afterWrite h
  | update i =>
    rw [write_update] at h
    obtain ⟨reply, h⟩ := h.of_call
    exact blamed_afterWrite h

theorem blamed_decide (hd : Desired.ofBinding build binding = .ok d)
    {found : Option MonitoringInstance} (h : d.decide found = .error e) :
    Blamed build binding e := by
  cases found with
  | none => cases h
  | some i =>
    by_cases hopen : Ownership.OpenTo d.binding.ns i
    · rw [d.decide_some hopen] at h
      cases h
    · obtain ⟨owner, howner, hne⟩ :
          ∃ owner, Ownership.ownerNs? i = some owner ∧ owner ≠ d.binding.ns := by
        simpa [Ownership.OpenTo] using hopen
      rw [d.decide_stranger howner hne] at h
      cases h
      exact .stranger hd owner

theorem blamed_afterRead (hd : Desired.ofBinding build binding = .ok d)
    {reply : Except StoreError MonitoringInstance} (h : (afterRead d reply).MayEnd (.error e)) :
    Blamed build binding e := by
  rw [afterRead] at h
  cases hfound : ResourceStore.found reply with
  | error cause =>
    rw [hfound] at h
    cases h.of_done
    exact .store cause
  | ok found =>
    rw [hfound] at h
    dsimp only at h
    cases hdecision : d.decide found with
    | error cause =>
      rw [hdecision] at h
      cases h.of_done
      exact blamed_decide hd hdecision
    | ok decision =>
      rw [hdecision] at h
      exact blamed_write h

/-- A pass has no failures of its own making. -/
theorem blamed_run (h : (run Program.access build binding).MayEnd (.error e)) :
    Blamed build binding e := by
  cases hd : Desired.ofBinding build binding with
  | error cause =>
    rw [program_of_error hd] at h
    cases h.of_done
    exact .builder (Desired.build_of_error hd)
  | ok d =>
    rw [program_of_ok hd] at h
    obtain ⟨reply, h⟩ := h.of_call
    exact blamed_afterRead hd h

end Reconcile

end MonitoringStack
