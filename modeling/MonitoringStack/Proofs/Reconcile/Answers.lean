import MonitoringStack.Proofs.Kube.Answers
import MonitoringStack.Proofs.Reconcile.Transcript

namespace MonitoringStack

open Kube

namespace Reconcile

variable {σ : Type} {server : Server (StateM σ)} {build : SpecBuilder} {b : Binding} {d : Desired}
  {w : σ} {before after : List Answered} {call : Answered} {e : ClientError}

theorem afterWrite_eq (outcome : Outcome) :
    afterWrite outcome = fun reply => .done (concluded outcome reply) := by
  funext reply
  cases reply <;> rfl

theorem afterRead_missing (what : String) (d : Desired) (h : e.Missing) :
    afterRead d (.error (.ofClientError what e)) =
      write Program.access (.create d.newInstance) := by
  rw [StoreError.ofClientError_missing what h]
  rfl

theorem afterRead_refused (d : Desired) {cause : StoreError} (h : cause.isNotFound = false) :
    afterRead d (.error cause) = .done (.error (.ofStoreError cause)) := by
  cases cause with
  | notFound => cases h
  | conflict | alreadyExists | invalidResource | kube | serialization | unavailable => rfl

theorem write_answers {decision : Decision}
    (h : (write Program.access decision).talk server w = before ++ call :: after)
    (he : call.error? = some e) :
    (∃ i, call.action = .create i ∨ call.action = .update i) ∧ after = [] ∧
      ∃ what, (write Program.access decision).outcome server w =
        .error (.ofStoreError (.ofClientError what e)) := by
  cases decision with
  | keep => exact absurd h Program.talk_done
  | create i =>
    rw [write_create, afterWrite_eq] at h ⊢
    obtain ⟨haction, hlast, what, houtcome⟩ := Program.last_call (.create i) h he
    exact ⟨⟨i, .inl haction⟩, hlast, what, houtcome⟩
  | update i =>
    rw [write_update, afterWrite_eq] at h ⊢
    obtain ⟨haction, hlast, what, houtcome⟩ := Program.last_call (.update i) h he
    exact ⟨⟨i, .inr haction⟩, hlast, what, houtcome⟩

theorem afterRead_answers {reply : Except StoreError MonitoringInstance}
    (h : (afterRead d reply).talk server w = before ++ call :: after) (he : call.error? = some e) :
    (∃ i, call.action = .create i ∨ call.action = .update i) ∧ after = [] ∧
      ∃ what, (afterRead d reply).outcome server w =
        .error (.ofStoreError (.ofClientError what e)) := by
  rw [afterRead] at h ⊢
  cases hfound : ResourceStore.found reply with
  | error cause =>
    rw [hfound] at h
    exact absurd h Program.talk_done
  | ok found =>
    rw [hfound] at h
    dsimp only at h ⊢
    cases hdecision : d.decide found with
    | error cause =>
      rw [hdecision] at h
      exact absurd h Program.talk_done
    | ok decision =>
      rw [hdecision] at h
      exact write_answers h he

/-- What becomes of a pass with an error in it, by the call that the error was the answer to. -/
inductive Stands (d : Desired) (after : List Answered) (e : ClientError)
    (result : Except OperatorError Outcome) : StoreAction → Prop
  | creates {key : Key} {answer : Except ClientError MonitoringInstance} (missing : e.Missing)
      (next : after = [⟨.create d.newInstance, answer⟩])
      (created : ∀ i, answer = .ok i → result = .ok .created) : Stands d after e result (.get key)
  | unread {key : Key} {what : String} (refused : ¬ e.Missing) (last : after = [])
      (fails : result = .error (.ofStoreError (.ofClientError what e))) :
      Stands d after e result (.get key)
  | unwritten {action : StoreAction} {i : MonitoringInstance} {what : String}
      (write : action = .create i ∨ action = .update i) (last : after = [])
      (fails : result = .error (.ofStoreError (.ofClientError what e))) :
      Stands d after e result action

theorem create_answer (server : Server (StateM σ)) (d : Desired) (w : σ) :
    ∃ answer, (write Program.access (.create d.newInstance)).talk server w =
        [⟨.create d.newInstance, answer⟩] ∧
      ∀ i, answer = .ok i →
        (write Program.access (.create d.newInstance)).outcome server w = .ok .created := by
  rw [write_create, afterWrite_eq]
  have hask : (StoreAction.create d.newInstance).ask? server = some _ := rfl
  obtain ⟨what, houtcome, htalk⟩ := Program.call_asks (.create d.newInstance) hask
    (fun reply => .done (concluded .created reply)) w
  refine ⟨_, htalk, fun i hi => houtcome.trans ?_⟩
  rw [hi]
  rfl

theorem run_answers (h : (run Program.access build b).talk server w = before ++ call :: after)
    (he : call.error? = some e) : ∃ d, Desired.ofBinding build b = .ok d ∧
      Stands d after e ((run Program.access build b).outcome server w) call.action := by
  cases hd : Desired.ofBinding build b with
  | error cause =>
    rw [program_of_error hd] at h
    exact absurd h Program.talk_done
  | ok d =>
    refine ⟨d, rfl, ?_⟩
    rw [program_of_ok hd] at h ⊢
    obtain ⟨what, answer, w', houtcome, ⟨haction, -, rfl, hafter⟩ | ⟨rest, -, hrest⟩⟩ :=
      Program.call_cases (.get d.instanceKey) rfl h he
    · rw [houtcome, haction]
      by_cases hmissing : e.Missing
      · have hcreates := afterRead_missing what d hmissing
        obtain ⟨answer, htalk, hcreated⟩ := create_answer server d w'
        rw [← hcreates] at htalk hcreated
        exact .creates hmissing (hafter.symm.trans htalk) hcreated
      · have hrefused := afterRead_refused d (StoreError.isNotFound_ofClientError what hmissing)
        have hlast := hafter.symm.trans (congrArg (·.talk server w') hrefused)
        have hfails : (afterRead d (.error (.ofClientError what e))).outcome server w' =
            .error (.ofStoreError (.ofClientError what e)) :=
          congrArg (·.outcome server w') hrefused
        exact .unread hmissing hlast hfails
    · obtain ⟨⟨i, hwrite⟩, hlast, what', hfails⟩ := afterRead_answers hrest he
      exact .unwritten hwrite hlast (houtcome.trans hfails)

end Reconcile

end MonitoringStack
