import MonitoringStack.Proofs.Cleanup.Batch
import MonitoringStack.Proofs.Interleaving.Consistency
import MonitoringStack.Proofs.Kube.Answers

namespace MonitoringStack.Cleanup

open Kube MonitoringInstance

variable {σ : Type} {server : Server (StateM σ)} {binding : String} {w : σ}
  {before after : List Answered} {call : Answered} {e : ClientError}

def deletions (calls : List Answered) : Nat := calls.countP (·.Deletes)

theorem deletions_cons (x : Answered) (calls : List Answered) :
    deletions (x :: calls) = deletions [x] + deletions calls := by
  rw [deletions, deletions, deletions, ← List.countP_append, List.singleton_append]

theorem program_of_cons (deleted : Nat) (i : MonitoringInstance)
    (rest : List MonitoringInstance) : deleteEach Program.access binding deleted (i :: rest) =
      .call (.delete i.address) (afterDelete binding deleted rest) := by
  rw [deleteEach]
  rfl

theorem deleteEach_starts (server : Server (StateM σ)) (binding : String) (deleted : Nat)
    (instances : List MonitoringInstance) (w : σ) :
    ((deleteEach Program.access binding deleted instances).talk server w).head?.map (·.action) =
      instances.head?.map fun i => .delete i.address := by
  cases instances with
  | nil => rfl
  | cons i rest => rfl

theorem afterDelete_cases (what binding : String) (deleted : Nat) (rest : List MonitoringInstance)
    (key : Key) (answer : Except ClientError Unit) :
    ((∀ e, answer = .error e → e.Missing) ∧
      afterDelete binding deleted rest (StoreAction.reply what (.delete key) answer) =
        deleteEach Program.access binding (deleted + deletions [⟨.delete key, answer⟩]) rest) ∨
    ∃ e, answer = .error e ∧ ¬ e.Missing ∧
      afterDelete binding deleted rest (StoreAction.reply what (.delete key) answer) =
        .done (.error (stopped binding deleted (rest.length + 1) (.ofClientError what e))) := by
  cases answer with
  | ok => exact .inl ⟨by simp, rfl⟩
  | error e =>
    by_cases hmissing : e.Missing
    · refine .inl ⟨fun e' he => ?_, ?_⟩
      · cases he
        exact hmissing
      · change afterDelete binding deleted rest (.error (.ofClientError what e)) = _
        rw [StoreError.ofClientError_missing what hmissing]
        rfl
    · refine .inr ⟨e, rfl, hmissing, ?_⟩
      change afterDelete binding deleted rest (.error (.ofClientError what e)) = _
      have hkept := StoreError.isNotFound_ofClientError what hmissing
      cases deleted <;> simp [afterDelete, hkept, stopped]

/-- What becomes of a batch with an error in it: either the instance is gone, and the next one is
deleted, or the batch is over. -/
inductive Stands (binding : String) (instances : List MonitoringInstance) (deleted : Nat)
    (before after : List Answered) (e : ClientError) (result : Except OperatorError Nat) : Prop
  | skips (missing : e.Missing)
      (next : after.head?.map (·.action) =
        instances[before.length + 1]?.map fun i => .delete i.address)
      (completes : after = [] → result = .ok (deleted + deletions before))
  | ends (refused : ¬ e.Missing) (last : after = [])
      (stops : ∃ what, result = .error (stopped binding (deleted + deletions before)
        (instances.length - before.length) (.ofClientError what e)))

theorem Stands.cons {i : MonitoringInstance} {rest : List MonitoringInstance} {x : Answered}
    {deleted : Nat} {result : Except OperatorError Nat}
    (h : Stands binding rest (deleted + deletions [x]) before after e result) :
    Stands binding (i :: rest) deleted (x :: before) after e result := by
  have hcount : deleted + deletions [x] + deletions before = deleted + deletions (x :: before) := by
    rw [deletions_cons x before, Nat.add_assoc]
  cases h with
  | skips missing next completes =>
    rw [hcount] at completes
    exact .skips missing next completes
  | ends fails last stops =>
    rw [hcount] at stops
    refine .ends fails last ?_
    rw [List.length_cons, List.length_cons, Nat.add_sub_add_right]
    exact stops

theorem deleteEach_answers {deleted : Nat} {instances : List MonitoringInstance}
    (h : (deleteEach Program.access binding deleted instances).talk server w =
      before ++ call :: after) (he : call.error? = some e) :
    (∃ i, instances[before.length]? = some i ∧ call.action = .delete i.address) ∧
      Stands binding instances deleted before after e
        ((deleteEach Program.access binding deleted instances).outcome server w) := by
  -- each deletion adds to those before it, so their number is left open
  induction instances generalizing deleted w before with
  | nil => exact absurd h Program.talk_done
  | cons i rest ih =>
    rw [program_of_cons] at h ⊢
    obtain ⟨what, answer, w', houtcome, hsplit⟩ := Program.call_cases (.delete i.address) rfl h he
    rw [houtcome]
    rcases afterDelete_cases what binding deleted rest i.address answer with
      ⟨hmissing, hskips⟩ | ⟨cause, rfl, hrefused, hstops⟩
    · rw [hskips] at hsplit ⊢
      rcases hsplit with ⟨haction, rfl, rfl, hafter⟩ | ⟨before, rfl, hrest⟩
      · have hstarts := deleteEach_starts server binding
          (deleted + deletions [⟨.delete i.address, .error e⟩]) rest w'
        rw [hafter] at hstarts
        refine ⟨⟨i, rfl, haction⟩, .skips (hmissing e rfl) ?_ fun hlast => ?_⟩
        · rw [hstarts, List.head?_eq_getElem?]
          rfl
        · rw [hlast] at hstarts
          obtain rfl : rest = [] := List.head?_eq_none_iff.1 (Option.map_eq_none_iff.1 hstarts.symm)
          rfl
      · obtain ⟨hi, hstands⟩ := ih hrest
        exact ⟨hi, hstands.cons⟩
    · rw [hstops] at hsplit ⊢
      rcases hsplit with ⟨haction, rfl, herror, hafter⟩ | ⟨before, -, hrest⟩
      · cases herror
        exact ⟨⟨i, rfl, haction⟩, .ends hrefused hafter.symm ⟨what, rfl⟩⟩
      · exact absurd hrest Program.talk_done

theorem program_of_deleteOwned (binding ns : String) : deleteOwned Program.access binding ns =
    .call (.list none (selectOwned binding ns)) (afterList binding) := rfl

theorem deleteOwned_answers {ns : String}
    (h : (deleteOwned Program.access binding ns).talk server w = before ++ call :: after)
    (he : call.error? = some e) :
    ((call.action = .list none (selectOwned binding ns) ∧ after = []) ∧
      ∃ what, (deleteOwned Program.access binding ns).outcome server w =
        .error (.ofStoreError (.ofClientError what e))) ∨
    ∃ (instances : List MonitoringInstance) (deleting : List Answered),
      before = ⟨.list none (selectOwned binding ns), .ok instances⟩ :: deleting ∧
      (∃ i, instances[deleting.length]? = some i ∧ call.action = .delete i.address) ∧
      Stands binding instances 0 deleting after e
        ((deleteOwned Program.access binding ns).outcome server w) := by
  rw [program_of_deleteOwned] at h ⊢
  obtain ⟨what, answer, w', houtcome, ⟨haction, -, rfl, hafter⟩ | ⟨before, rfl, hrest⟩⟩ :=
    Program.call_cases (.list none (selectOwned binding ns)) rfl h he
  · exact .inl ⟨⟨haction, hafter.symm⟩, what, houtcome⟩
  · rw [houtcome]
    cases answer with
    | error cause => exact absurd hrest Program.talk_done
    | ok instances =>
      obtain ⟨hi, hstands⟩ := deleteEach_answers hrest he
      exact .inr ⟨instances, before, rfl, hi, hstands⟩

end MonitoringStack.Cleanup
