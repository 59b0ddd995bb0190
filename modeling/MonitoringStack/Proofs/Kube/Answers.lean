import MonitoringStack.Kube.Cluster
import MonitoringStack.Proofs.Interleaving.Program
import MonitoringStack.Proofs.Store.Operations

namespace MonitoringStack

open Kube

namespace Kube.ClientError

def Missing (e : ClientError) : Prop := ∃ f, e = .api f ∧ f.code = 404

def Clashes (e : ClientError) : Prop := ∃ f, e = .api f ∧ f.code = 409

end Kube.ClientError

namespace StoreError

variable (what : String) {e : ClientError}

theorem ofClientError_missing (h : e.Missing) : ofClientError what e = .notFound what := by
  obtain ⟨f, rfl, hcode⟩ := h
  exact if_pos hcode

theorem ofClientError_clashes (h : e.Clashes) :
    ∃ detail, OperatorError.ofStoreError (ofClientError what e) = .conflict detail := by
  obtain ⟨f, rfl, hcode⟩ := h
  have hmissing : f.code ≠ 404 := by omega
  rw [ofClientError, if_neg hmissing, if_pos hcode]
  split <;> exact ⟨_, rfl⟩

theorem ofClientError_other (hmissing : ¬ e.Missing) (hclashes : ¬ e.Clashes) :
    ofClientError what e = .kube e := by
  cases e with
  | api f =>
    have hmissing : f.code ≠ 404 := fun hcode => hmissing ⟨f, rfl, hcode⟩
    have hclashes : f.code ≠ 409 := fun hcode => hclashes ⟨f, rfl, hcode⟩
    rw [ofClientError, if_neg hmissing, if_neg hclashes]
  | undecodable | unsendable | unanswered => rfl

theorem isNotFound_ofClientError (h : ¬ e.Missing) : (ofClientError what e).isNotFound = false := by
  by_cases hclashes : e.Clashes
  · obtain ⟨detail, hdetail⟩ := ofClientError_clashes what hclashes
    cases herror : ofClientError what e with
    | notFound => rw [herror] at hdetail; cases hdetail
    | conflict | alreadyExists | invalidResource | kube | serialization | unavailable => rfl
  · rw [ofClientError_other what h hclashes]
    rfl

theorem ofStoreError_ofClientError (h : ¬ e.Clashes) : ∃ cause,
    OperatorError.ofStoreError (ofClientError what e) = .store cause := by
  by_cases hmissing : e.Missing
  · exact ⟨_, by rw [ofClientError_missing what hmissing]; rfl⟩
  · exact ⟨_, by rw [ofClientError_other what hmissing h]; rfl⟩

end StoreError

namespace StoreAction

def Content : StoreAction → Type
  | .get _ | .create _ | .update _ => MonitoringInstance
  | .list .. => List MonitoringInstance
  | .delete _ => Unit

def reply (what : String) :
    (action : StoreAction) → Except ClientError action.Content → action.Reply
  | .get _, answer | .create _, answer | .update _, answer | .list .., answer | .delete _, answer =>
    answer.mapError (.ofClientError what)

section On

variable {m : Type → Type}

def on (store : ResourceStore m MonitoringInstance) : (action : StoreAction) → m action.Reply
  | .get key => store.get key
  | .list ns? selector => store.list ns? selector
  | .create i => store.create i
  | .update i => store.update i
  | .delete key => store.delete key

variable [Monad m] (server : Server m)

def readInstance (text : String) : Except Json.Unreadable MonitoringInstance := Resource.ofText text

def readInstances (text : String) : Except Json.Unreadable (List MonitoringInstance) :=
  listOfText text

/-- What a call asks of the API server. An instance that does not say where it is kept is not
written. -/
def ask? : (action : StoreAction) → Option (m (Except ClientError action.Content))
  | .get key => some <| sendNamed key.name <| send server "GET"
      (collection MonitoringInstance (some key.ns) ++ "/" ++ key.name) none none readInstance
  | .list ns? selector =>
    let query := if selector.isEmpty then "" else "&labelSelector=" ++ formEncoded selector.query
    some <| send server "GET" (collection MonitoringInstance ns? ++ "?" ++ query) none none
      readInstances
  | .create i => (Cluster.identity i).toOption.map fun key => send server "POST"
      (collection MonitoringInstance (some key.ns) ++ "?") (some jsonType)
      (some (Resource.encode i)) readInstance
  | .update i => (Cluster.identity i).toOption.map fun key => sendNamed key.name <|
      send server "PUT" (collection MonitoringInstance (some key.ns) ++ "/" ++ key.name ++ "?")
        (some jsonType) (some (Resource.encode i)) readInstance
  | .delete key => some <| sendNamed key.name <| send server "DELETE"
      (collection MonitoringInstance (some key.ns) ++ "/" ++ key.name ++ "?") (some jsonType)
      (some (.object [])) (deletedOfText MonitoringInstance)

end On

theorem on_access {σ : Type} {server : Server (StateM σ)} (action : StoreAction)
    {ask : StateM σ (Except ClientError action.Content)} (h : action.ask? server = some ask) :
    ∃ what, ∀ w, action.on (Cluster.access server) w =
      (action.reply what (ask w).1, (ask w).2) := by
  cases action with
  | get | list | delete =>
    cases h
    exact ⟨_, fun w => rfl⟩
  | create i =>
    cases hid : Cluster.identity i with
    | error e => simp [ask?, hid, Except.toOption] at h
    | ok key =>
      simp only [ask?, hid] at h
      cases h
      refine ⟨Resource.describe MonitoringInstance key.ns key.name, fun w => ?_⟩
      change Cluster.create server i w = _
      rw [Cluster.create, hid]
      rfl
  | update i =>
    cases hid : Cluster.identity i with
    | error e => simp [ask?, hid, Except.toOption] at h
    | ok key =>
      simp only [ask?, hid] at h
      cases h
      refine ⟨Resource.describe MonitoringInstance key.ns key.name, fun w => ?_⟩
      change Cluster.update server i w = _
      rw [Cluster.update, hid]
      rfl

end StoreAction

structure Answered where
  action : StoreAction
  answer : Except ClientError action.Content

namespace Answered

def error? (x : Answered) : Option ClientError :=
  match x.answer with
  | .ok _ => none
  | .error e => some e

theorem error?_eq_some {action : StoreAction} {answer : Except ClientError action.Content}
    {e : ClientError} : (⟨action, answer⟩ : Answered).error? = some e ↔ answer = .error e := by
  cases answer <;> simp [error?]

def Deletes : Answered → Prop
  | ⟨.delete _, .ok _⟩ => True
  | _ => False

instance : DecidablePred Deletes
  | ⟨.delete _, .ok _⟩ => inferInstanceAs (Decidable True)
  | ⟨.delete _, .error _⟩ | ⟨.get _, _⟩ | ⟨.list .., _⟩ | ⟨.create _, _⟩ | ⟨.update _, _⟩ =>
    inferInstanceAs (Decidable False)

end Answered

namespace Program

variable {α β : Type} {m : Type → Type} [Monad m]

/-- The calls made at some store, one after another. -/
def through (store : ResourceStore m MonitoringInstance) : Program α → m α
  | .done a => pure a
  | .call action next => action.on store >>= fun reply => (next reply).through store

theorem through_bind [LawfulMonad m] (store : ResourceStore m MonitoringInstance) (p : Program α)
    (f : α → Program β) :
    (p >>= f).through store = p.through store >>= fun a => (f a).through store := by
  induction p with
  | done a =>
    change (f a).through store = pure a >>= fun a => (f a).through store
    rw [pure_bind]
  | call action next ih =>
    change (action.on store >>= fun reply => (next reply >>= f).through store) =
      (action.on store >>= fun reply => (next reply).through store) >>= fun a => (f a).through store
    rw [bind_assoc]
    exact bind_congr ih

theorem translates_through [LawfulMonad m] (store : ResourceStore m MonitoringInstance) :
    Translates (fun p => through store p) access store where
  pure _ := rfl
  bind := through_bind store
  find key := by
    change (store.get key >>= fun reply => pure (ResourceStore.found reply)) = _
    rw [ResourceStore.find, map_eq_pure_bind]
  list ns? selector := bind_pure (store.list ns? selector)
  create i := bind_pure (store.create i)
  update i := bind_pure (store.update i)
  delete key := bind_pure (store.delete key)

end Program

namespace Program

variable {σ α β : Type} (server : Server (StateM σ))

def outcome (p : Program α) (w : σ) : α := (p.through (Cluster.access server) w).1

/-- The calls of a program that reach the API server, with what the server answers. -/
def talk : Program α → σ → List Answered
  | .done _, _ => []
  | .call action next, w =>
    ((action.ask? server).map fun ask => ⟨action, (ask w).1⟩).toList ++
      (next (action.on (Cluster.access server) w).1).talk (action.on (Cluster.access server) w).2

variable {server}

theorem talk_map (p : Program α) (f : α → β) (w : σ) :
    (do return f (← p) : Program β).talk server w = p.talk server w := by
  induction p generalizing w with
  | done a => rfl
  | call action next ih => exact congrArg (_ ++ ·) (ih _ _)

theorem outcome_map (p : Program α) (f : α → β) (w : σ) :
    (do return f (← p) : Program β).outcome server w = f (p.outcome server w) := by
  rw [outcome, through_bind]
  rfl

variable {w : σ} {x : Answered} {before after : List Answered} {e : ClientError}

theorem talk_done {a : α} : (done a).talk server w ≠ before ++ x :: after := by
  intro h
  exact List.cons_ne_nil _ _ (List.nil_eq_append_iff.1 h).2

theorem call_asks (action : StoreAction) {ask : StateM σ (Except ClientError action.Content)}
    (hask : action.ask? server = some ask) (next : action.Reply → Program α) (w : σ) :
    ∃ what, (call action next).outcome server w =
        (next (action.reply what (ask w).1)).outcome server (ask w).2 ∧
      (call action next).talk server w =
        ⟨action, (ask w).1⟩ :: (next (action.reply what (ask w).1)).talk server (ask w).2 := by
  obtain ⟨what, hon⟩ := action.on_access hask
  refine ⟨what, ?_, ?_⟩
  · change ((action.on (Cluster.access server) >>= fun reply => (next reply).through _) w).1 = _
    rw [bind_apply, hon]
    rfl
  · rw [talk, hask, hon]
    rfl

/-- An error in answer to a program is in answer to its first call, or comes later. -/
theorem call_cases (action : StoreAction) {ask : StateM σ (Except ClientError action.Content)}
    (hask : action.ask? server = some ask) {next : action.Reply → Program α}
    (h : (call action next).talk server w = before ++ x :: after) (he : x.error? = some e) :
    ∃ what answer w', (call action next).outcome server w =
        (next (action.reply what answer)).outcome server w' ∧
      ((x.action = action ∧ before = [] ∧ answer = .error e ∧
          (next (action.reply what answer)).talk server w' = after) ∨
        ∃ rest, before = ⟨action, answer⟩ :: rest ∧
          (next (action.reply what answer)).talk server w' = rest ++ x :: after) := by
  obtain ⟨what, houtcome, htalk⟩ := call_asks action hask next w
  refine ⟨what, (ask w).1, (ask w).2, houtcome, ?_⟩
  have hsplit := htalk.symm.trans h
  cases before with
  | nil =>
    obtain ⟨rfl, hafter⟩ := List.cons.inj hsplit
    exact .inl ⟨rfl, rfl, Answered.error?_eq_some.1 he, hafter⟩
  | cons y rest =>
    obtain ⟨rfl, hrest⟩ := List.cons.inj hsplit
    exact .inr ⟨rest, rfl, hrest⟩

theorem last_call (action : StoreAction) {conclude : action.Reply → α}
    (h : (call action fun reply => .done (conclude reply)).talk server w = before ++ x :: after)
    (he : x.error? = some e) : x.action = action ∧ after = [] ∧
      ∃ what, (call action fun reply => .done (conclude reply)).outcome server w =
        conclude (action.reply what (.error e)) := by
  cases hask : action.ask? server with
  | none =>
    rw [talk, hask, talk] at h
    simp at h
  | some ask =>
    obtain ⟨what, answer, w', houtcome, ⟨haction, -, rfl, hafter⟩ | ⟨rest, -, hrest⟩⟩ :=
      call_cases action hask h he
    · exact ⟨haction, hafter.symm, what, houtcome⟩
    · exact absurd hrest talk_done

end Program

end MonitoringStack
