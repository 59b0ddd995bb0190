import MonitoringStack.Proofs.Interleaving.Consistency
import MonitoringStack.Proofs.Reconcile.Pass
import MonitoringStack.Proofs.Store.Deletion

namespace MonitoringStack

open Kube Ownership Store

namespace StoreAction

def note? : StoreAction → Option StoreCall
  | .get key => some (.get key)
  | .list ns? selector => some (.list ns? selector.query)
  | .create i => (identity i).toOption.map .create
  | .update i => (identity i).toOption.map .update
  | .delete key => some (.delete key)

/-- The key at which a call changed the objects, going by the reply to it. -/
def written? : (action : StoreAction) → action.Reply → Option Key
  | .create i, .ok _ | .update i, .ok _ => some (Key.of i)
  | .delete key, .ok _ => some key
  | _, _ => none

/-- Nothing but the object at a key is another one, and if no key is given none is. -/
def SameBut (s s' : Store MonitoringInstance) : Option Key → Prop
  | none => s'.objects = s.objects
  | some key => ∀ l, l ≠ key → s'.objects.get? l = s.objects.get? l

variable (action : StoreAction) (s : Store MonitoringInstance)

theorem calls_perform : (action.perform s).2.calls = s.calls ++ action.note?.toList := by
  cases action with
  | get key => exact congrArg Store.calls (s.get_snd key)
  | list ns? selector => exact congrArg Store.calls (s.list_snd ns? selector)
  | create i => exact s.calls_create i
  | update i => exact s.calls_update i
  | delete key => exact congrArg Store.calls (s.delete_snd key)

variable {action s}

theorem objects_perform {reply : action.Reply} {s' : Store MonitoringInstance}
    (h : action.perform s = (reply, s')) : SameBut s s' (action.written? reply) := by
  obtain ⟨hreply, rfl⟩ := Prod.mk.inj h
  cases action with
  | get key =>
    have hobjects : ((StoreAction.get key).perform s).2.objects = s.objects := by simp [perform]
    cases reply <;> exact hobjects
  | list ns? selector =>
    have hobjects : ((StoreAction.list ns? selector).perform s).2.objects = s.objects := by
      simp [perform]
    cases reply <;> exact hobjects
  | create i =>
    rcases s.create_cases i with ⟨e, he, huntouched⟩ | ⟨-, hok, hwrote⟩
    · obtain rfl := hreply.symm.trans he
      exact huntouched.objects
    · obtain rfl := hreply.symm.trans hok
      intro l hl
      exact (hwrote.get?_objects l).trans (if_neg (by rwa [key_stampNew]))
  | update i =>
    rcases s.update_cases i with ⟨e, he, huntouched⟩ | ⟨current, -, -, hok, hwrote⟩
    · obtain rfl := hreply.symm.trans he
      exact huntouched.objects
    · obtain rfl := hreply.symm.trans hok
      intro l hl
      exact (hwrote.get?_objects l).trans (if_neg (by rwa [key_stampNext]))
  | delete key =>
    rcases s.delete_cases key with ⟨e, he, huntouched⟩ | ⟨hok, hobjects, -⟩
    · obtain rfl := hreply.symm.trans he
      exact huntouched.objects
    · obtain rfl := hreply.symm.trans hok
      intro l hl
      exact (congrArg (KeyMap.get? · l) hobjects).trans (s.objects.get?_erase_of_ne hl)

end StoreAction

structure Exchange where
  action : StoreAction
  reply : action.Reply

namespace Exchange

def note? (x : Exchange) : Option StoreCall := x.action.note?

def written? (x : Exchange) : Option Key := x.action.written? x.reply

theorem written?_of_read {key l : Key} {read : Except StoreError MonitoringInstance}
    {action : StoreAction} {reply : action.Reply} {x : Exchange}
    (hx : x ∈ [⟨.get key, read⟩, ⟨action, reply⟩]) (hwritten : x.written? = some l) :
    action.written? reply = some l := by
  rcases List.mem_cons.1 hx with rfl | hx
  · cases read <;> cases hwritten
  · obtain rfl := List.mem_singleton.1 hx
    exact hwritten

end Exchange

namespace Program

variable {α : Type}

/-- The calls that are made over a store that no one else writes to, one after another. -/
def transcript : Program α → Store MonitoringInstance → List Exchange
  | .done _, _ => []
  | .call action next, s =>
    ⟨action, (action.perform s).1⟩ ::
      (next (action.perform s).1).transcript (action.perform s).2

theorem calls_run (p : Program α) (s : Store MonitoringInstance) :
    (p.run s).2.calls = s.calls ++ (p.transcript s).filterMap Exchange.note? := by
  induction p generalizing s with
  | done a => exact (List.append_nil _).symm
  | call action next ih =>
    change ((next (action.perform s).1).run (action.perform s).2).2.calls = _
    rw [ih, action.calls_perform, transcript]
    cases hnote : action.note? <;> simp [Exchange.note?, hnote]

theorem objects_run_of_unwritten {p : Program α} {s : Store MonitoringInstance}
    (h : ∀ x ∈ p.transcript s, x.written? = none) : (p.run s).2.objects = s.objects := by
  induction p generalizing s with
  | done a => rfl
  | call action next ih =>
    obtain ⟨hhd, htl⟩ := List.forall_mem_cons.1 h
    have hstep := StoreAction.objects_perform (Prod.eta (action.perform s)).symm
    rw [show action.written? (action.perform s).1 = none from hhd] at hstep
    exact (ih _ htl).trans hstep

theorem get?_objects_run {p : Program α} {s : Store MonitoringInstance} {key : Key}
    (h : ∀ x ∈ p.transcript s, x.written? ≠ some key) :
    (p.run s).2.objects.get? key = s.objects.get? key := by
  induction p generalizing s with
  | done a => rfl
  | call action next ih =>
    obtain ⟨hhd, htl⟩ := List.forall_mem_cons.1 h
    have hstep := StoreAction.objects_perform (Prod.eta (action.perform s)).symm
    refine (ih _ htl).trans ?_
    cases hwritten : action.written? (action.perform s).1 with
    | none =>
      rw [hwritten] at hstep
      exact congrArg (KeyMap.get? · key) hstep
    | some l =>
      rw [hwritten] at hstep
      refine hstep key ?_
      rintro rfl
      exact hhd hwritten

end Program

theorem Desired.build_of_error {build : SpecBuilder} {binding : Binding} {e : OperatorError}
    (h : Desired.ofBinding build binding = .error e) : build binding = .error e := by
  unfold Desired.ofBinding at h
  cases hbuilt : build binding with
  | error e' => simpa [hbuilt] using h
  | ok spec => simp [hbuilt] at h

namespace Reconcile

def concluded (outcome : Outcome) :
    Except StoreError MonitoringInstance → Except OperatorError Outcome
  | .ok _ => .ok outcome
  | .error e => .error (.ofStoreError e)

/-- How a pass may go: the calls that it makes, with the replies, and what it comes to. -/
inductive Course (build : SpecBuilder) (binding : Binding) :
    List Exchange → Except OperatorError Outcome → Prop
  | unbuilt {e : OperatorError} (built : build binding = .error e) :
      Course build binding [] (.error e)
  | unread {spec : InstanceSpec} {e : StoreError} (built : build binding = .ok spec)
      (failed : e.isNotFound = false) :
      Course build binding [⟨.get binding.instanceKey, .error e⟩] (.error (.ofStoreError e))
  | refused {spec : InstanceSpec} {i : MonitoringInstance} {detail : String}
      (built : build binding = .ok spec) (closed : ¬ OpenTo binding.ns i) :
      Course build binding [⟨.get binding.instanceKey, .ok i⟩] (.error (.invalidInput detail))
  | kept {spec : InstanceSpec} {i : MonitoringInstance} (built : build binding = .ok spec)
      (opened : OpenTo binding.ns i) :
      Course build binding [⟨.get binding.instanceKey, .ok i⟩] (.ok .unchanged)
  | created {what : String} {i : MonitoringInstance} {reply : Except StoreError MonitoringInstance}
      (built : build binding = .ok i.spec) (key : Key.of i = binding.instanceKey) :
      Course build binding
        [⟨.get binding.instanceKey, .error (.notFound what)⟩, ⟨.create i, reply⟩]
        (concluded .created reply)
  | updated {spec : InstanceSpec} {i j : MonitoringInstance}
      {reply : Except StoreError MonitoringInstance} (built : build binding = .ok spec)
      (opened : OpenTo binding.ns i) (key : Key.of j = binding.instanceKey) :
      Course build binding [⟨.get binding.instanceKey, .ok i⟩, ⟨.update j, reply⟩]
        (concluded .updated reply)

variable {build : SpecBuilder} {binding : Binding} {d : Desired} {s : Store MonitoringInstance}

theorem run_afterWrite (outcome : Outcome) (reply : Except StoreError MonitoringInstance) :
    (afterWrite outcome reply).run s = (concluded outcome reply, s) := by
  cases reply <;> rfl

theorem transcript_afterWrite (outcome : Outcome) (reply : Except StoreError MonitoringInstance) :
    (afterWrite outcome reply).transcript s = [] := by
  cases reply <;> rfl

theorem afterRead_of_ok {i : MonitoringInstance} {decision : Decision}
    (h : d.decide (some i) = .ok decision) :
    afterRead d (.ok i) = write Program.access decision := by
  simp only [afterRead, ResourceStore.found, h]

theorem afterRead_of_error {i : MonitoringInstance} {e : OperatorError}
    (h : d.decide (some i) = .error e) : afterRead d (.ok i) = .done (.error e) := by
  simp only [afterRead, ResourceStore.found, h]

/-- Whatever the read came to, and whatever became of the store since, a pass goes one of these
ways. -/
theorem course_afterRead (hd : Desired.ofBinding build binding = .ok d)
    {reply : Except StoreError MonitoringInstance}
    (hkey : ∀ i, reply = .ok i → Key.of i = d.instanceKey) (s : Store MonitoringInstance) :
    Course build binding (⟨.get d.instanceKey, reply⟩ :: (afterRead d reply).transcript s)
      ((afterRead d reply).run s).1 := by
  obtain ⟨hbinding, -, hbuilt⟩ := d.ofBinding_eq hd
  have hns : d.binding.ns = binding.ns := by rw [hbinding]
  have hself : d.instanceKey = binding.instanceKey := Desired.instanceKey_eq hd
  cases reply with
  | error e =>
    rw [hself]
    cases e with
    | notFound what =>
      change Course build binding (_ :: ⟨.create d.newInstance, (s.create d.newInstance).1⟩ ::
        (afterWrite .created (s.create d.newInstance).1).transcript _)
        ((afterWrite .created (s.create d.newInstance).1).run _).1
      rw [transcript_afterWrite, run_afterWrite]
      exact .created hbuilt hself
    | conflict | alreadyExists | invalidResource | kube | serialization | unavailable =>
      exact .unread hbuilt rfl
  | ok i =>
    by_cases hopen : OpenTo d.binding.ns i
    · have hdecision := d.decide_some hopen
      have hopened : OpenTo binding.ns i := hns ▸ hopen
      by_cases ha : d.Agrees i
      · rw [if_pos ha] at hdecision
        rw [afterRead_of_ok hdecision, hself]
        exact .kept hbuilt hopened
      · rw [if_neg ha] at hdecision
        have hkeys : Key.of (d.settle i) = binding.instanceKey := by
          rw [d.key_settle, hkey i rfl, hself]
        rw [afterRead_of_ok hdecision, hself]
        change Course build binding (_ :: ⟨.update (d.settle i), (s.update (d.settle i)).1⟩ ::
          (afterWrite .updated (s.update (d.settle i)).1).transcript _)
          ((afterWrite .updated (s.update (d.settle i)).1).run _).1
        rw [transcript_afterWrite, run_afterWrite]
        exact .updated hbuilt hopened hkeys
    · obtain ⟨owner, howner, hne⟩ : ∃ owner, ownerNs? i = some owner ∧ owner ≠ d.binding.ns := by
        simpa [OpenTo] using hopen
      rw [afterRead_of_error (d.decide_stranger howner hne), hself]
      exact .refused hbuilt (hns ▸ hopen)

def exchanges (build : SpecBuilder) (binding : Binding) (s : Store MonitoringInstance) :
    List Exchange :=
  (run Program.access build binding).transcript s

theorem course_run (build : SpecBuilder) (binding : Binding)
    (hown : ∀ key i, s.objects.get? key = some i → Key.of i = key) :
    Course build binding (exchanges build binding s) (run Store.access build binding s).1 := by
  rw [exchanges, ← Program.run_reconcile]
  cases hd : Desired.ofBinding build binding with
  | error e =>
    rw [program_of_error hd]
    exact .unbuilt (Desired.build_of_error hd)
  | ok d =>
    rw [program_of_ok hd]
    exact course_afterRead hd (fun i hi => hown _ i (s.get_ok hi)) _

/-- What is written is the pass's own instance, and the pass goes through. -/
theorem Course.written {calls : List Exchange} {result : Except OperatorError Outcome}
    (h : Course build binding calls result) {x : Exchange} (hx : x ∈ calls) {key : Key}
    (hwritten : x.written? = some key) :
    key = binding.instanceKey ∧ ∃ outcome, result = .ok outcome := by
  cases h with
  | unbuilt => cases hx
  | unread | refused | kept =>
    obtain rfl := List.mem_singleton.1 hx
    cases hwritten
  | @created what i reply built hkey =>
    have hwritten := Exchange.written?_of_read hx hwritten
    cases reply with
    | error e => cases hwritten
    | ok stored =>
      obtain rfl := Option.some.inj hwritten
      exact ⟨hkey, _, rfl⟩
  | @updated spec i j reply built opened hkey =>
    have hwritten := Exchange.written?_of_read hx hwritten
    cases reply with
    | error e => cases hwritten
    | ok stored =>
      obtain rfl := Option.some.inj hwritten
      exact ⟨hkey, _, rfl⟩

/-- A pass calls the store for its own instance alone, to read it and at most once to write it. If
it fails, all is as it was. -/
theorem run_course {result : Except OperatorError Outcome} {s' : Store MonitoringInstance}
    (hown : ∀ key i, s.objects.get? key = some i → Key.of i = key)
    (h : run Store.access build binding s = (result, s')) :
    Course build binding (exchanges build binding s) result ∧
      s'.calls = s.calls ++ (exchanges build binding s).filterMap Exchange.note? ∧
      (∀ e, result = .error e → s'.objects = s.objects) ∧
      ∀ key, key ≠ binding.instanceKey → s'.objects.get? key = s.objects.get? key := by
  have hcourse := course_run build binding hown
  rw [h] at hcourse
  have hrun : (run Program.access build binding).run s = (result, s') := by
    rw [Program.run_reconcile, h]
  obtain rfl : _ = s' := congrArg Prod.snd hrun
  refine ⟨hcourse, Program.calls_run _ s, ?_, ?_⟩
  · -- a pass that wrote went through, so one that failed wrote nothing
    rintro e rfl
    apply Program.objects_run_of_unwritten
    intro x hx
    cases hwritten : x.written? with
    | none => rfl
    | some key =>
      obtain ⟨-, outcome, houtcome⟩ := hcourse.written hx hwritten
      cases houtcome
  · intro key hne
    apply Program.get?_objects_run
    intro x hx hwritten
    exact hne (hcourse.written hx hwritten).1

/-- A store that says, of the update alone, that the instance is not there. -/
def losingUpdates : Store MonitoringInstance :=
  (Store.insert {} storedOrders).2.failOn .update shopOrders.instanceKey .notFound

theorem run_course_losingUpdates : ∃ e s',
    run Store.access twoGi shopOrders losingUpdates = (.error (.store e), s') ∧
      Course twoGi shopOrders (exchanges twoGi shopOrders losingUpdates) (.error (.store e)) ∧
      s'.calls = [.get shopOrders.instanceKey, .update shopOrders.instanceKey] ∧
      s'.objects = losingUpdates.objects := by
  have hown : losingUpdates.Keyed := Store.Keyed.insert (a := storedOrders) Store.keyed_empty rfl
  have hrun : run Store.access twoGi shopOrders losingUpdates = (.error (.store _), _) :=
    Prod.ext rfl rfl
  obtain ⟨hcourse, hcalls, hobjects, -⟩ := run_course hown hrun
  exact ⟨_, _, hrun, hcourse, hcalls.trans rfl, hobjects _ rfl⟩

end Reconcile

end MonitoringStack
