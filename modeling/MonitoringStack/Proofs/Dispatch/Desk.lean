import MonitoringStack.Proofs.Dispatch.Course
import MonitoringStack.Proofs.Dispatch.Rounds
import MonitoringStack.Proofs.Resource.Status

namespace MonitoringStack

open Kube Dispatch

namespace Binding

def Shows (b : Binding) (state : InstanceState) (message : Option String) : Prop :=
  ∃ s, b.status = some s ∧ s.state = state ∧ s.message = message

theorem shows_iff {b : Binding} {state : InstanceState} {message : Option String} :
    b.Shows state message ↔
      b.status.any (fun s => s.state = state && s.message = message) = true := by
  simp [Shows, Option.any_eq_true]

def statusAddress (b : Binding) : String :=
  collection Binding (some b.ns) ++ "/" ++ b.name ++ "/status" ++ "?"

def statusRequest (b : Binding) (target : Http.Target) (state : InstanceState)
    (message : Option String) (now : Timestamp) : Request where
  method := "PATCH"
  target
  contentType := some mergePatchType
  body := some (.object [("status", BindingStatus.tellingPatch b.name state message now)])

theorem isStatusPatch_statusRequest {b : Binding} {target : Http.Target}
    (h : Http.Target.read? b.statusAddress = some target) (state : InstanceState)
    (message : Option String) (now : Timestamp) :
    IsStatusPatch b (b.statusRequest target state message now) :=
  ⟨_, h, rfl, rfl, rfl⟩

end Binding

namespace Dispatch

variable {σ : Type} {env : Environment (StateM σ)} {b : Binding} {state : InstanceState}
  {message : Option String}

theorem statusPatch_of_shows (h : b.Shows state message) (now : Timestamp) (instanceName : String) :
    statusPatch now b instanceName state message = none :=
  if_pos (Binding.shows_iff.1 h)

theorem statusPatch_of_not_shows (h : ¬ b.Shows state message) (now : Timestamp)
    (instanceName : String) : statusPatch now b instanceName state message =
      some (.object [("status", BindingStatus.tellingPatch instanceName state message now)]) :=
  if_neg (mt Binding.shows_iff.2 h)

theorem patch_world {name part contentType : String} {body : Json} {target : Http.Target}
    (hname : name ≠ "") (hread : Http.Target.read?
      (collection Binding (some b.ns) ++ "/" ++ name ++ part ++ "?") = some target) (w : σ) :
    (patch env b name part contentType body w).2 =
      (env.server ⟨"PATCH", target, some contentType, some body⟩ w).2 := by
  unfold patch sendNamed send
  rw [if_neg hname, hread]
  rfl

variable (htimed : env.Timed)
include htimed

theorem patchStatus_of_shows (h : b.Shows state message) (w : σ) :
    (patchStatus env b state message w).2 = w := by
  rw [patchStatus, MonitoringStack.bind_apply, htimed.now, statusPatch_of_shows h]
  rfl

theorem patchStatus_of_not_shows (h : ¬ b.Shows state message) (hname : b.name ≠ "")
    {target : Http.Target} (hread : Http.Target.read? b.statusAddress = some target) (w : σ) :
    (patchStatus env b state message w).2 =
      (env.server (b.statusRequest target state message (env.now w).1) w).2 := by
  rw [patchStatus, MonitoringStack.bind_apply, htimed.now, statusPatch_of_not_shows h]
  dsimp only
  rw [Binding.statusAddress] at hread
  rw [MonitoringStack.bind_apply, Binding.statusRequest, ← patch_world hname hread]
  rcases patch env b b.name "/status" mergePatchType (.object
    [("status", BindingStatus.tellingPatch b.name state message (env.now w).1)]) w with ⟨reply, w'⟩
  cases reply <;> rfl

end Dispatch

/-- What the passes over one binding work at: the instances, and the binding as the API server
keeps it, with the address of its status and the requests so far, each with whether it was met. -/
structure Desk where
  instances : Store MonitoringInstance := {}
  document : Json
  status : Http.Target
  requests : List (Request × Bool) := []

/-- Calls of a store that leave what is seen of the world as it is. -/
structure ResourceStore.Leaves {σ β α : Type} (store : ResourceStore (StateM σ) α) (view : σ → β) :
    Prop where
  get : ∀ key, Unseen view (fun _ => True) (store.get key)
  create : ∀ a, Unseen view (fun _ => True) (store.create a)
  update : ∀ a, Unseen view (fun _ => True) (store.update a)

theorem Reconcile.unseen_run {σ β : Type} {store : ResourceStore (StateM σ) MonitoringInstance}
    {view : σ → β} (h : store.Leaves view) (build : SpecBuilder) (b : Binding) :
    Unseen view (fun _ => True) (run store build b) := by
  have hfind (key : Key) : Unseen view (fun _ => True) (store.find key) :=
    fun w => ⟨(h.get key w).1, trivial⟩
  unfold run
  split
  · exact .pure trivial
  · refine .bind (hfind _) fun found _ => ?_
    split
    · exact .pure trivial
    split
    · exact .pure trivial
    · rename_i decision _
      cases decision with
      | keep => exact .pure trivial
      | create i =>
        refine .bind (h.create i) fun reply _ => ?_
        cases reply <;> exact .pure trivial
      | update i =>
        refine .bind (h.update i) fun reply _ => ?_
        cases reply <;> exact .pure trivial

namespace Desk

def binding? (w : Desk) : Option Binding := Binding.decode? w.document

def Shows (w : Desk) (state : InstanceState) (message : Option String) : Prop :=
  ∃ b, w.binding? = some b ∧ b.Shows state message

def met (w : Desk) (r : Request) : Json :=
  match r.body with
  | some patch =>
    if r.method = "PATCH" ∧ r.target = w.status ∧ r.contentType = some mergePatchType then
      w.document.mergePatch patch
    else w.document
  | none => w.document

def receive (w : Desk) (r : Request) (taken : Bool) : Desk :=
  { w with
    document := if taken then w.met r else w.document
    requests := w.requests ++ [(r, taken)] }

def papers (w : Desk) : Json × Http.Target × List (Request × Bool) :=
  (w.document, w.status, w.requests)

/-- The desk holds a binding that is to stay and whose status can be written. -/
structure Holds (w : Desk) (b : Binding) : Prop where
  sorted : w.document.Sorted
  isObject : ∃ fields, w.document = .object fields
  current : w.binding? = some b
  live : b.Live
  named : b.name ≠ ""
  address : Http.Target.read? b.statusAddress = some w.status

namespace Holds

variable {w w' : Desk} {b : Binding} {state : InstanceState} {message : Option String}
  (h : w.Holds b)
include h

theorem shows_iff : w.Shows state message ↔ b.Shows state message := by
  constructor
  · rintro ⟨c, hc, hshows⟩
    obtain rfl : b = c := Option.some.inj (h.current.symm.trans hc)
    exact hshows
  · exact fun hshows => ⟨b, h.current, hshows⟩

theorem of_papers_eq (heq : w'.papers = w.papers) : w'.Holds b := by
  obtain ⟨hdocument, hstatus, -⟩ := Prod.mk.inj heq |>.imp_right Prod.mk.inj
  refine ⟨hdocument ▸ h.sorted, hdocument ▸ h.isObject, ?_, h.live, h.named, hstatus ▸ h.address⟩
  rw [binding?, hdocument]
  exact h.current

theorem receive_false (r : Request) : (w.receive r false).Holds b :=
  ⟨h.sorted, h.isObject, h.current, h.live, h.named, h.address⟩

theorem receive_true (state : InstanceState) (message : Option String) (now : Timestamp) :
    (w.receive (b.statusRequest w.status state message now) true).Holds
      { b with status := some (.telling b.name state message now) } := by
  have hdocument : (w.receive (b.statusRequest w.status state message now) true).document =
      w.document.mergePatch
        (.object [("status", BindingStatus.tellingPatch b.name state message now)]) :=
    if_pos ⟨rfl, rfl, rfl⟩
  have hpatch : (Json.object
      [("status", BindingStatus.tellingPatch b.name state message now)]).Sorted :=
    Json.sorted_object.2 ⟨List.pairwise_singleton _ _, List.forall_mem_singleton.2
      (BindingStatus.sorted_tellingPatch b.name state message now)⟩
  obtain ⟨fields, hfields⟩ := h.isObject
  have hsorted := h.sorted
  have hcurrent := h.current
  rw [binding?, hfields] at hcurrent
  rw [hfields] at hsorted
  refine ⟨?_, ?_, ?_, ⟨h.live.placed, h.live.finalized, h.live.stays⟩, h.named, h.address⟩
  · rw [hdocument]
    exact h.sorted.mergePatch hpatch
  · rw [hdocument]
    exact ⟨_, rfl⟩
  · rw [binding?, hdocument, hfields]
    exact Binding.decode?_mergePatch hsorted hcurrent b.name state message now

end Holds

end Desk

/-- An environment at a desk. Its instances may be any and may fail, and its API server may meet a
request or not, and answer what it likes. -/
structure Environment.AtDesk (env : Environment (StateM Desk)) : Prop where
  timed : env.Timed
  instances : env.instances.Leaves Desk.papers
  server : ∀ r w, ∃ taken, (env.server r w).2 = w.receive r taken

namespace Round

def reconciled {σ : Type} (r : Round σ) : Except OperatorError Outcome :=
  (Reconcile.run r.turn.env.instances r.turn.env.build r.turn.binding r.start.world).1

/-- What became of the status in a pass that had this to say. -/
inductive Reported (r : Round Desk) (state : InstanceState) (message : Option String) : Prop
  | already (before : r.start.world.Shows state message) (after : r.stop.world.Shows state message)
      (requests : r.stop.world.requests = r.start.world.requests)
  | written {request : Request} (before : ¬ r.start.world.Shows state message)
      (after : r.stop.world.Shows state message) (isStatus : IsStatusPatch r.turn.binding request)
      (requests : r.stop.world.requests = r.start.world.requests ++ [(request, true)])
  | refused {request : Request} (before : ¬ r.start.world.Shows state message)
      (after : r.stop.world.document = r.start.world.document)
      (isStatus : IsStatusPatch r.turn.binding request)
      (requests : r.stop.world.requests = r.start.world.requests ++ [(request, false)])

/-- The status is told how the pass went: the state of its outcome and no message, or else the text
of its error. -/
def Truthful (r : Round Desk) : Prop := r.Reported (dueState r.reconciled) (dueMessage r.reconciled)

variable {r : Round Desk} (h : r.start.world.Holds r.turn.binding) {w : Desk}
  (hpapers : w.papers = r.start.world.papers) {state : InstanceState} {message : Option String}
include h hpapers

theorem reported_of_shows (hshows : r.turn.binding.Shows state message) (hstop : r.stop.world = w) :
    r.Reported state message ∧ ∃ status, r.stop.world.Holds { r.turn.binding with status } := by
  have hw : r.stop.world.Holds r.turn.binding := h.of_papers_eq (hstop ▸ hpapers)
  refine ⟨.already (h.shows_iff.2 hshows) (hw.shows_iff.2 hshows) ?_, _, hw⟩
  rw [hstop]
  exact congrArg (fun papers => papers.2.2) hpapers

theorem reported_of_receive (hnot : ¬ r.turn.binding.Shows state message) {now : Timestamp}
    {taken : Bool}
    (hstop : r.stop.world =
      w.receive (r.turn.binding.statusRequest w.status state message now) taken) :
    r.Reported state message ∧ ∃ status, r.stop.world.Holds { r.turn.binding with status } := by
  have hw : w.Holds r.turn.binding := h.of_papers_eq hpapers
  have hpatch := Binding.isStatusPatch_statusRequest hw.address state message now
  have hrequests : r.stop.world.requests = r.start.world.requests ++
      [(r.turn.binding.statusRequest w.status state message now, taken)] := by
    rw [hstop]
    exact congrArg (fun papers => papers.2.2 ++ [_]) hpapers
  cases taken with
  | false =>
    have hdocument : r.stop.world.document = r.start.world.document := by
      rw [hstop]
      exact congrArg Prod.fst hpapers
    exact ⟨.refused (mt h.shows_iff.1 hnot) hdocument hpatch hrequests, _,
      hstop ▸ hw.receive_false _⟩
  | true =>
    have hholds := hw.receive_true state message now
    rw [← hstop] at hholds
    have hshows : r.stop.world.Shows state message := hholds.shows_iff.2 ⟨_, rfl, rfl, rfl⟩
    exact ⟨.written (mt h.shows_iff.1 hnot) hshows hpatch hrequests, _, hholds⟩

end Round

namespace Scene

/-- Passes over a binding, each over the binding as it is when the pass begins. -/
def watch (sc : Scene Desk) : List (Environment (StateM Desk)) → List (Round Desk)
  | [] => []
  | env :: envs =>
    match sc.world.binding? with
    | none => []
    | some binding =>
      let r := Turn.play { env, binding } sc
      r :: watch r.stop envs

end Scene

namespace Desk.Holds

variable {sc : Scene Desk} {b : Binding} (h : sc.world.Holds b) {env : Environment (StateM Desk)}
include h

theorem watch_cons (envs : List (Environment (StateM Desk))) :
    sc.watch (env :: envs) = Turn.play { env, binding := b } sc ::
      (Turn.play { env, binding := b } sc).stop.watch envs := by
  rw [Scene.watch, h.current]

/-- All that can become of a desk in a pass: the instance is brought about, and then the status is
written unless it says already what it is to say. -/
theorem stop_cases (htimed : env.Timed) {result : Except OperatorError Outcome} {w : Desk}
    (hrun : Reconcile.run env.instances env.build b sc.world = (result, w)) (hw : w.Holds b) :
    b.Shows (dueState result) (dueMessage result) ∧
        (Turn.play { env, binding := b } sc).stop.world = w ∨
      ¬ b.Shows (dueState result) (dueMessage result) ∧
        ∃ now, (Turn.play { env, binding := b } sc).stop.world =
          (env.server (b.statusRequest w.status (dueState result) (dueMessage result) now) w).2 := by
  have hstop : (Turn.play { env, binding := b } sc).stop.world =
      (patchStatus env b (dueState result) (dueMessage result) w).2 := by
    rw [Turn.play_world]
    change (pass env b sc.operator sc.world).2 = _
    rw [pass_world htimed h.live, hrun]
  rw [hstop]
  by_cases hshows : b.Shows (dueState result) (dueMessage result)
  · exact .inl ⟨hshows, patchStatus_of_shows htimed hshows w⟩
  · exact .inr ⟨hshows, _, patchStatus_of_not_shows htimed hshows h.named hw.address w⟩

theorem play_truthful (henv : env.AtDesk) :
    (Turn.play { env, binding := b } sc).Truthful ∧
      ∃ status, (Turn.play { env, binding := b } sc).stop.world.Holds { b with status } := by
  rcases hrun : Reconcile.run env.instances env.build b sc.world with ⟨result, w⟩
  have hpapers : w.papers = sc.world.papers := by
    have hunseen := Reconcile.unseen_run henv.instances env.build b sc.world
    rw [hrun] at hunseen
    exact hunseen.1
  have hresult : (Turn.play { env, binding := b } sc).reconciled = result := congrArg Prod.fst hrun
  rw [Round.Truthful, hresult]
  rcases h.stop_cases henv.timed hrun (h.of_papers_eq hpapers) with
    ⟨hshows, hstop⟩ | ⟨hnot, now, hstop⟩
  · exact Round.reported_of_shows h hpapers hshows hstop
  · obtain ⟨taken, htaken⟩ := henv.server
      (b.statusRequest w.status (dueState result) (dueMessage result) now) w
    exact Round.reported_of_receive h hpapers hnot (hstop.trans htaken)

end Desk.Holds

end MonitoringStack
