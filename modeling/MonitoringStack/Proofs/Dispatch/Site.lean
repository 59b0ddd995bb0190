import MonitoringStack.Proofs.Cleanup.Clearance
import MonitoringStack.Proofs.Dispatch.Course
import MonitoringStack.Proofs.Dispatch.Streak
import MonitoringStack.Proofs.Reconcile.Written
import MonitoringStack.Proofs.Store.Translation
import Mathlib.Data.List.TakeWhile

namespace MonitoringStack

open Kube Dispatch

section Paths

/-- Namespace and name are given, and end no part of a path. -/
structure Binding.Named (b : Binding) : Prop where
  ns : b.ns ≠ ""
  name : b.name ≠ ""
  ns_plain : ∀ c ∈ b.ns.toList, c ∉ ['/', '?', '#']
  name_plain : ∀ c ∈ b.name.toList, c ∉ ['/', '?', '#']

def Binding.path? (b : Binding) : Option String :=
  (Http.Target.read? (collection Binding (some b.ns) ++ "/" ++ b.name ++ "?")).map (·.path)

theorem path_of_read? {cs : List Char} {t : Http.Target} (hplain : ∀ c ∈ cs, c ∉ ['?', '#'])
    (h : Http.Target.read? (String.ofList ('/' :: cs) ++ "?") = some t) :
    t.path = String.ofList ('/' :: cs) := by
  have htext : (String.ofList ('/' :: cs) ++ "?").toList = '/' :: (cs ++ ['?']) := by simp
  have hnot {c : Char} (hc : c ∈ ['?', '#']) : c ∉ cs := fun hmem => hplain c hmem hc
  have hfragment : ('/' :: (cs ++ ['?'])).takeWhile (· ≠ '#') = '/' :: (cs ++ ['?']) := by
    rw [List.takeWhile_eq_self_iff]
    intro c hc
    have habsent : '#' ∉ '/' :: (cs ++ ['?']) := by simp [hnot]
    exact decide_eq_true (ne_of_mem_of_not_mem hc habsent)
  have hpath : ('/' :: (cs ++ ['?'])).takeWhile (· ≠ '?') = '/' :: cs :=
    takeWhile_ne (by simp [hnot] : '?' ∉ '/' :: cs) []
  unfold Http.Target.read? at h
  rw [htext] at h
  split at h
  · cases h
  · have hparts : Http.Target.ofPath? ('/' :: (cs ++ ['?'])) = some t := h
    unfold Http.Target.ofPath? at hparts
    dsimp only at hparts
    rw [hfragment, hpath] at hparts
    split at hparts
    · cases hparts
      rfl
    · cases hparts

namespace Binding

def pathRoot : String := "apis/" ++ apiGroup ++ "/" ++ apiVersionName ++ "/namespaces/"

def pathChars (b : Binding) : List Char :=
  pathRoot.toList ++ (b.ns.toList ++ '/' :: ("bindings/".toList ++ b.name.toList))

theorem collection_eq (b : Binding) :
    collection Binding (some b.ns) ++ "/" ++ b.name = String.ofList ('/' :: b.pathChars) := by
  have hcollection : collection Binding (some b.ns) = "/apis/" ++ apiGroup ++ "/" ++
      apiVersionName ++ ("/namespaces/" ++ b.ns) ++ "/" ++ "bindings" := rfl
  apply String.toList_inj.1
  rw [hcollection]
  simp only [pathChars, String.toList_append, String.toList_ofList, List.append_assoc]
  rfl

theorem Named.pathChars {b : Binding} (h : b.Named) : ∀ c ∈ b.pathChars, c ∉ ['?', '#'] := by
  have hroot : pathRoot.toList.all (· ∉ ['?', '#']) = true := by decide
  have hplural : ('/' :: "bindings/".toList).all (· ∉ ['?', '#']) = true := by decide
  intro c hc hmem
  have hpart : c ∈ ['/', '?', '#'] := List.mem_cons_of_mem _ hmem
  rw [Binding.pathChars, ← List.cons_append] at hc
  rcases List.mem_append.1 hc with hc | hc
  · exact of_decide_eq_true (List.all_eq_true.1 hroot c hc) hmem
  rcases List.mem_append.1 hc with hc | hc
  · exact h.ns_plain c hc hpart
  rcases List.mem_append.1 hc with hc | hc
  · exact of_decide_eq_true (List.all_eq_true.1 hplural c hc) hmem
  · exact h.name_plain c hc hpart

theorem Named.path?_eq {b : Binding} (h : b.Named) {path : String} (hpath : b.path? = some path) :
    path = String.ofList ('/' :: b.pathChars) := by
  obtain ⟨t, ht, rfl⟩ := Option.map_eq_some_iff.1 hpath
  rw [collection_eq] at ht
  exact path_of_read? h.pathChars ht

/-- No two bindings are kept in one place. -/
theorem key_of_path? {b c : Binding} (hb : b.Named) (hc : c.Named) {path : String}
    (hbpath : b.path? = some path) (hcpath : c.path? = some path) : b.key = c.key := by
  have hplain {d : Binding} (hd : d.Named) : '/' ∉ d.ns.toList := fun hmem =>
    hd.ns_plain _ hmem (by simp)
  have hchars : b.pathChars = c.pathChars := by
    have htexts := (hb.path?_eq hbpath).symm.trans (hc.path?_eq hcpath)
    exact (List.cons.inj (String.ofList_inj.1 htexts)).2
  obtain ⟨hns, hrest⟩ :=
    append_slash_inj (hplain hb) (hplain hc) (List.append_cancel_left hchars)
  have hname := List.append_cancel_left hrest
  rw [key, key, String.toList_inj.1 hns, String.toList_inj.1 hname]

end Binding

end Paths

/-- A step of a JSON patch, of the kinds that the operator makes use of. -/
inductive PatchStep where
  | test (path : String) (value : Json)
  | add (path : String) (value : Json)
  | remove (path : String)

namespace PatchStep

def decode? (j : Json) : Option PatchStep :=
  match j.get? "op", j.get? "path", j.get? "value" with
  | some (.string "test"), some (.string path), some value => some (.test path value)
  | some (.string "add"), some (.string path), some value => some (.add path value)
  | some (.string "remove"), some (.string path), _ => some (.remove path)
  | _, _, _ => none

def list? : Json → Option (List PatchStep) := Wire.list? decode?

def finalizers : String := "/metadata/finalizers"

def index? (held : List String) (path : String) : Option Nat :=
  (List.range held.length).find? fun n => path = finalizers ++ "/" ++ toString n

/-- What a path leads to; an empty list of finalizers is none. -/
def value? (held : List String) (path : String) : Option Json :=
  if path = finalizers then some (if held.isEmpty then .null else Wire.strings held)
  else (index? held path).bind fun n => held[n]?.map .string

/-- A step that can lead nowhere but to the finalizers. -/
def Within : PatchStep → Prop
  | .test path _ => path = finalizers ∨ ∃ n : Nat, path = finalizers ++ "/" ++ toString n
  | .add path _ => path = finalizers ∨ path = finalizers ++ "/-"
  | .remove path => ∃ n : Nat, path = finalizers ++ "/" ++ toString n

def take? (held : List String) : PatchStep → Option (List String)
  | .test path value => if (value? held path).any (· == value) then some held else none
  | .add path value =>
    if path = finalizers then Wire.list? Wire.string? value
    else (Wire.string? value).map fun finalizer => held ++ [finalizer]
  | .remove path => (index? held path).map held.eraseIdx

theorem foldlM_pair {held after : List String} {first second : PatchStep}
    (h : [first, second].foldlM take? held = some after) :
    ∃ between, take? held first = some between ∧ take? between second = some after := by
  simp only [List.foldlM_cons, List.foldlM_nil, Option.bind_eq_bind, Option.bind_eq_some_iff] at h
  obtain ⟨between, hfirst, _, hsecond, hafter⟩ := h
  cases hafter
  exact ⟨between, hfirst, hsecond⟩

theorem list?_addFinalizerPatch (held : List String) :
    ∃ steps, list? (addFinalizerPatch held) = some steps ∧ (∀ step ∈ steps, step.Within) ∧
      ∀ before after, steps.foldlM take? before = some after → bindingFinalizer ∈ after := by
  unfold addFinalizerPatch
  dsimp only
  split
  · refine ⟨[.test finalizers .null, .add finalizers (Wire.strings [bindingFinalizer])], rfl,
      List.forall_mem_cons.2 ⟨.inl rfl, List.forall_mem_singleton.2 (.inl rfl)⟩, ?_⟩
    intro before after h
    obtain ⟨between, -, hadd⟩ := foldlM_pair h
    rw [take?, if_pos rfl, Wire.list?_strings] at hadd
    cases hadd
    exact List.mem_singleton_self _
  · refine ⟨[.test finalizers (Wire.strings held),
      .add (finalizers ++ "/-") (.string bindingFinalizer)], rfl,
      List.forall_mem_cons.2 ⟨.inl rfl, List.forall_mem_singleton.2 (.inr rfl)⟩, ?_⟩
    intro before after h
    obtain ⟨between, -, hadd⟩ := foldlM_pair h
    rw [take?, if_neg (by decide)] at hadd
    cases hadd
    exact List.mem_append_right _ (List.mem_singleton_self _)

theorem list?_removeFinalizerPatch (index : Nat) :
    ∃ steps, list? (removeFinalizerPatch index) = some steps ∧ ∀ step ∈ steps, step.Within := by
  exact ⟨[.test (finalizers ++ "/" ++ toString index) (.string bindingFinalizer),
    .remove (finalizers ++ "/" ++ toString index)], rfl,
    List.forall_mem_cons.2 ⟨.inr ⟨index, rfl⟩, List.forall_mem_singleton.2 ⟨index, rfl⟩⟩⟩

end PatchStep

/-- What the operator works at: the instances, and the finalizers of the bindings by path. -/
structure Site where
  instances : Store MonitoringInstance := {}
  finalizers : String → List String := fun _ => []

namespace Site

def held (w : Site) (b : Binding) : List String := (b.path?.map w.finalizers).getD []

def hold (w : Site) (path : String) (held : List String) : Site :=
  { w with finalizers := fun p => if p = path then held else w.finalizers p }

section Instances

def lift {α : Type} (x : StateM (Store MonitoringInstance) α) : StateM Site α :=
  fun w => ((x w.instances).1, { w with instances := (x w.instances).2 })

def access : ResourceStore (StateM Site) MonitoringInstance where
  get key := lift (Store.get key)
  list ns? selector := lift (Store.list ns? selector)
  create i := lift (Store.create i)
  update i := lift (Store.update i)
  delete key := lift (Store.delete key)

theorem translates_lift : Translates lift Store.access access where
  pure _ := rfl
  bind _ _ := rfl
  find _ := rfl
  list _ _ := rfl
  create _ := rfl
  update _ := rfl
  delete _ := rfl

variable (w : Site) (b : Binding)

def reconciled (build : SpecBuilder) : Site :=
  { w with instances := (Reconcile.run Store.access build b w.instances).2 }

def cleaned : Except OperatorError Nat :=
  (Cleanup.deleteOwned Store.access b.name b.ns w.instances).1

def swept : Site :=
  { w with instances := (Cleanup.deleteOwned Store.access b.name b.ns w.instances).2 }

variable {env : Environment (StateM Site)} (henv : env.instances = access)
include henv

theorem applyPart_snd : (applyPart env b w).2 = w.reconciled b env.build := by
  have hrun : Reconcile.run env.instances env.build b =
      lift (Reconcile.run Store.access env.build b) := by
    rw [henv, translates_lift.reconcile]
  change (Reconcile.run env.instances env.build b w).2 = _
  rw [hrun]
  rfl

theorem cleanupPart_eq : cleanupPart env b w = ((w.cleaned b).map Work.cleaned, w.swept b) := by
  have hrun : Cleanup.deleteOwned env.instances b.name b.ns =
      lift (Cleanup.deleteOwned Store.access b.name b.ns) := by
    rw [henv, translates_lift.deleteOwned]
  change ((Cleanup.deleteOwned env.instances b.name b.ns w).1.map Work.cleaned,
    (Cleanup.deleteOwned env.instances b.name b.ns w).2) = _
  rw [hrun]
  rfl

end Instances

/-- A request of which it is known what it does to finalizers: a JSON patch of nothing else, or a
merge patch that leaves the metadata out. -/
inductive Known (r : Request) : Prop
  | within {body : Json} {steps : List PatchStep} (type : r.contentType = some jsonPatchType)
      (body_eq : r.body = some body) (steps_eq : PatchStep.list? body = some steps)
      (within : ∀ step ∈ steps, PatchStep.Within step)
  | without {body : Json} (type : r.contentType = some mergePatchType)
      (body_eq : r.body = some body) (silent : body.get? "metadata" = none)

/-- What may become of a site through a request. A request that is not known may do anything. -/
inductive Answers (r : Request) (w : Site) : Site → Prop
  | kept : Answers r w w
  | patched {body : Json} {steps : List PatchStep} {held : List String}
      (type : r.contentType = some jsonPatchType) (body_eq : r.body = some body)
      (steps_eq : PatchStep.list? body = some steps)
      (taken : steps.foldlM PatchStep.take? (w.finalizers r.target.path) = some held) :
      Answers r w (w.hold r.target.path held)
  | beyond {w' : Site} (unknown : ¬ Known r) : Answers r w w'

end Site

end MonitoringStack
