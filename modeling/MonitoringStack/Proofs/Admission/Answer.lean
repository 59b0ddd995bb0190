import MonitoringStack.Admission.Review
import MonitoringStack.Proofs.Resource.Metadata
import MonitoringStack.Proofs.Store.Operations

namespace MonitoringStack

open Kube

def ManagedCluster.secretKey (c : ManagedCluster) : Key :=
  ⟨multiClusterNamespace, c.spec.prometheusSecret⟩

namespace Admission

def AnyObject.renamed (o : AnyObject) (name? ns? : Option String) : AnyObject :=
  { o with metadata := o.metadata.renamed name? ns? }

def Request.cluster? (q : Request) : Option ManagedCluster := q.object.bind AnyObject.cluster?

/-- The operation brings a cluster about, and is subject to the rule. -/
def Request.Gated (q : Request) : Prop := q.operation = .create ∨ q.operation = .update

def denial (uid message : String) : Verdict := { uid, allowed := false, message := some message }

section Names

variable (o : AnyObject) (name? ns? : Option String)

theorem spec_cluster?_renamed :
    (o.renamed name? ns?).cluster?.map (·.spec) = o.cluster?.map (·.spec) := by
  rw [AnyObject.cluster?, AnyObject.cluster?]
  simp only [AnyObject.renamed, Option.bind_eq_bind, Option.pure_def]
  cases (o.content.get? "spec").bind ManagedClusterSpec.decode? with
  | none => simp only [Option.bind_none]
  | some spec =>
    cases o.content.get? "metadata" with
    | some j => simp only [Option.getD_some]
    | none =>
      simp only [Option.bind_some, Option.getD_none, Metadata.decode?_encode_renamed]
      cases Metadata.decode? o.metadata.encode with
      | none => simp only [Option.map_none, Option.bind_none]
      | some metadata => simp only [Option.map_some, Option.bind_some]

end Names

section Decisions

variable {m : Type → Type} [Monad m] (secrets : ResourceStore m Secret)

theorem decide_of_gated {q : Request} (h : q.Gated) : decide secrets q =
    match cluster q.object "object" with
    | .error e => pure (.error e)
    | .ok c => requireSecret secrets "Prometheus" c.prometheusSecretRef := by
  unfold decide
  rcases h with hop | hop
  · rw [hop]
    rfl
  · rw [hop]
    rfl

theorem decide_of_not_gated {q : Request} (h : ¬ q.Gated) : decide secrets q = pure (.ok ()) := by
  unfold decide
  cases hop : q.operation with
  | create => exact absurd (.inl hop) h
  | update => exact absurd (.inr hop) h
  | delete => cases previous q.oldObject <;> rfl
  | connect => rfl

end Decisions

theorem cluster_cases (object : Option AnyObject) (field : String) :
    (∃ detail, object.bind AnyObject.cluster? = none ∧
      cluster object field = .error (.invalidObject detail)) ∨
    ∃ c, object.bind AnyObject.cluster? = some c ∧ cluster object field = .ok c := by
  unfold cluster
  cases object with
  | none => exact .inl ⟨_, rfl, rfl⟩
  | some o =>
    dsimp only
    rw [Option.bind_some]
    cases o.cluster? with
    | none => exact .inl ⟨_, rfl, rfl⟩
    | some c => exact .inr ⟨c, rfl, rfl⟩

variable (s : Store Secret)

def ruling (c : ManagedCluster) : Except AdmissionError Unit :=
  if c.spec.prometheusSecret = "" then
    .error (.validation ("the name of the Prometheus secret in namespace " ++
      multiClusterNamespace ++ " must be specified"))
  else match s.lookup c.secretKey with
  | .ok (some _) => .ok ()
  | .ok none => .error (.validation ("the Prometheus secret " ++ c.spec.prometheusSecret ++
      " does not exist in namespace " ++ multiClusterNamespace))
  | .error e => .error (.store e)

theorem requireSecret_eq (c : ManagedCluster) :
    requireSecret Store.access "Prometheus" c.prometheusSecretRef s =
      (ruling s c, if c.spec.prometheusSecret = "" then s else s.logged (.get c.secretKey)) := by
  have hunset : c.prometheusSecretRef.isUnset = true ↔ c.spec.prometheusSecret = "" :=
    decide_eq_true_iff
  unfold requireSecret ruling
  by_cases hname : c.spec.prometheusSecret = ""
  · rw [if_pos (hunset.2 hname), if_pos hname, if_pos hname]
    rfl
  · rw [if_neg (mt hunset.1 hname), if_neg hname, if_neg hname]
    change (Store.access.find c.secretKey >>= _) s = _
    rw [bind_apply, s.find_eq]
    cases s.lookup c.secretKey with
    | error e => rfl
    | ok found => cases found <;> rfl

inductive Decided (q : Request) : Except AdmissionError Unit × Store Secret → Prop
  | free (h : ¬ q.Gated) : Decided q (.ok (), s)
  | unread {detail : String} (h : q.Gated) (none : q.cluster? = none) :
      Decided q (.error (.invalidObject detail), s)
  | ruled {c : ManagedCluster} (h : q.Gated) (some : q.cluster? = some c) : Decided q
      (ruling s c, if c.spec.prometheusSecret = "" then s else s.logged (.get c.secretKey))

theorem decide_decided (q : Request) : Decided s q (decide Store.access q s) := by
  by_cases h : q.Gated
  · rw [decide_of_gated Store.access h]
    rcases cluster_cases q.object "object" with ⟨detail, hnone, heq⟩ | ⟨c, hsome, heq⟩
    · rw [heq]
      exact .unread h hnone
    · rw [heq]
      dsimp only
      rw [requireSecret_eq]
      exact .ruled h hsome
  · rw [decide_of_not_gated Store.access h]
    exact .free h

theorem ruling_eq_ok {c : ManagedCluster} :
    ruling s c = .ok () ↔ c.spec.prometheusSecret ≠ "" ∧
      ∃ secret, s.lookup c.secretKey = .ok (some secret) := by
  unfold ruling
  by_cases hname : c.spec.prometheusSecret = ""
  · simp [hname]
  · rw [if_neg hname]
    cases s.lookup c.secretKey with
    | error e => simp
    | ok found => cases found <;> simp [hname]

theorem allowed_verdict {uid : String} {decision : Except AdmissionError Unit} :
    (verdict uid decision).allowed = true ↔ decision = .ok () := by
  cases decision with
  | ok => simp [verdict]
  | error e => cases e <;> simp [verdict]

theorem uid_verdict (uid : String) (decision : Except AdmissionError Unit) :
    (verdict uid decision).uid = uid := by
  cases decision with
  | ok => rfl
  | error e => cases e <;> rfl

structure Ruled (q : Request) (v : Verdict) : Prop where
  allowed : v.allowed = true ↔ ∃ c, q.cluster? = some c ∧ c.spec.prometheusSecret ≠ "" ∧
    ∃ secret, s.lookup c.secretKey = .ok (some secret)
  unnamed : ∀ c, q.cluster? = some c → c.spec.prometheusSecret = "" → v = denial q.uid
    "the name of the Prometheus secret in namespace monitoring-mc must be specified"
  absent : ∀ c, q.cluster? = some c → c.spec.prometheusSecret ≠ "" →
    s.lookup c.secretKey = .ok none → v = denial q.uid
      ("the Prometheus secret " ++ c.spec.prometheusSecret ++ " does not exist in namespace " ++
        "monitoring-mc")
  unread : q.cluster? = none → ∃ detail, v = denial q.uid ("internal error: " ++ detail)
  failed : ∀ c e, q.cluster? = some c → c.spec.prometheusSecret ≠ "" →
    s.lookup c.secretKey = .error e → ∃ detail, v = denial q.uid ("internal error: " ++ detail)

theorem ruled_verdict {q : Request} (h : q.Gated) :
    Ruled s q (verdict q.uid (decide Store.access q s).1) := by
  have hdecided := decide_decided s q
  generalize decide Store.access q s = outcome at hdecided ⊢
  cases hdecided with
  | free hfree => exact absurd h hfree
  | unread _ hnone => exact {
      allowed := by simp [allowed_verdict, hnone]
      unnamed := by simp [hnone]
      absent := by simp [hnone]
      unread := fun _ => ⟨_, rfl⟩
      failed := by simp [hnone] }
  | @ruled c _ hsome =>
    have hsame {c' : ManagedCluster} (hc' : q.cluster? = some c') : c' = c :=
      Option.some.inj (hc'.symm.trans hsome)
    refine ⟨?_, ?_, ?_, ?_, ?_⟩
    · rw [allowed_verdict, ruling_eq_ok]
      constructor
      · rintro ⟨hname, hthere⟩
        exact ⟨c, hsome, hname, hthere⟩
      · rintro ⟨c', hc', hname, hthere⟩
        obtain rfl := hsame hc'
        exact ⟨hname, hthere⟩
    · intro c' hc' hname
      obtain rfl := hsame hc'
      rw [ruling, if_pos hname]
      rfl
    · intro c' hc' hname habsent
      obtain rfl := hsame hc'
      rw [ruling, if_neg hname, habsent]
      rfl
    · intro hnone
      rw [hnone] at hsome
      cases hsome
    · intro c' e hc' hname herror
      obtain rfl := hsame hc'
      rw [ruling, if_neg hname, herror]
      exact ⟨_, rfl⟩

section Indifference

variable {s} {s' : Store Secret}

theorem lookup_congr {key : Key} (hfault : s'.fault? .get (some key) = s.fault? .get (some key))
    (hget : s'.objects.get? key = s.objects.get? key) : s'.lookup key = s.lookup key := by
  rw [Store.lookup, Store.lookup, hfault, hget]

theorem ruling_congr {c c' : ManagedCluster} (hspec : c'.spec = c.spec)
    (hlookup : s'.lookup c.secretKey = s.lookup c.secretKey) : ruling s' c' = ruling s c := by
  have hkey : c'.secretKey = c.secretKey := by
    rw [ManagedCluster.secretKey, ManagedCluster.secretKey, hspec]
  rw [ruling, ruling, hkey, hspec, hlookup]

/-- A decision rests on the operation, on what is said of the cluster apart from its metadata, and
on one look-up. -/
theorem decide_congr {q q' : Request} (hoperation : q'.operation = q.operation)
    (hspec : (cluster q'.object "object").map (·.spec) =
      (cluster q.object "object").map (·.spec))
    (hlookup : ∀ c, q.cluster? = some c → s'.lookup c.secretKey = s.lookup c.secretKey) :
    (decide Store.access q' s').1 = (decide Store.access q s).1 := by
  by_cases h : q.Gated
  · have h' : q'.Gated := by rwa [Request.Gated, hoperation]
    rw [decide_of_gated Store.access h, decide_of_gated Store.access h']
    rcases cluster_cases q.object "object" with ⟨detail, -, heq⟩ | ⟨c, hsome, heq⟩
    · rw [heq] at hspec ⊢
      cases hcluster : cluster q'.object "object" with
      | error e =>
        rw [hcluster] at hspec
        cases hspec
        rfl
      | ok c =>
        rw [hcluster] at hspec
        cases hspec
    · rw [heq] at hspec ⊢
      cases hcluster : cluster q'.object "object" with
      | error e =>
        rw [hcluster] at hspec
        cases hspec
      | ok c' =>
        rw [hcluster] at hspec
        dsimp only
        rw [requireSecret_eq, requireSecret_eq]
        exact ruling_congr (Except.ok.inj hspec) (hlookup c hsome)
  · have h' : ¬ q'.Gated := by rwa [Request.Gated, hoperation]
    rw [decide_of_not_gated Store.access h, decide_of_not_gated Store.access h']
    rfl

theorem spec_cluster_renamed (o : AnyObject) (name? ns? : Option String) (field : String) :
    (cluster (some (o.renamed name? ns?)) field).map (·.spec) =
      (cluster (some o) field).map (·.spec) := by
  have hspec := spec_cluster?_renamed o name? ns?
  rw [cluster, cluster]
  cases hc : o.cluster? with
  | none =>
    rw [hc, Option.map_none, Option.map_eq_none_iff] at hspec
    rw [hspec]
  | some c =>
    rw [hc, Option.map_some] at hspec
    obtain ⟨c', hc', hspec'⟩ := Option.map_eq_some_iff.1 hspec
    rw [hc']
    exact congrArg Except.ok hspec'

end Indifference

/-- How a review is answered, given the secrets. -/
structure Answered (r : Review) : Prop where
  unasked : r.request = none → (answer Store.access r s).1.verdict.allowed = false
  uid : ∀ q, r.request = some q → (answer Store.access r s).1.verdict.uid = q.uid
  ruled : ∀ q, r.request = some q → q.Gated → Ruled s q (answer Store.access r s).1.verdict
  free : ∀ q, r.request = some q → q.operation = .delete ∨ q.operation = .connect →
    (answer Store.access r s).1.verdict.allowed = true ∧ (answer Store.access r s).2 = s
  oldObject : ∀ q old, r.request = some q →
    (answer Store.access { r with request := some { q with oldObject := old } } s).1 =
      (answer Store.access r s).1
  renamed : ∀ q o name name? ns?, r.request = some q → q.object = some o →
    (answer Store.access
      { r with request := some { q with name, object := some (o.renamed name? ns?) } } s).1 =
      (answer Store.access r s).1
  others : ∀ s' : Store Secret, (∀ key?, s'.fault? .get key? = s.fault? .get key?) →
    (∀ q c, r.request = some q → q.cluster? = some c →
      s'.objects.get? c.secretKey = s.objects.get? c.secretKey) →
    (answer Store.access r s').1 = (answer Store.access r s).1
  calls : (answer Store.access r s).2 = s ∨ ∃ q c, r.request = some q ∧ q.cluster? = some c ∧
    (answer Store.access r s).2 = s.logged (.get c.secretKey)

theorem answer_of_request {r : Review} {q : Request} (h : r.request = some q) :
    answer Store.access r s =
      (⟨r.apiVersion, r.kind, verdict q.uid (decide Store.access q s).1⟩,
        (decide Store.access q s).2) := by
  rw [answer, h]
  rfl

theorem answer_congr {s s' : Store Secret} {r : Review} {q q' : Request} (h : r.request = some q)
    (huid : q'.uid = q.uid)
    (hdecide : (decide Store.access q' s').1 = (decide Store.access q s).1) :
    (answer Store.access { r with request := some q' } s').1 = (answer Store.access r s).1 := by
  rw [answer_of_request s' (r := { r with request := some q' }) rfl, answer_of_request s h, huid,
    hdecide]

/-- Just those clusters are let in whose secret is named and found, and nothing else about them or
about the other secrets counts. -/
theorem answered (s : Store Secret) (r : Review) : Answered s r where
  unasked h := by
    rw [answer, h]
    rfl
  uid q h := by
    rw [answer_of_request s h]
    exact uid_verdict q.uid _
  ruled q h hgated := by
    rw [answer_of_request s h]
    exact ruled_verdict s hgated
  free q h hoperation := by
    have hfree : ¬ q.Gated := by
      rcases hoperation with hop | hop <;> simp [Request.Gated, hop]
    rw [answer_of_request s h, decide_of_not_gated Store.access hfree]
    exact ⟨rfl, rfl⟩
  oldObject q old h := answer_congr h rfl (decide_congr rfl rfl fun _ _ => rfl)
  renamed q o name name? ns? h ho := by
    have hspec := spec_cluster_renamed o name? ns? "object"
    rw [← ho] at hspec
    exact answer_congr h rfl (decide_congr rfl hspec fun _ _ => rfl)
  others s' hfaults hobjects := by
    cases h : r.request with
    | none =>
      rw [answer, h]
      rfl
    | some q =>
      have hlookup : ∀ c, q.cluster? = some c → s'.lookup c.secretKey = s.lookup c.secretKey :=
        fun c hc => lookup_congr (hfaults _) (hobjects q c h hc)
      rw [answer_of_request s' h, answer_of_request s h, decide_congr rfl rfl hlookup]
  calls := by
    cases h : r.request with
    | none =>
      rw [answer, h]
      exact .inl rfl
    | some q =>
      rw [answer_of_request s h]
      have hdecided := decide_decided s q
      generalize decide Store.access q s = outcome at hdecided ⊢
      cases hdecided with
      | free => exact .inl rfl
      | unread => exact .inl rfl
      | @ruled c _ hsome =>
        by_cases hname : c.spec.prometheusSecret = ""
        · exact .inl (if_pos hname)
        · exact .inr ⟨q, c, rfl, hsome, if_neg hname⟩

end Admission

end MonitoringStack
