import MonitoringStack.Proofs.Reconcile.Labels
import MonitoringStack.Proofs.Resource.Merge

namespace MonitoringStack

open Kube Json

namespace Ownership

/-- No binding of another namespace is recorded as the owner. -/
def OpenTo (ns : String) (i : MonitoringInstance) : Prop :=
  ∀ owner, ownerNs? i = some owner → owner = ns

theorem filter_ownerNs?_eq_none {ns : String} {i : MonitoringInstance} (h : OpenTo ns i) :
    (ownerNs? i).filter (· ≠ ns) = none := by
  cases ho : ownerNs? i with
  | none => rfl
  | some owner => simp [h owner ho]

end Ownership

namespace Desired

open Ownership

variable (d : Desired) (i : MonitoringInstance)

def settle : MonitoringInstance where
  metadata := { i.metadata with labels := some (laidOver d.labels (i.metadata.labels.getD ∅)) }
  spec := d.spec.laidOver i.spec

/-- Nothing is desired of the instance that it does not have. -/
def Agrees : Prop :=
  laidOver d.labels (i.metadata.labels.getD ∅) = i.metadata.labels.getD ∅ ∧
    d.spec.laidOver i.spec = i.spec

instance : Decidable (d.Agrees i) := inferInstanceAs (Decidable (_ ∧ _))

theorem laid_comparable (labels : Labels) :
    Laid (comparable labels i.spec) (comparable d.labels (d.spec.withClaimsOf i.spec))
      (comparable (laidOver d.labels labels) (d.spec.laidOver i.spec)) := by
  refine .object ["metadata", "spec"] (.cons ?_ (.cons (InstanceSpec.laid _ _) .nil)) rfl (by decide)
  exact .object ["labels"] (.cons (Ownership.laid _ _) .nil) rfl (by decide)

theorem comparable_inj {labels labels' : Labels} {spec spec' : InstanceSpec} :
    comparable labels spec = comparable labels' spec' ↔ labels = labels' ∧ spec = spec' := by
  constructor
  · intro h
    simp only [comparable, Json.object.injEq, List.cons.injEq, Prod.mk.injEq, true_and,
      and_true] at h
    exact ⟨Wire.stringMap_injective h.1, InstanceSpec.encode_injective h.2⟩
  · rintro ⟨rfl, rfl⟩
    rfl

theorem ofComparable_comparable (labels : Labels) (spec : InstanceSpec) :
    ofComparable i (comparable labels spec) =
      .ok { metadata := { i.metadata with labels := some labels }, spec } := by
  have hlabels : (comparable labels spec).at? ["metadata", "labels"] =
      some (Wire.stringMap labels) := by
    simp [comparable, at?, Json.get?, fields, Entries.get?]
  have hspec : (comparable labels spec).at? ["spec"] = some spec.encode := by
    simp [comparable, at?, Json.get?, fields, Entries.get?]
  simp only [ofComparable, hlabels, hspec, Option.bind_some, Wire.map?_stringMap,
    InstanceSpec.decode?_encode]

/-- What is laid out as JSON, compared, laid over and read back comes to a merge of the typed
values, and reading back never fails. -/
theorem converge_eq :
    d.converge i = .ok (if d.Agrees i then .keep else .update (d.settle i)) := by
  have hlaid := d.laid_comparable i (i.metadata.labels.getD ∅)
  have hempty : (Json.changes "" (some (comparable (i.metadata.labels.getD ∅) i.spec))
      (comparable d.labels (d.spec.withClaimsOf i.spec))).isEmpty = true ↔ d.Agrees i := by
    rw [List.isEmpty_iff, hlaid.changes_eq_nil, comparable_inj, Agrees]
  rw [converge]
  simp only [isEmpty_difference]
  by_cases h : d.Agrees i
  · rw [if_pos (hempty.2 h), if_pos h]
  · rw [if_neg (mt hempty.1 h), if_neg h, hlaid.overlay_eq, ofComparable_comparable]
    rfl

theorem decide_some {i : MonitoringInstance} (h : OpenTo d.binding.ns i) :
    d.decide (some i) = .ok (if d.Agrees i then .keep else .update (d.settle i)) := by
  simp only [decide, filter_ownerNs?_eq_none h, converge_eq]

theorem decide_stranger {i : MonitoringInstance} {owner : String}
    (ho : ownerNs? i = some owner) (hne : owner ≠ d.binding.ns) :
    d.decide (some i) = .error (.invalidInput (d.strangerText owner)) := by
  simp [decide, ho, hne, Option.filter]

theorem decide_cases {found : Option MonitoringInstance} {decision : Decision}
    (h : d.decide found = .ok decision) :
    (found = none ∧ decision = .create d.newInstance) ∨
      ∃ i, found = some i ∧ OpenTo d.binding.ns i ∧
        ((d.Agrees i ∧ decision = .keep) ∨ (¬ d.Agrees i ∧ decision = .update (d.settle i))) := by
  cases found with
  | none =>
    refine .inl ⟨rfl, ?_⟩
    simpa [decide, eq_comm] using h
  | some i =>
    have hopen : OpenTo d.binding.ns i := by
      intro owner ho
      by_cases hne : owner = d.binding.ns
      · exact hne
      · rw [d.decide_stranger ho hne] at h
        cases h
    rw [d.decide_some hopen] at h
    refine .inr ⟨i, rfl, hopen, ?_⟩
    by_cases ha : d.Agrees i
    · exact .inl ⟨ha, by simpa [ha, eq_comm] using h⟩
    · exact .inr ⟨ha, by simpa [ha, eq_comm] using h⟩

@[simp] theorem key_settle : Key.of (d.settle i) = Key.of i := rfl

theorem ofBinding_eq {build : SpecBuilder} {binding : Binding} (h : ofBinding build binding = .ok d) :
    d.binding = ⟨binding.ns, binding.name⟩ ∧ d.labels = Ownership.labels binding.name binding.ns ∧
      build binding = .ok d.spec := by
  unfold ofBinding at h
  cases hb : build binding with
  | error e => simp [hb] at h
  | ok spec =>
    obtain rfl : _ = d := by simpa [hb] using h
    exact ⟨rfl, rfl, rfl⟩

theorem agrees_newInstance : d.Agrees d.newInstance :=
  ⟨laidOver_self d.labels, d.spec.laidOver_self⟩

theorem agrees_settle : d.Agrees (d.settle i) :=
  ⟨laidOver_laidOver _ _, d.spec.laidOver_laidOver i.spec⟩

section Owner

variable {build : SpecBuilder} {binding : Binding} {d : Desired}

theorem ownerNs?_newInstance (hd : ofBinding build binding = .ok d) :
    ownerNs? d.newInstance = some binding.ns := by
  obtain ⟨-, hlabels, -⟩ := d.ofBinding_eq hd
  change d.labels.get? bindingNamespaceLabel = some binding.ns
  rw [hlabels, get?_bindingNamespaceLabel]

theorem ownerNs?_settle (hd : ofBinding build binding = .ok d) (i : MonitoringInstance) :
    ownerNs? (d.settle i) = if binding.ns = "" then ownerNs? i else some binding.ns := by
  obtain ⟨-, hlabels, -⟩ := d.ofBinding_eq hd
  change (laidOver d.labels (i.metadata.labels.getD ∅)).get? bindingNamespaceLabel = _
  rw [get?_laidOver, hlabels, get?_bindingNamespaceLabel, get?_getD_labels]
  rfl

theorem openTo_newInstance (hd : ofBinding build binding = .ok d) :
    OpenTo d.binding.ns d.newInstance := by
  obtain ⟨hbinding, -, -⟩ := d.ofBinding_eq hd
  intro owner howner
  rw [ownerNs?_newInstance hd] at howner
  rw [hbinding]
  exact (Option.some.inj howner).symm

theorem openTo_settle (hd : ofBinding build binding = .ok d) {i : MonitoringInstance}
    (hopen : OpenTo d.binding.ns i) : OpenTo d.binding.ns (d.settle i) := by
  obtain ⟨hbinding, -, -⟩ := d.ofBinding_eq hd
  intro owner howner
  rw [ownerNs?_settle hd] at howner
  by_cases hns : binding.ns = ""
  · -- nothing is laid, and the label is the existing one
    rw [if_pos hns] at howner
    exact hopen owner howner
  · rw [if_neg hns] at howner
    rw [hbinding]
    exact (Option.some.inj howner).symm

theorem ownerNs?_settle_of_openTo (hd : ofBinding build binding = .ok d) {i : MonitoringInstance}
    {owner : String} (hopen : OpenTo d.binding.ns i) (howner : ownerNs? i = some owner) :
    ownerNs? (d.settle i) = some owner := by
  obtain ⟨hbinding, -, -⟩ := d.ofBinding_eq hd
  have hns : owner = binding.ns := by rw [hopen owner howner, hbinding]
  rw [ownerNs?_settle hd, howner, hns, ite_self]

end Owner

end Desired

end MonitoringStack
