import MonitoringStack.Json.Difference
import MonitoringStack.Proofs.KeyMap

namespace MonitoringStack.Json

theorem overlay_of_isEmpty (existing : Json) {desired : Json} (h : desired.isEmpty = true) :
    existing.overlay desired = existing := by
  cases desired with
  | object fields =>
    obtain rfl : fields = [] := by simpa [isEmpty] using h
    rw [overlay]
  | null | bool | number | string | array => simp [overlay, h]

theorem overlay_of_leaf (existing : Json) {desired : Json} (h : ∀ fields, desired ≠ .object fields) :
    existing.overlay desired = if desired.isEmpty then existing else desired := by
  cases desired with
  | object fields => exact absurd rfl (h fields)
  | null | bool | number | string | array => rw [overlay] <;> simp

theorem sorted_overlayFields {existing : List (String × Json)} (h : Entries.Sorted existing)
    (desired : List (String × Json)) : Entries.Sorted (overlayFields existing desired) := by
  induction desired generalizing existing with
  | nil => simpa [overlayFields] using h
  | cons d rest ih =>
    obtain ⟨key, d⟩ := d
    rw [overlayFields]
    split
    · exact ih h
    · exact ih (Entries.sorted_insert _ _ h)

/-- What an overlay holds under a key depends on what the two sides hold there, and on nothing
else. -/
theorem get?_overlayFields {desired : List (String × Json)} (hs : Entries.Sorted desired)
    (existing : List (String × Json)) (key : String) :
    Entries.get? key (overlayFields existing desired) =
      match Entries.get? key desired with
      | none => Entries.get? key existing
      | some d =>
        if d.isEmpty then Entries.get? key existing
        else some (((Entries.get? key existing).getD .null).overlay d) := by
  induction desired generalizing existing with
  | nil => rw [overlayFields]; rfl
  | cons d rest ih =>
    obtain ⟨l, d⟩ := d
    obtain ⟨hhd, hrest⟩ := List.pairwise_cons.1 hs
    have hnone : Entries.get? l rest = none := Entries.get?_eq_none_of_lt hhd
    rw [overlayFields]
    by_cases hl : key = l
    · subst hl
      by_cases hd : d.isEmpty = true
      · simp [hd, ih hrest, hnone, Entries.get?]
      · simp [hd, ih hrest, hnone, Entries.get?]
    · by_cases hd : d.isEmpty = true
      · simp [hd, ih hrest, Entries.get?, hl]
      · simp [hd, ih hrest, Entries.get?, hl, Entries.get?_insert_of_ne hl]

theorem fieldChanges_eq_nil {path : String} {existing : Option Json}
    {desired : List (String × Json)} :
    fieldChanges path existing desired = [] ↔
      ∀ d ∈ desired, changes (childPath path d.1) (existing.bind (·.get? d.1)) d.2 = [] := by
  induction desired with
  | nil => simp [fieldChanges]
  | cons d rest ih =>
    obtain ⟨key, d⟩ := d
    simp [fieldChanges, ih]

theorem changes_of_leaf (path : String) (existing : Option Json) {desired : Json}
    (h : ∀ fields, desired ≠ .object fields) :
    changes path existing desired =
      if desired.isEmpty || existing.any (·.same desired) then [] else [(path, ⟨existing, desired⟩)] := by
  cases desired with
  | object fields => exact absurd rfl (h fields)
  | null | bool | number | string | array => rw [changes] <;> simp [BEq.beq]

theorem isEmpty_difference (existing desired : Json) :
    (existing.difference desired).isEmpty = (changes "" (some existing) desired).isEmpty :=
  KeyMap.isEmpty_ofList _

/-- A desired value that stands over an existing one in such a way that a change is reported
exactly if laying it on top makes one. -/
structure Laid (existing desired merged : Json) : Prop where
  overlay_eq : existing.overlay desired = merged
  changes_eq_nil : ∀ path, changes path (some existing) desired = [] ↔ merged = existing

/-- Objects that have the same fields in the same order, each standing over the other's. -/
inductive LaidFields :
    List (String × Json) → List (String × Json) → List (String × Json) → Prop
  | nil : LaidFields [] [] []
  | cons {key : String} {e d m : Json} {es ds ms : List (String × Json)} (head : Laid e d m)
      (tail : LaidFields es ds ms) : LaidFields ((key, e) :: es) ((key, d) :: ds) ((key, m) :: ms)

namespace LaidFields

variable {es ds ms : List (String × Json)}

theorem keys (h : LaidFields es ds ms) :
    ds.map (·.1) = es.map (·.1) ∧ ms.map (·.1) = es.map (·.1) := by
  induction h with
  | nil => exact ⟨rfl, rfl⟩
  | cons _ _ ih => simp [ih]

theorem get? (h : LaidFields es ds ms) (key : String) :
    (Entries.get? key es = none ∧ Entries.get? key ds = none ∧ Entries.get? key ms = none) ∨
      ∃ e d m, Laid e d m ∧ Entries.get? key es = some e ∧ Entries.get? key ds = some d ∧
        Entries.get? key ms = some m := by
  induction h with
  | nil => exact .inl ⟨rfl, rfl, rfl⟩
  | @cons l e d m es ds ms head tail ih =>
    by_cases hk : key = l
    · exact .inr ⟨e, d, m, head, by simp [Entries.get?, hk]⟩
    · simpa [Entries.get?, hk] using ih

theorem sorted_iff {xs ys : List (String × Json)} (h : xs.map (·.1) = ys.map (·.1)) :
    Entries.Sorted xs ↔ Entries.Sorted ys := by
  rw [Entries.sorted_iff_keys, Entries.sorted_iff_keys, h]

theorem overlayFields_eq (h : LaidFields es ds ms) (hs : Entries.Sorted es) :
    overlayFields es ds = ms := by
  have hds : Entries.Sorted ds := (sorted_iff h.keys.1).2 hs
  refine Entries.ext_get? (sorted_overlayFields hs ds) ((sorted_iff h.keys.2).2 hs) fun key => ?_
  rw [get?_overlayFields hds]
  rcases h.get? key with ⟨he, hd, hm⟩ | ⟨e, d, m, hl, he, hd, hm⟩
  · simp [he, hd, hm]
  · by_cases hempty : d.isEmpty = true
    · have hme : m = e := hl.overlay_eq ▸ overlay_of_isEmpty e hempty
      simp [he, hd, hm, hempty, hme]
    · simp [he, hd, hm, hempty, hl.overlay_eq]

theorem fieldChanges_eq_nil (h : LaidFields es ds ms) (hs : Entries.Sorted es) (path : String) :
    fieldChanges path (some (.object es)) ds = [] ↔ ms = es := by
  rw [Json.fieldChanges_eq_nil]
  have hds : Entries.Sorted ds := (sorted_iff h.keys.1).2 hs
  constructor
  · intro hall
    refine Entries.ext_get? ((sorted_iff h.keys.2).2 hs) hs fun key => ?_
    rcases h.get? key with ⟨he, hd, hm⟩ | ⟨e, d, m, hl, he, hd, hm⟩
    · rw [he, hm]
    · have hc := hall _ (Entries.mem_of_get? hd)
      simp only [Option.bind_some, Json.get?, fields, he] at hc
      rw [he, hm, (hl.changes_eq_nil _).1 hc]
  · rintro rfl ⟨key, d⟩ hmem
    rcases h.get? key with ⟨-, hd, -⟩ | ⟨e, d', m, hl, he, hd, hm⟩
    · rw [Entries.get?_of_mem hds hmem] at hd
      cases hd
    · obtain rfl : d = d' := Option.some.inj ((Entries.get?_of_mem hds hmem).symm.trans hd)
      obtain rfl : m = e := Option.some.inj (hm.symm.trans he)
      simpa only [Option.bind_some, Json.get?, fields, he] using (hl.changes_eq_nil _).2 rfl

end LaidFields

namespace Laid

theorem object (keys : List String) {es ds ms : List (String × Json)} (h : LaidFields es ds ms)
    (hkeys : es.map (·.1) = keys) (hs : keys.Pairwise (· < ·)) :
    Laid (.object es) (.object ds) (.object ms) := by
  have hsorted : Entries.Sorted es := Entries.sorted_iff_keys.2 (hkeys ▸ hs)
  constructor
  · cases h with
    | nil => rw [overlay]
    | cons head tail => rw [overlay, fields, (LaidFields.cons head tail).overlayFields_eq hsorted]
  · intro path
    rw [changes, h.fieldChanges_eq_nil hsorted, Json.object.injEq]

theorem leaf {existing desired : Json} (hd : ∀ fields, desired ≠ .object fields)
    (hs : existing.same desired = true ↔ existing = desired) :
    Laid existing desired (if desired.isEmpty then existing else desired) where
  overlay_eq := overlay_of_leaf existing hd
  changes_eq_nil path := by
    rw [changes_of_leaf path _ hd]
    by_cases he : desired.isEmpty = true
    · simp [he]
    · by_cases heq : existing = desired
      · subst heq
        simp [he, hs.2 rfl]
      · simp [he, mt hs.1 heq, Ne.symm heq]

end Laid

end MonitoringStack.Json
