import MonitoringStack.Json.Basic
import MonitoringStack.Proofs.KeyMap

namespace MonitoringStack

namespace Binary64

theorem same_refl (x : Binary64) : x.same x = true := by
  simp [same]

theorem same_comm (x y : Binary64) : x.same y = y.same x := by
  unfold same isZero
  by_cases hmagnitude : x.magnitude = y.magnitude
  · simp [hmagnitude, eq_comm]
  · simp [hmagnitude, Ne.symm hmagnitude]

end Binary64

namespace Json

namespace Number

theorem same_refl (n : Number) : n.same n = true := by
  cases n with
  | int n => simp [same]
  | real x => exact x.same_refl

theorem same_comm (m n : Number) : m.same n = n.same m := by
  cases m <;> cases n <;> simp [same, eq_comm, Binary64.same_comm]

end Number

mutual

theorem same_refl : ∀ j : Json, j.same j = true
  | .null => rfl
  | .bool b => by simp [same]
  | .number n => by rw [same, n.same_refl]
  | .string s => by simp [same]
  | .array items => by rw [same, sameItems_refl items]
  | .object fields => by rw [same, sameFields_refl fields]

theorem sameItems_refl : ∀ items : List Json, sameItems items items = true
  | [] => rfl
  | j :: rest => by rw [sameItems, same_refl j, sameItems_refl rest, Bool.and_self]

theorem sameFields_refl : ∀ fields : List (String × Json), sameFields fields fields = true
  | [] => rfl
  | (key, j) :: rest => by simp [sameFields, same_refl j, sameFields_refl rest]

end

mutual

theorem same_comm : ∀ j k : Json, j.same k = k.same j
  | .null, k => by cases k <;> rfl
  | .bool b, k => by cases k <;> simp [same, eq_comm]
  | .number n, k => by cases k <;> simp [same, n.same_comm]
  | .string s, k => by cases k <;> simp [same, eq_comm]
  | .array items, k => by cases k <;> simp [same, sameItems_comm items]
  | .object fields, k => by cases k <;> simp [same, sameFields_comm fields]

theorem sameItems_comm : ∀ xs ys : List Json, sameItems xs ys = sameItems ys xs
  | [], ys => by cases ys <;> rfl
  | x :: xs, ys => by cases ys <;> simp [sameItems, same_comm x, sameItems_comm xs]

theorem sameFields_comm :
    ∀ fs gs : List (String × Json), sameFields fs gs = sameFields gs fs
  | [], gs => by cases gs <;> rfl
  | (k, x) :: fs, gs => by
    cases gs <;> simp [sameFields, same_comm x, sameFields_comm fs, eq_comm]

end

/-- Sorted fields are equal if under each key there is nothing on either side or there are equal
values. -/
theorem sameFields_iff {fs gs : List (String × Json)} (hfs : Entries.Sorted fs)
    (hgs : Entries.Sorted gs) :
    sameFields fs gs = true ↔ ∀ key, Option.Rel (fun j k => j.same k = true)
      (Entries.get? key fs) (Entries.get? key gs) := by
  induction fs generalizing gs with
  | nil =>
    cases gs with
    | nil => simp [sameFields, Entries.get?]
    | cons g gs =>
      refine iff_of_false (by simp [sameFields]) fun h => ?_
      have hg := h g.1
      simp only [Entries.get?] at hg
      cases hg
  | cons f fs ih =>
    obtain ⟨k, x⟩ := f
    obtain ⟨hf, hfs'⟩ := List.pairwise_cons.1 hfs
    cases gs with
    | nil =>
      refine iff_of_false (by simp [sameFields]) fun h => ?_
      have hk := h k
      simp only [Entries.get?] at hk
      cases hk
    | cons g gs =>
      obtain ⟨l, y⟩ := g
      obtain ⟨hg, hgs'⟩ := List.pairwise_cons.1 hgs
      have hrest := ih hfs' hgs'
      constructor
      · intro h key
        simp only [sameFields, Bool.and_eq_true, decide_eq_true_eq] at h
        obtain ⟨⟨rfl, hxy⟩, hsame⟩ := h
        by_cases hkey : key = k
        · simpa [Entries.get?, hkey] using hxy
        · simpa [Entries.get?, hkey] using hrest.1 hsame key
      · intro h
        have hk := h k
        have hl := h l
        have hkl : k = l := by
          apply KeyOrder.eq_of_not_lt
          · apply Entries.not_lt_head hgs
            intro hnone
            rw [hnone] at hk
            simp [Entries.get?] at hk
          · apply Entries.not_lt_head hfs
            intro hnone
            rw [hnone] at hl
            simp [Entries.get?] at hl
        subst hkl
        have hxy : x.same y = true := by simpa [Entries.get?] using hk
        have hsame : sameFields fs gs = true := by
          refine hrest.2 fun key => ?_
          by_cases hkey : key = k
          · rw [hkey, Entries.get?_eq_none_of_lt hf, Entries.get?_eq_none_of_lt hg]
            exact .none
          · simpa [Entries.get?, hkey] using h key
        simp [sameFields, hxy, hsame]

end Json

end MonitoringStack
