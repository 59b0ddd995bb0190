import MonitoringStack.Proofs.Store.Operations

namespace MonitoringStack

open Kube

theorem toString_nat_injective {m n : Nat} (h : toString m = toString n) : m = n := by
  have hdigits : Nat.toDigits 10 m = Nat.toDigits 10 n := by
    rw [← Nat.toList_repr, ← Nat.toList_repr]
    exact congrArg String.toList h
  rw [← Nat.ofDigitChars_ten_toDigits (n := m), hdigits, Nat.ofDigitChars_ten_toDigits]

namespace Store

variable {α : Type} [Resource α]

/-- Every object stands under the key it names for itself and carries a version that was made for
it, none that is yet to be made. -/
def Stamped (s : Store α) : Prop :=
  ∀ key a, s.objects.get? key = some a →
    Key.of a = key ∧ ∃ n < s.nextVersion, version? a = some (toString n)

theorem stamped_empty : Stamped ({} : Store α) := by
  intro key a ha
  cases ha

/-- A later state of a store: an object that was not there before carries a version made since. -/
structure Evolves (s s' : Store α) : Prop where
  nextVersion : s.nextVersion ≤ s'.nextVersion
  get? : ∀ key a, s'.objects.get? key = some a → s.objects.get? key = some a ∨
    (Key.of a = key ∧
      ∃ n, s.nextVersion ≤ n ∧ n < s'.nextVersion ∧ version? a = some (toString n))

/-- An object that was read from a store: what stands in its place under the same version is the
object as it was read. -/
structure Snapshot (s : Store α) (a : α) : Prop where
  issued : ∃ n < s.nextVersion, version? a = some (toString n)
  current : ∀ b, s.objects.get? (Key.of a) = some b → version? b = version? a → b = a

namespace Evolves

variable {s s' : Store α}

theorem refl (s : Store α) : Evolves s s := ⟨Nat.le_refl _, fun _ _ h => .inl h⟩

theorem stamped (h : Evolves s s') (hs : Stamped s) : Stamped s' := by
  intro key a ha
  rcases h.get? key a ha with ha' | ⟨hkey, n, -, hn, hv⟩
  · obtain ⟨hkey, n, hn, hv⟩ := hs key a ha'
    exact ⟨hkey, n, Nat.lt_of_lt_of_le hn h.nextVersion, hv⟩
  · exact ⟨hkey, n, hn, hv⟩

theorem snapshot (h : Evolves s s') {a : α} (ha : Snapshot s a) : Snapshot s' a := by
  obtain ⟨n, hn, hv⟩ := ha.issued
  refine ⟨⟨n, Nat.lt_of_lt_of_le hn h.nextVersion, hv⟩, fun b hb hvb => ?_⟩
  rcases h.get? _ b hb with hb' | ⟨-, m, hm, -, hvm⟩
  · exact ha.current b hb' hvb
  · have hmn : m = n := toString_nat_injective (Option.some.inj (hvm.symm.trans (hvb.trans hv)))
    omega

theorem of_subset (hn : s.nextVersion ≤ s'.nextVersion)
    (h : ∀ key a, s'.objects.get? key = some a → s.objects.get? key = some a) : Evolves s s' :=
  ⟨hn, fun key a ha => .inl (h key a ha)⟩

theorem of_insert {a : α} (hn : s'.nextVersion = s.nextVersion + 1)
    (h : s'.objects = s.objects.insert (Key.of a) a)
    (hv : version? a = some (toString s.nextVersion)) : Evolves s s' := by
  refine ⟨by omega, fun key b hb => ?_⟩
  rw [h, KeyMap.get?_insert] at hb
  by_cases hkey : key = Key.of a
  · obtain rfl : a = b := by simpa [hkey] using hb
    exact .inr ⟨hkey.symm, s.nextVersion, Nat.le_refl _, by omega, hv⟩
  · exact .inl (by simpa [hkey] using hb)

theorem of_erase {key : Key} (hn : s'.nextVersion = s.nextVersion)
    (h : s'.objects = s.objects.erase key) : Evolves s s' := by
  refine .of_subset (Nat.le_of_eq hn.symm) fun l a ha => ?_
  rw [h] at ha
  by_cases hl : l = key
  · simp [hl] at ha
  · rwa [KeyMap.get?_erase_of_ne _ hl] at ha

end Evolves

variable {s s' : Store α}

theorem Untouched.evolves (h : Untouched s s') : Evolves s s' :=
  .of_subset h.nextVersion fun key a ha => by rwa [h.objects] at ha

theorem create_evolves (s : Store α) (a : α) : Evolves s (s.create a).2 := by
  rcases s.create_cases a with ⟨e, -, h⟩ | ⟨-, -, h⟩
  · exact h.evolves
  · exact .of_insert h.nextVersion h.objects (version?_stampNew s a)

theorem update_evolves (s : Store α) (a : α) : Evolves s (s.update a).2 := by
  rcases s.update_cases a with ⟨e, -, h⟩ | ⟨current, -, -, -, h⟩
  · exact h.evolves
  · exact .of_insert h.nextVersion h.objects (version?_stampNext s current a)

theorem delete_evolves (s : Store α) (key : Key) : Evolves s (s.delete key).2 := by
  rcases s.delete_cases key with ⟨e, -, h⟩ | ⟨-, hobjects, hnext, -⟩
  · exact h.evolves
  · exact .of_erase hnext hobjects

theorem modify_evolves (hs : Stamped s) (key : Key) {change : α → α}
    (hchange : ∀ a, Key.of (change a) = Key.of a) : Evolves s (s.modify key change).2 := by
  rcases s.modify_cases key change with ⟨-, -, h⟩ | ⟨a, hget, -, h⟩
  · exact h.evolves
  · have hw := h ((hchange a).trans (hs key a hget).1)
    exact .of_insert hw.nextVersion hw.objects (version?_withVersion _ _)

theorem insert_evolves (s : Store α) {a : α} (h : version? a = none) :
    Evolves s (s.insert a).2 := by
  obtain ⟨hv, hw⟩ := s.insert_wrote h
  exact .of_insert hw.nextVersion hw.objects hv

theorem Stamped.snapshot (hs : Stamped s) {key : Key} {a : α} (h : s.objects.get? key = some a) :
    Snapshot s a := by
  obtain ⟨rfl, hissued⟩ := hs key a h
  exact ⟨hissued, fun b hb _ => Option.some.inj (hb.symm.trans h)⟩

/-- An update with the version of a snapshot goes through only over that snapshot. -/
theorem Snapshot.update_cases (hs : Stamped s) {a b : α} (ha : Snapshot s a)
    (hkey : Key.of b = Key.of a) (hv : version? b = version? a) :
    (∃ e, (s.update b).1 = .error e ∧ Untouched s (s.update b).2) ∨
      (s.objects.get? (Key.of a) = some a ∧ (s.update b).1 = .ok (s.stampNext a b) ∧
        Wrote s (s.update b).2 (s.stampNext a b)) := by
  rcases s.update_cases b with h | ⟨current, hget, htoken, hr, h⟩
  · exact .inl h
  · -- the token was current, so the stored object has the version of the snapshot
    obtain ⟨n, -, hn⟩ := ha.issued
    obtain ⟨-, m, -, hm⟩ := hs _ current hget
    rw [hkey] at hget
    have hversion : version? current = version? a := by
      rw [hn, hm, htoken _ (hv.trans hn), hm, Option.getD_some]
    obtain rfl : current = a := ha.current current hget hversion
    exact .inr ⟨hget, hr, h⟩

end Store

end MonitoringStack
