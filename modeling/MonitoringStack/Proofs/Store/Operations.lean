import MonitoringStack.Proofs.KeyMap
import MonitoringStack.Store.Basic

namespace MonitoringStack

open Kube

theorem bind_apply {σ α β : Type} (x : StateM σ α) (f : α → StateM σ β) (s : σ) :
    (x >>= f) s = f (x s).1 (x s).2 := rfl

namespace Store

variable {α : Type} [Resource α]

@[simp] theorem metadata_withVersion (version : String) (a : α) :
    Resource.metadata (withVersion version a) =
      { Resource.metadata a with resourceVersion := some version } :=
  Resource.metadata_withMetadata _ _

@[simp] theorem metadata_withUid (uid? : Option String) (a : α) :
    Resource.metadata (withUid uid? a) = { Resource.metadata a with uid := uid? } :=
  Resource.metadata_withMetadata _ _

@[simp] theorem key_withVersion (version : String) (a : α) :
    Key.of (withVersion version a) = Key.of a := by
  simp [Key.of, Metadata.namespaceOrEmpty]

@[simp] theorem key_withUid (uid? : Option String) (a : α) : Key.of (withUid uid? a) = Key.of a := by
  simp [Key.of, Metadata.namespaceOrEmpty]

@[simp] theorem version?_withVersion (version : String) (a : α) :
    version? (withVersion version a) = some version := by
  simp [version?]

@[simp] theorem version?_withUid (uid? : Option String) (a : α) :
    version? (withUid uid? a) = version? a := by
  simp [version?]

def stampNew (s : Store α) (a : α) : α :=
  withUid (some (uidText s.nextUid)) (withVersion (toString s.nextVersion) a)

def stampNext (s : Store α) (current a : α) : α :=
  withVersion (toString s.nextVersion) (withUid (Resource.metadata current).uid a)

@[simp] theorem key_stampNew (s : Store α) (a : α) : Key.of (s.stampNew a) = Key.of a := by
  simp [stampNew]

@[simp] theorem key_stampNext (s : Store α) (current a : α) :
    Key.of (s.stampNext current a) = Key.of a := by
  simp [stampNext]

@[simp] theorem version?_stampNew (s : Store α) (a : α) :
    version? (s.stampNew a) = some (toString s.nextVersion) := by
  simp [stampNew]

@[simp] theorem version?_stampNext (s : Store α) (current a : α) :
    version? (s.stampNext current a) = some (toString s.nextVersion) := by
  simp [stampNext]

variable (s : Store α)

omit [Resource α] in
@[simp] theorem objects_logged (call : StoreCall) : (s.logged call).objects = s.objects := rfl

omit [Resource α] in
@[simp] theorem calls_logged (call : StoreCall) : (s.logged call).calls = s.calls ++ [call] := rfl

omit [Resource α] in
@[simp] theorem fault?_logged (call : StoreCall) (op : StoreOp) (key? : Option Key) :
    (s.logged call).fault? op key? = s.fault? op key? := rfl

omit [Resource α] in
theorem fault?_of_faults_eq_nil {s : Store α} (h : s.faults = []) (op : StoreOp)
    (key? : Option Key) : s.fault? op key? = none := by
  cases key? <;> simp [fault?, h]

theorem identity_eq {a : α} (hns : (Key.of a).ns ≠ "") (hname : (Key.of a).name ≠ "") :
    identity a = .ok (Key.of a) := by
  simp [identity, hns, hname]

theorem key_of_identity {a : α} {key : Key} (h : identity a = .ok key) : key = Key.of a := by
  unfold identity at h
  by_cases hname : (Key.of a).name = ""
  · simp [hname] at h
  · by_cases hns : (Key.of a).ns = ""
    · simp [hname, hns] at h
    · simpa [hname, hns, eq_comm] using h

@[simp] theorem get_snd (key : Key) : (s.get key).2 = s.logged (.get key) := by
  unfold get
  dsimp only
  split
  · rfl
  · split <;> rfl

@[simp] theorem list_snd (ns? : Option String) (selector : Selector) :
    (s.list ns? selector).2 = s.logged (.list ns? selector.query) := by
  unfold list
  dsimp only
  split <;> rfl

theorem get_ok {key : Key} {a : α} (h : (s.get key).1 = .ok a) : s.objects.get? key = some a := by
  unfold get at h
  dsimp only at h
  split at h
  · cases h
  · cases hget : s.objects.get? key with
    | none => simp [hget] at h
    | some b => simpa [hget] using h

theorem get_eq {key : Key} (hf : s.fault? .get (some key) = none) :
    (s.get key).1 = match s.objects.get? key with
      | some a => .ok a
      | none => .error (.notFound (describe α key)) := by
  unfold get
  simp only [fault?_logged, hf, objects_logged]
  cases s.objects.get? key <;> rfl

/-- What a look-up comes to. It takes an error that tells of absence for absence. -/
def lookup (key : Key) : Except StoreError (Option α) :=
  match s.fault? .get (some key) with
  | none => .ok (s.objects.get? key)
  | some .notFound => .ok none
  | some fault => .error (fault.error (describe α key))

theorem find_eq (key : Key) : access.find key s = (s.lookup key, s.logged (.get key)) := by
  change (ResourceStore.found (s.get key).1, (s.get key).2) = _
  rw [get_snd, lookup, get, fault?_logged, objects_logged]
  cases s.fault? .get (some key) with
  | some fault => cases fault <;> rfl
  | none => cases s.objects.get? key <;> rfl

/-- The states that an operation can end in when it writes nothing. -/
structure Untouched (s s' : Store α) : Prop where
  objects : s'.objects = s.objects
  nextVersion : s.nextVersion ≤ s'.nextVersion
  faults : s'.faults = s.faults

/-- The states in which the object at a key was set. -/
structure Wrote (s s' : Store α) (a : α) : Prop where
  objects : s'.objects = s.objects.insert (Key.of a) a
  nextVersion : s'.nextVersion = s.nextVersion + 1
  faults : s'.faults = s.faults

theorem Wrote.get?_objects {s s' : Store α} {a : α} (h : Wrote s s' a) (key : Key) :
    s'.objects.get? key = if key = Key.of a then some a else s.objects.get? key := by
  rw [h.objects, KeyMap.get?_insert]

def Keyed (s : Store α) : Prop := ∀ key a, s.objects.get? key = some a → Key.of a = key

theorem keyed_empty : Keyed ({} : Store α) := by
  intro key a ha
  cases ha

theorem Wrote.keyed {s s' : Store α} {a : α} (h : Wrote s s' a) (hs : Keyed s) : Keyed s' := by
  intro key b hget
  rw [h.get?_objects] at hget
  split at hget
  · next hkey => rw [hkey, Option.some.inj hget]
  · exact hs key b hget

theorem create_cases (a : α) :
    (∃ e, (s.create a).1 = .error e ∧ Untouched s (s.create a).2) ∨
      (s.objects.get? (Key.of a) = none ∧ (s.create a).1 = .ok (s.stampNew a) ∧
        Wrote s (s.create a).2 (s.stampNew a)) := by
  unfold create
  cases hid : identity a with
  | error e => exact .inl ⟨e, rfl, rfl, Nat.le_refl _, rfl⟩
  | ok key =>
    obtain rfl := key_of_identity hid
    dsimp only
    split
    · exact .inl ⟨_, rfl, rfl, Nat.le_refl _, rfl⟩
    · split
      · exact .inl ⟨_, rfl, rfl, Nat.le_succ _, rfl⟩
      · rename_i hnone
        refine .inr ⟨?_, rfl, ?_, rfl, rfl⟩
        · exact KeyMap.contains_eq_false.1 (by simpa using hnone)
        · rw [key_stampNew]
          rfl

theorem modify_cases (key : Key) (change : α → α) :
    (s.objects.get? key = none ∧ (s.modify key change).1 = false ∧
        Untouched s (s.modify key change).2) ∨
      ∃ a, s.objects.get? key = some a ∧ (s.modify key change).1 = true ∧
        (Key.of (change a) = key →
          Wrote s (s.modify key change).2 (withVersion (toString s.nextVersion) (change a))) := by
  unfold modify
  dsimp only
  cases hget : s.objects.get? key with
  | none => exact .inl ⟨rfl, rfl, rfl, Nat.le_succ _, rfl⟩
  | some a =>
    refine .inr ⟨a, rfl, rfl, ?_⟩
    rintro rfl
    exact ⟨by rw [key_withVersion], rfl, rfl⟩

theorem key_insert (a : α) : Key.of (s.insert a).1 = Key.of a := by
  unfold insert
  cases version? a with
  | none =>
    dsimp only
    cases (Resource.metadata (withVersion (toString s.nextVersion) a)).uid <;> simp
  | some version =>
    dsimp only
    cases (Resource.metadata a).uid <;> simp

theorem insert_wrote {a : α} (h : version? a = none) :
    version? (s.insert a).1 = some (toString s.nextVersion) ∧
      Wrote s (s.insert a).2 (s.insert a).1 := by
  unfold insert
  simp only [h, metadata_withVersion]
  cases (Resource.metadata a).uid with
  | none => exact ⟨by simp, by simp, rfl, rfl⟩
  | some uid => exact ⟨by simp, by simp, rfl, rfl⟩

variable {s} in
theorem Keyed.insert (hs : Keyed s) {a : α} (h : version? a = none) : Keyed (s.insert a).2 :=
  (s.insert_wrote h).2.keyed hs

/-- An update goes through only over a stored object whose version it carries, or carrying none. -/
theorem update_cases (a : α) :
    (∃ e, (s.update a).1 = .error e ∧ Untouched s (s.update a).2) ∨
      ∃ current, s.objects.get? (Key.of a) = some current ∧
        (∀ version, version? a = some version → version = (version? current).getD "") ∧
        (s.update a).1 = .ok (s.stampNext current a) ∧
        Wrote s (s.update a).2 (s.stampNext current a) := by
  unfold update
  cases hid : identity a with
  | error e => exact .inl ⟨e, rfl, rfl, Nat.le_refl _, rfl⟩
  | ok key =>
    obtain rfl := key_of_identity hid
    dsimp only
    split
    · exact .inl ⟨_, rfl, rfl, Nat.le_refl _, rfl⟩
    · split
      · exact .inl ⟨_, rfl, rfl, Nat.le_succ _, rfl⟩
      · rename_i current hcurrent
        split
        · rename_i hversion
          refine .inr ⟨current, hcurrent, ?_, rfl, ?_, rfl, rfl⟩
          · intro version hv
            simpa [hv] using hversion
          · rw [key_stampNext]
            rfl
        · exact .inl ⟨_, rfl, rfl, Nat.le_succ _, rfl⟩

theorem delete_cases (key : Key) :
    (∃ e, (s.delete key).1 = .error e ∧ Untouched s (s.delete key).2) ∨
      ((s.delete key).1 = .ok () ∧ (s.delete key).2.objects = s.objects.erase key ∧
        (s.delete key).2.nextVersion = s.nextVersion ∧ (s.delete key).2.faults = s.faults) := by
  unfold delete
  dsimp only
  split
  · exact .inl ⟨_, rfl, rfl, Nat.le_refl _, rfl⟩
  · split
    · exact .inr ⟨rfl, rfl, rfl, rfl⟩
    · exact .inl ⟨_, rfl, rfl, Nat.le_refl _, rfl⟩

theorem create_unidentified {a : α} {e : StoreError} (h : identity a = .error e) :
    s.create a = (.error e, s) := by
  rw [create, h]

theorem update_unidentified {a : α} {e : StoreError} (h : identity a = .error e) :
    s.update a = (.error e, s) := by
  rw [update, h]

/-- A write is noted if its object names its place, whether it then goes through or not. -/
theorem calls_create (a : α) :
    (s.create a).2.calls = s.calls ++ ((identity a).toOption.map StoreCall.create).toList := by
  unfold create
  cases identity a with
  | error e => exact (List.append_nil _).symm
  | ok key =>
    dsimp only
    split
    · rfl
    · split <;> rfl

theorem calls_update (a : α) :
    (s.update a).2.calls = s.calls ++ ((identity a).toOption.map StoreCall.update).toList := by
  unfold update
  cases identity a with
  | error e => exact (List.append_nil _).symm
  | ok key =>
    dsimp only
    split
    · rfl
    · split
      · rfl
      · split <;> rfl

section Faultless

variable {s}

theorem get_faultless (hf : s.faults = []) (key : Key) :
    s.get key = (match s.objects.get? key with
      | some a => .ok a
      | none => .error (.notFound (describe α key)), s.logged (.get key)) :=
  Prod.ext (get_eq s (fault?_of_faults_eq_nil hf .get (some key))) (s.get_snd key)

theorem lookup_faultless (hf : s.faults = []) (key : Key) :
    s.lookup key = .ok (s.objects.get? key) := by
  rw [lookup, fault?_of_faults_eq_nil hf]

theorem create_absent (hf : s.faults = []) {a : α} (hid : identity a = .ok (Key.of a))
    (h : s.objects.get? (Key.of a) = none) :
    (s.create a).1 = .ok (s.stampNew a) ∧ (s.create a).2.calls = s.calls ++ [.create (Key.of a)] ∧
      Wrote s (s.create a).2 (s.stampNew a) := by
  have hfault : s.fault? .create (some (Key.of a)) = none := fault?_of_faults_eq_nil hf _ _
  have habsent : s.objects.contains (Key.of a) = false := KeyMap.contains_eq_false.2 h
  simp only [create, hid, fault?_logged, hfault, objects_logged, habsent]
  refine ⟨rfl, rfl, ?_, rfl, rfl⟩
  rw [key_stampNew]
  rfl

theorem create_present (hf : s.faults = []) {a b : α} (hid : identity a = .ok (Key.of a))
    (h : s.objects.get? (Key.of a) = some b) :
    (s.create a).1 = .error (.alreadyExists (describe α (Key.of a))) ∧
      Untouched s (s.create a).2 := by
  have hfault : s.fault? .create (some (Key.of a)) = none := fault?_of_faults_eq_nil hf _ _
  have hpresent : s.objects.contains (Key.of a) = true := KeyMap.contains_eq_true.2 ⟨b, h⟩
  simp only [create, hid, fault?_logged, hfault, objects_logged, hpresent]
  exact ⟨rfl, rfl, Nat.le_succ _, rfl⟩

end Faultless

section Update

variable {s} {a current : α}

theorem update_absent (hfault : s.fault? .update (some (Key.of a)) = none)
    (hid : identity a = .ok (Key.of a)) (h : s.objects.get? (Key.of a) = none) :
    (s.update a).1 = .error (.notFound (describe α (Key.of a))) ∧ Untouched s (s.update a).2 := by
  simp only [update, hid, fault?_logged, hfault, objects_logged, h]
  exact ⟨trivial, rfl, Nat.le_succ _, rfl⟩

theorem update_current (hfault : s.fault? .update (some (Key.of a)) = none)
    (hid : identity a = .ok (Key.of a)) (h : s.objects.get? (Key.of a) = some current)
    (hv : version? a = version? current) :
    (s.update a).1 = .ok (s.stampNext current a) ∧
      (s.update a).2.calls = s.calls ++ [.update (Key.of a)] ∧
      Wrote s (s.update a).2 (s.stampNext current a) := by
  have htoken : (version? a).all (· = (version? current).getD "") = true := by
    rw [hv]
    cases version? current <;> simp
  simp only [update, hid, fault?_logged, hfault, objects_logged, h, htoken]
  refine ⟨rfl, rfl, ?_, rfl, rfl⟩
  rw [key_stampNext]
  rfl

theorem update_stale (hfault : s.fault? .update (some (Key.of a)) = none) {version : String}
    (hid : identity a = .ok (Key.of a)) (h : s.objects.get? (Key.of a) = some current)
    (hv : version? a = some version) (hne : version ≠ (version? current).getD "") :
    (s.update a).1 = .error (.conflict <|
        staleText α (Key.of a) version ((version? current).getD "")) ∧
      Untouched s (s.update a).2 := by
  have htoken : (version? a).all (· = (version? current).getD "") = false := by simp [hv, hne]
  simp only [update, hid, fault?_logged, hfault, objects_logged, h, htoken]
  refine ⟨?_, rfl, Nat.le_succ _, rfl⟩
  simp [hv]

end Update

end Store

end MonitoringStack
