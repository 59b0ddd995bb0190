import MonitoringStack.Kube.Core
import MonitoringStack.Proofs.Store.Versions

namespace MonitoringStack

open Kube

namespace Store

variable {α : Type} [Resource α]

/-- One thing that is done to a store: an operation, another writer's change, or a change of the
faults that are laid on it. -/
inductive Move (α : Type) where
  | get (key : Key)
  | list (ns? : Option String) (selector : Selector)
  | create (a : α)
  | update (a : α)
  | delete (key : Key)
  | modify (key : Key) (change : α → α)
  | insert (a : α)
  | inject (faults : List (FaultTarget × Fault))

namespace Move

variable (s : Store α)

def after : Move α → Store α
  | .get key => (s.get key).2
  | .list ns? selector => (s.list ns? selector).2
  | .create a => (s.create a).2
  | .update a => (s.update a).2
  | .delete key => (s.delete key).2
  | .modify key change => (s.modify key change).2
  | .insert a => (s.insert a).2
  | .inject faults => { s with faults }

def obtained : Move α → List α
  | .get key => (s.get key).1.toOption.toList
  | .list ns? selector => (s.list ns? selector).1.toOption.getD []
  | .create a => (s.create a).1.toOption.toList
  | .update a => (s.update a).1.toOption.toList
  | .insert a => [(s.insert a).1]
  | .delete _ | .modify .. | .inject _ => []

/-- The key that it writes at. What fails writes nowhere. -/
def written? : Move α → Option Key
  | .create a => (s.create a).1.toOption.map Key.of
  | .update a => (s.update a).1.toOption.map Key.of
  | .delete key => (s.delete key).1.toOption.map fun _ => key
  | .modify key change => if (s.modify key change).1 then some key else none
  | .insert a => some (Key.of a)
  | .get _ | .list .. | .inject _ => none

/-- Changes leave an object its key, and what is set in its place carries no version yet. -/
def Lawful : Move α → Prop
  | .modify _ change => ∀ a, Key.of (change a) = Key.of a
  | .insert a => version? a = none
  | _ => True

end Move

def play (s : Store α) (moves : List (Move α)) : Store α := moves.foldl Move.after s

def writes (s : Store α) : List (Move α) → List Key
  | [] => []
  | m :: moves => (m.written? s).toList ++ (m.after s).writes moves

theorem play_append (s : Store α) (moves moves' : List (Move α)) :
    s.play (moves ++ moves') = (s.play moves).play moves' :=
  List.foldl_append

/-- All that a move can do to the objects of a store. -/
inductive Moved (s : Store α) (m : Move α) : Prop where
  | nothing (written : m.written? s = none) (objects : (m.after s).objects = s.objects)
      (nextVersion : s.nextVersion ≤ (m.after s).nextVersion)
  | wrote (a : α) (written : m.written? s = some (Key.of a))
      (version : version? a = some (toString s.nextVersion)) (wrote : Wrote s (m.after s) a)
  | erased (key : Key) (written : m.written? s = some key)
      (objects : (m.after s).objects = s.objects.erase key)
      (nextVersion : (m.after s).nextVersion = s.nextVersion)

variable {s : Store α} {m : Move α}

theorem Stamped.moved (hs : Stamped s) (h : m.Lawful) : Moved s m := by
  cases m with
  | get key => exact .nothing rfl (by simp [Move.after]) (by simp [Move.after, logged])
  | list ns? selector => exact .nothing rfl (by simp [Move.after]) (by simp [Move.after, logged])
  | inject faults => exact .nothing rfl rfl (Nat.le_refl _)
  | create a =>
    rcases s.create_cases a with ⟨e, hr, h⟩ | ⟨-, hr, hw⟩
    · exact .nothing (by rw [Move.written?, hr]; rfl) h.objects h.nextVersion
    · exact .wrote _ (by rw [Move.written?, hr]; rfl) (version?_stampNew s a) hw
  | update a =>
    rcases s.update_cases a with ⟨e, hr, h⟩ | ⟨current, -, -, hr, hw⟩
    · exact .nothing (by rw [Move.written?, hr]; rfl) h.objects h.nextVersion
    · exact .wrote _ (by rw [Move.written?, hr]; rfl) (version?_stampNext s current a) hw
  | delete key =>
    rcases s.delete_cases key with ⟨e, hr, h⟩ | ⟨hr, hobjects, hnext, -⟩
    · exact .nothing (by rw [Move.written?, hr]; rfl) h.objects h.nextVersion
    · exact .erased key (by rw [Move.written?, hr]; rfl) hobjects hnext
  | modify key change =>
    rcases s.modify_cases key change with ⟨-, hr, h⟩ | ⟨a, hget, hr, hw⟩
    · exact .nothing (by simp [Move.written?, hr]) h.objects h.nextVersion
    · have hkey : Key.of (change a) = key := (h a).trans (hs key a hget).1
      refine .wrote _ ?_ (version?_withVersion _ (change a)) (hw hkey)
      simp [Move.written?, hr, hkey]
  | insert a =>
    obtain ⟨hv, hw⟩ := s.insert_wrote h
    exact .wrote _ (by rw [s.key_insert]; rfl) hv hw

namespace Moved

theorem nextVersion_le (h : Moved s m) : s.nextVersion ≤ (m.after s).nextVersion := by
  cases h with
  | nothing _ _ hnext => exact hnext
  | wrote a _ _ hw => exact hw.nextVersion ▸ Nat.le_succ _
  | erased key _ _ hnext => exact Nat.le_of_eq hnext.symm

theorem evolves (h : Moved s m) : Evolves s (m.after s) := by
  cases h with
  | nothing _ hobjects hnext => exact .of_subset hnext fun key a ha => by rwa [hobjects] at ha
  | wrote a _ hv hw => exact .of_insert hw.nextVersion hw.objects hv
  | erased key _ hobjects hnext => exact .of_erase hnext hobjects

theorem get?_of_ne (h : Moved s m) {key : Key} (hkey : key ∉ m.written? s) :
    (m.after s).objects.get? key = s.objects.get? key := by
  cases h with
  | nothing _ hobjects _ => rw [hobjects]
  | wrote a hwritten _ hw =>
    rw [hw.get?_objects, if_neg]
    rintro rfl
    exact hkey hwritten
  | erased l hwritten hobjects _ =>
    rw [hobjects, KeyMap.get?_erase_of_ne]
    rintro rfl
    exact hkey hwritten

end Moved

/-- What stands at a key, if anything, was written no earlier than the version counter came to a
number. -/
def Renewed (n : Nat) (key : Key) (s : Store α) : Prop :=
  n ≤ s.nextVersion ∧
    ∀ a, s.objects.get? key = some a → ∃ k, n ≤ k ∧ version? a = some (toString k)

theorem Moved.renewed {n : Nat} {key : Key} (h : Moved s m) (hn : n ≤ s.nextVersion)
    (hkey : m.written? s = some key) : Renewed n key (m.after s) := by
  refine ⟨Nat.le_trans hn h.nextVersion_le, fun b hb => ?_⟩
  cases h with
  | nothing hwritten => simp [hwritten] at hkey
  | wrote a hwritten hv hw =>
    obtain rfl : Key.of a = key := Option.some.inj (hwritten.symm.trans hkey)
    rw [hw.get?_objects, if_pos rfl] at hb
    obtain rfl := Option.some.inj hb
    exact ⟨_, hn, hv⟩
  | erased l hwritten hobjects =>
    obtain rfl : l = key := Option.some.inj (hwritten.symm.trans hkey)
    simp [hobjects] at hb

theorem Renewed.after {n : Nat} {key : Key} (hr : Renewed n key s) (h : Moved s m) :
    Renewed n key (m.after s) := by
  by_cases hkey : m.written? s = some key
  · exact h.renewed hr.1 hkey
  · refine ⟨Nat.le_trans hr.1 h.nextVersion_le, fun a ha => hr.2 a ?_⟩
    rwa [h.get?_of_ne (by simpa using hkey)] at ha

section Run

variable {moves : List (Move α)}

theorem Stamped.play (hs : Stamped s) (h : ∀ m ∈ moves, m.Lawful) : Stamped (s.play moves) := by
  induction moves generalizing s with
  | nil => exact hs
  | cons m moves ih =>
    obtain ⟨hm, hmoves⟩ := List.forall_mem_cons.1 h
    exact ih ((hs.moved hm).evolves.stamped hs) hmoves

theorem Renewed.play {n : Nat} {key : Key} (hr : Renewed n key s) (hs : Stamped s)
    (h : ∀ m ∈ moves, m.Lawful) : Renewed n key (s.play moves) := by
  induction moves generalizing s with
  | nil => exact hr
  | cons m moves ih =>
    obtain ⟨hm, hmoves⟩ := List.forall_mem_cons.1 h
    have hmoved := hs.moved hm
    exact ih (hr.after hmoved) (hmoved.evolves.stamped hs) hmoves

theorem get?_play (hs : Stamped s) (h : ∀ m ∈ moves, m.Lawful) {key : Key}
    (hkey : key ∉ s.writes moves) : (s.play moves).objects.get? key = s.objects.get? key := by
  induction moves generalizing s with
  | nil => rfl
  | cons m moves ih =>
    obtain ⟨hm, hmoves⟩ := List.forall_mem_cons.1 h
    rw [writes, List.mem_append, not_or] at hkey
    have hmoved := hs.moved hm
    exact (ih (hmoved.evolves.stamped hs) hmoves hkey.2).trans
      (hmoved.get?_of_ne (by simpa using hkey.1))

theorem renewed_play {n : Nat} (hn : n ≤ s.nextVersion) (hs : Stamped s)
    (h : ∀ m ∈ moves, m.Lawful) {key : Key} (hkey : key ∈ s.writes moves) :
    Renewed n key (s.play moves) := by
  induction moves generalizing s with
  | nil => cases hkey
  | cons m moves ih =>
    obtain ⟨hm, hmoves⟩ := List.forall_mem_cons.1 h
    have hmoved := hs.moved hm
    have hs' := hmoved.evolves.stamped hs
    rcases List.mem_append.1 hkey with hkey | hkey
    · exact (hmoved.renewed hn (by simpa using hkey)).play hs' hmoves
    · exact ih (Nat.le_trans hn hmoved.nextVersion_le) hs' hmoves hkey

end Run

/-- What a move hands out stands in its place. -/
theorem get?_of_mem_obtained (hs : Stamped s) (h : m.Lawful) {a : α} (ha : a ∈ m.obtained s) :
    (m.after s).objects.get? (Key.of a) = some a := by
  cases m with
  | get key =>
    cases hr : (s.get key).1 with
    | error e => simp [Move.obtained, hr, Except.toOption] at ha
    | ok b =>
      obtain rfl : a = b := by simpa [Move.obtained, hr, Except.toOption] using ha
      have hget := s.get_ok hr
      rw [(hs key a hget).1]
      simpa [Move.after] using hget
  | list ns? selector =>
    rw [Move.obtained, list] at ha
    split at ha
    · cases ha
    · obtain ⟨e, he, rfl⟩ := List.mem_map.1 ha
      have hget := s.objects.get?_eq_some_iff.2 (List.mem_filter.1 he).1
      rw [(hs e.1 e.2 hget).1]
      simpa [Move.after] using hget
  | create a' =>
    rcases s.create_cases a' with ⟨e, hr, -⟩ | ⟨-, hr, hw⟩
    · simp [Move.obtained, hr, Except.toOption] at ha
    · obtain rfl : a = _ := by simpa [Move.obtained, hr, Except.toOption] using ha
      exact (hw.get?_objects _).trans (if_pos rfl)
  | update a' =>
    rcases s.update_cases a' with ⟨e, hr, -⟩ | ⟨current, -, -, hr, hw⟩
    · simp [Move.obtained, hr, Except.toOption] at ha
    · obtain rfl : a = _ := by simpa [Move.obtained, hr, Except.toOption] using ha
      exact (hw.get?_objects _).trans (if_pos rfl)
  | insert a' =>
    obtain rfl := List.mem_singleton.1 ha
    exact ((s.insert_wrote h).2.get?_objects _).trans (if_pos rfl)
  | delete | modify | inject => cases ha

/-- What an update comes to that is refused for the version it carries. -/
structure Refused (s : Store α) (a : α) (reply : Except StoreError α × Store α) : Prop where
  objects : reply.2.objects = s.objects
  gone : s.objects.get? (Key.of a) = none →
    reply.1 = .error (.notFound (describe α (Key.of a)))
  stale : ∀ current, s.objects.get? (Key.of a) = some current → reply.1 =
    .error (.conflict <| staleText α (Key.of a) ((version? a).getD "") ((version? current).getD ""))

section Update

variable {a b : α}

theorem Refused.not_ok {reply : Except StoreError α × Store α} (h : Refused s b reply)
    (stored : α) :
    reply.1 ≠ .ok stored := by
  intro hok
  cases hcurrent : s.objects.get? (Key.of b) with
  | none => cases hok.symm.trans (h.gone hcurrent)
  | some current => cases hok.symm.trans (h.stale current hcurrent)

theorem Renewed.refused {n k : Nat} (hr : Renewed n (Key.of b) s) (hk : k < n)
    (hv : version? b = some (toString k)) (hid : identity b = .ok (Key.of b))
    (hfault : s.fault? .update (some (Key.of b)) = none) : Refused s b (s.update b) := by
  cases hcurrent : s.objects.get? (Key.of b) with
  | none =>
    obtain ⟨he, h⟩ := update_absent hfault hid hcurrent
    exact ⟨h.objects, fun _ => he, fun current h' => by simp [hcurrent] at h'⟩
  | some current =>
    -- what stands there was given its version after the one that is presented
    obtain ⟨l, hl, hvl⟩ := hr.2 current hcurrent
    have hne : toString k ≠ (version? current).getD "" := by
      rw [hvl, Option.getD_some]
      intro heq
      have hkl := toString_nat_injective heq
      omega
    obtain ⟨he, h⟩ := update_stale hfault hid hcurrent hv hne
    refine ⟨h.objects, fun h' => by simp [hcurrent] at h', fun current' h' => ?_⟩
    obtain rfl : current = current' := Option.some.inj (hcurrent.symm.trans h')
    rw [he, hv, Option.getD_some]

/-- An update with the version of an object that was handed out goes through when nothing was written
at its key since, and only then. Else it is refused and leaves all objects alone. -/
theorem update_ok_iff_unwritten {before rest : List (Move α)} {m : Move α}
    (hlawful : ∀ m' ∈ before ++ m :: rest, m'.Lawful) (ha : a ∈ m.obtained (play {} before))
    (hkey : Key.of b = Key.of a) (hversion : version? b = version? a)
    (hns : (Key.of b).ns ≠ "") (hname : (Key.of b).name ≠ "")
    (hfault : (play {} (before ++ m :: rest)).fault? .update (some (Key.of b)) = none) :
    let s := play {} (before ++ m :: rest)
    ((∃ stored, (s.update b).1 = .ok stored) ↔
        Key.of b ∉ (play {} (before ++ [m])).writes rest) ∧
      ((¬ ∃ stored, (s.update b).1 = .ok stored) → Refused s b (s.update b)) := by
  intro s
  rw [List.forall_mem_append, List.forall_mem_cons] at hlawful
  obtain ⟨hbefore, hm, hrest⟩ := hlawful
  have hs := stamped_empty.play hbefore
  have hs' := (hs.moved hm).evolves.stamped hs
  have hget := get?_of_mem_obtained hs hm ha
  obtain ⟨-, n, hn, hv⟩ := hs' _ a hget
  have hsplit : s = (m.after (play {} before)).play rest := play_append {} before (m :: rest)
  have hid : identity b = .ok (Key.of b) := identity_eq hns hname
  rw [show play {} (before ++ [m]) = m.after (play {} before) from play_append {} before [m]]
  by_cases hwritten : Key.of b ∈ (m.after (play {} before)).writes rest
  · have hrenewed := renewed_play (Nat.le_refl _) hs' hrest hwritten
    rw [← hsplit] at hrenewed
    have hrefused := hrenewed.refused hn (hversion.trans hv) hid hfault
    refine ⟨⟨?_, fun h => absurd hwritten h⟩, fun _ => hrefused⟩
    rintro ⟨stored, hok⟩
    exact absurd hok (hrefused.not_ok stored)
  · have hcurrent : s.objects.get? (Key.of b) = some a := by
      rw [hsplit, get?_play hs' hrest hwritten, hkey, hget]
    obtain ⟨hok, -⟩ := update_current hfault hid hcurrent hversion
    exact ⟨⟨fun _ => hwritten, fun _ => ⟨_, hok⟩⟩, fun h => absurd ⟨_, hok⟩ h⟩

def configMapNamed (name : String) : ConfigMap where
  metadata := { name := some name, ns? := some "shop" }

/-- The object that was read is deleted, another one is made in its place, and that is read. -/
def replacing : List (Move ConfigMap) :=
  [.insert (configMapNamed "orders"), .get ⟨"shop", "orders"⟩, .delete ⟨"shop", "orders"⟩,
    .create (configMapNamed "orders"), .insert (configMapNamed "bills"), .get ⟨"shop", "orders"⟩]

theorem update_ok_iff_unwritten_replacing :
    Refused (play {} replacing) (withVersion "1" (configMapNamed "orders"))
        ((play {} replacing).update (withVersion "1" (configMapNamed "orders"))) ∧
      ∃ stored, ((play {} replacing).update (withVersion "2" (configMapNamed "orders"))).1 =
        .ok stored := by
  have hlawful : ∀ m ∈ replacing, m.Lawful := by
    simp [replacing, Move.Lawful, configMapNamed, version?, Resource.metadata]
  constructor
  · have hlawful' : ∀ m ∈ replacing.take 1 ++ .get ⟨"shop", "orders"⟩ :: replacing.drop 2, m.Lawful :=
      hlawful
    have hread : (Store.insert {} (configMapNamed "orders")).1 ∈
        Move.obtained (play {} (replacing.take 1)) (.get ⟨"shop", "orders"⟩) :=
      List.mem_singleton.2 rfl
    have hkey : Key.of (withVersion "1" (configMapNamed "orders")) = ⟨"shop", "orders"⟩ := rfl
    obtain ⟨hiff, hrefused⟩ :=
      update_ok_iff_unwritten hlawful' hread hkey rfl (by decide) (by decide) rfl
    exact hrefused fun hok => hiff.1 hok (by decide)
  · have hlawful' : ∀ m ∈ replacing.take 5 ++ .get ⟨"shop", "orders"⟩ :: [], m.Lawful := hlawful
    have hread : withUid (some (uidText 1)) (withVersion "2" (configMapNamed "orders")) ∈
        Move.obtained (play {} (replacing.take 5)) (.get ⟨"shop", "orders"⟩) :=
      List.mem_singleton.2 rfl
    have hkey : Key.of (withVersion "2" (configMapNamed "orders")) = ⟨"shop", "orders"⟩ := rfl
    obtain ⟨hiff, -⟩ := update_ok_iff_unwritten hlawful' hread hkey rfl (by decide) (by decide) rfl
    exact hiff.2 List.not_mem_nil

end Update

end Store

end MonitoringStack
