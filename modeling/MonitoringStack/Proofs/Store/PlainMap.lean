import Mathlib.Data.List.Induction
import MonitoringStack.Proofs.Store.Deletion
import MonitoringStack.Proofs.Store.Moves

namespace MonitoringStack

open Kube

namespace Store

variable {α : Type} [Resource α]

def Named (a : α) : Prop := (Key.of a).name ≠ "" ∧ (Key.of a).ns ≠ ""

instance (a : α) : Decidable (Named a) :=
  inferInstanceAs (Decidable ((Key.of a).name ≠ "" ∧ (Key.of a).ns ≠ ""))

namespace Move

variable (s : Store α)

/-- The object that it leaves where it writes. A deletion leaves none. -/
def left? : Move α → Option α
  | .create a => (s.create a).1.toOption
  | .update a => (s.update a).1.toOption
  | .insert a => some (s.insert a).1
  | .modify key change =>
    (s.objects.get? key).map fun a => withVersion (toString s.nextVersion) (change a)
  | .delete _ | .get _ | .list .. | .inject _ => none

/-- A change leaves the object that it finds its namespace and its name. -/
def Keeps : Move α → Prop
  | .modify key change => ∀ a, s.objects.get? key = some a → Key.of (change a) = Key.of a
  | _ => True

end Move

def KeepsKeys (s : Store α) : List (Move α) → Prop
  | [] => True
  | m :: moves => m.Keeps s ∧ (m.after s).KeepsKeys moves

/-- A move of a run is the last one that writes at a key. -/
def LastWrite (moves before : List (Move α)) (m : Move α) (key : Key) : Prop :=
  ∃ rest, moves = before ++ m :: rest ∧ m.written? (play {} before) = some key ∧
    key ∉ (m.after (play {} before)).writes rest

/-- The last write at a key has left an object there. -/
def Left (moves : List (Move α)) (key : Key) (a : α) : Prop :=
  ∃ before m, LastWrite moves before m key ∧ m.left? (play {} before) = some a

theorem objects_insert (s : Store α) (a : α) :
    (s.insert a).2.objects = s.objects.insert (Key.of a) (s.insert a).1 := by
  unfold insert
  cases version? a with
  | none =>
    dsimp only
    cases (Resource.metadata (withVersion (toString s.nextVersion) a)).uid <;> rfl
  | some version =>
    dsimp only
    cases (Resource.metadata a).uid <;> rfl

/-- All that a move can do to the objects of a store, with what it leaves where it writes. -/
inductive Does (s : Store α) (m : Move α) : Prop where
  | nothing (written : m.written? s = none) (objects : (m.after s).objects = s.objects)
  | sets (a : α) (written : m.written? s = some (Key.of a)) (left : m.left? s = some a)
      (objects : (m.after s).objects = s.objects.insert (Key.of a) a)
  | removes (key : Key) (move : m = .delete key) (written : m.written? s = some key)
      (objects : (m.after s).objects = s.objects.erase key)

variable {s : Store α} {m : Move α}

theorem Keyed.does (hs : Keyed s) (h : m.Keeps s) : Does s m := by
  cases m with
  | get key => exact .nothing rfl (by simp [Move.after])
  | list ns? selector => exact .nothing rfl (by simp [Move.after])
  | inject faults => exact .nothing rfl rfl
  | create a =>
    rcases s.create_cases a with ⟨e, hr, hu⟩ | ⟨-, hr, hw⟩
    · exact .nothing (by rw [Move.written?, hr]; rfl) hu.objects
    · exact .sets _ (by rw [Move.written?, hr]; rfl) (by rw [Move.left?, hr]; rfl) hw.objects
  | update a =>
    rcases s.update_cases a with ⟨e, hr, hu⟩ | ⟨current, -, -, hr, hw⟩
    · exact .nothing (by rw [Move.written?, hr]; rfl) hu.objects
    · exact .sets _ (by rw [Move.written?, hr]; rfl) (by rw [Move.left?, hr]; rfl) hw.objects
  | delete key =>
    rcases s.delete_cases key with ⟨e, hr, hu⟩ | ⟨hr, hobjects, -⟩
    · exact .nothing (by rw [Move.written?, hr]; rfl) hu.objects
    · exact .removes key rfl (by rw [Move.written?, hr]; rfl) hobjects
  | modify key change =>
    rcases s.modify_cases key change with ⟨-, hr, hu⟩ | ⟨a, hget, hr, hw⟩
    · exact .nothing (by simp [Move.written?, hr]) hu.objects
    · have hkey : Key.of (change a) = key := (h a hget).trans (hs key a hget)
      refine .sets (withVersion (toString s.nextVersion) (change a)) ?_ ?_ (hw hkey).objects
      · simp [Move.written?, hr, hkey]
      · simp [Move.left?, hget]
  | insert a =>
    refine .sets _ ?_ rfl ?_
    · rw [s.key_insert]
      rfl
    · rw [s.key_insert]
      exact s.objects_insert a

namespace Does

theorem get?_of_written (h : Does s m) {key : Key} (hkey : m.written? s = some key) :
    (m.after s).objects.get? key = m.left? s := by
  cases h with
  | nothing hwritten => simp [hwritten] at hkey
  | sets a hwritten hleft hobjects =>
    obtain rfl : Key.of a = key := Option.some.inj (hwritten.symm.trans hkey)
    rw [hobjects, hleft, KeyMap.get?_insert_self]
  | removes l hm hwritten hobjects =>
    obtain rfl : l = key := Option.some.inj (hwritten.symm.trans hkey)
    rw [hobjects, KeyMap.get?_erase_self, hm, Move.left?]

theorem get?_of_ne (h : Does s m) {key : Key} (hkey : m.written? s ≠ some key) :
    (m.after s).objects.get? key = s.objects.get? key := by
  cases h with
  | nothing _ hobjects => rw [hobjects]
  | sets a hwritten _ hobjects =>
    rw [hobjects, KeyMap.get?_insert_of_ne]
    rintro rfl
    exact hkey hwritten
  | removes l _ hwritten hobjects =>
    rw [hobjects, KeyMap.get?_erase_of_ne]
    rintro rfl
    exact hkey hwritten

theorem keyed (h : Does s m) (hs : Keyed s) : Keyed (m.after s) := by
  intro key b hb
  by_cases hkey : m.written? s = some key
  · rw [h.get?_of_written hkey] at hb
    cases h with
    | nothing hwritten => simp [hwritten] at hkey
    | sets a hwritten hleft =>
      obtain rfl : a = b := Option.some.inj (hleft.symm.trans hb)
      exact Option.some.inj (hwritten.symm.trans hkey)
    | removes l hm =>
      rw [hm] at hb
      cases hb
  · rw [h.get?_of_ne hkey] at hb
    exact hs key b hb

end Does

section Run

variable {moves before : List (Move α)} {key : Key}

theorem keepsKeys_append {rest : List (Move α)} :
    s.KeepsKeys (before ++ rest) ↔ s.KeepsKeys before ∧ (s.play before).KeepsKeys rest := by
  induction before generalizing s with
  | nil => exact (iff_of_eq (true_and _)).symm
  | cons m before ih => exact (and_congr_right fun _ => ih).trans and_assoc.symm

theorem writes_append {rest : List (Move α)} :
    s.writes (before ++ rest) = s.writes before ++ (s.play before).writes rest := by
  induction before generalizing s with
  | nil => rfl
  | cons m before ih => exact (congrArg _ ih).trans (List.append_assoc ..).symm

theorem Keyed.play (hs : Keyed s) (h : s.KeepsKeys moves) : Keyed (s.play moves) := by
  induction moves generalizing s with
  | nil => exact hs
  | cons m moves ih => exact ih ((hs.does h.1).keyed hs) h.2

theorem Keyed.get?_play (hs : Keyed s) (h : s.KeepsKeys moves) (hkey : key ∉ s.writes moves) :
    (s.play moves).objects.get? key = s.objects.get? key := by
  induction moves generalizing s with
  | nil => rfl
  | cons m moves ih =>
    rw [writes, List.mem_append, not_or] at hkey
    have hdoes := hs.does h.1
    exact (ih (hdoes.keyed hs) h.2 hkey.2).trans (hdoes.get?_of_ne (by simpa using hkey.1))

theorem exists_lastWrite (h : key ∈ writes {} moves) : ∃ before m, LastWrite moves before m key := by
  -- from the back: the last move writes at the key, or what was the last write before still is
  induction moves using List.reverseRecOn with
  | nil => cases h
  | append_singleton moves m ih =>
    by_cases hm : m.written? (play {} moves) = some key
    · exact ⟨moves, m, [], rfl, hm, List.not_mem_nil⟩
    · have hone : key ∉ (play {} moves).writes [m] := by simpa [writes] using hm
      rw [writes_append, List.mem_append] at h
      obtain ⟨before, m', rest, rfl, hwritten, hrest⟩ := ih (h.resolve_right hone)
      refine ⟨before, m', rest ++ [m], by simp, hwritten, ?_⟩
      rw [play_append] at hone
      rw [writes_append, List.mem_append, not_or]
      exact ⟨hrest, hone⟩

theorem LastWrite.does (h : KeepsKeys {} moves) (hlast : LastWrite moves before m key) :
    Does (play {} before) m ∧ m.written? (play {} before) = some key ∧
      (play {} moves).objects.get? key = m.left? (play {} before) := by
  obtain ⟨rest, rfl, hwritten, hrest⟩ := hlast
  obtain ⟨hbefore, hm, hafter⟩ := keepsKeys_append.1 h
  have hs := keyed_empty.play hbefore
  have hdoes := hs.does hm
  refine ⟨hdoes, hwritten, ?_⟩
  rw [play_append, ← hdoes.get?_of_written hwritten]
  exact (hdoes.keyed hs).get?_play hafter hrest

theorem get?_eq_some_iff (h : KeepsKeys {} moves) {a : α} :
    (play {} moves).objects.get? key = some a ↔ Left moves key a := by
  constructor
  · intro ha
    by_cases hkey : key ∈ writes {} moves
    · obtain ⟨before, m, hlast⟩ := exists_lastWrite hkey
      obtain ⟨-, -, hget⟩ := hlast.does h
      exact ⟨before, m, hlast, hget.symm.trans ha⟩
    · rw [keyed_empty.get?_play h hkey] at ha
      cases ha
  · rintro ⟨before, m, hlast, hleft⟩
    obtain ⟨-, -, hget⟩ := hlast.does h
    exact hget.trans hleft

end Run

section Read

theorem Keyed.mem_matching (hs : Keyed s) {ns? : Option String} {selector : Selector} {a : α} :
    a ∈ s.matching ns? selector ↔
      s.objects.get? (Key.of a) = some a ∧ (∀ ns ∈ ns?, (Key.of a).ns = ns) ∧
        selector.matches (Resource.metadata a).labels = true := by
  have hns (key : Key) : ns?.all (· = key.ns) = true ↔ ∀ ns ∈ ns?, key.ns = ns := by
    cases ns? <;> simp [eq_comm]
  simp only [matching, List.mem_map, List.mem_filter, Bool.and_eq_true, hns]
  constructor
  · rintro ⟨⟨key, b⟩, ⟨hmem, hpicked⟩, rfl⟩
    have hget := s.objects.get?_eq_some_iff.2 hmem
    obtain rfl := hs key b hget
    exact ⟨hget, hpicked⟩
  · rintro ⟨hget, hpicked⟩
    exact ⟨(Key.of a, a), ⟨s.objects.get?_eq_some_iff.1 hget, hpicked⟩, rfl⟩

end Read

section Step

variable (s)

end Step

example (s : Store α) (op : StoreOp) (key : Key) (fault : Fault) :
    s.failAll op fault = (Move.inject (s.failAll op fault).faults).after s ∧
      s.failOn op key fault = (Move.inject (s.failOn op key fault).faults).after s ∧
      s.clearFaults = (Move.inject []).after s :=
  ⟨rfl, rfl, rfl⟩

def labelled (c : ConfigMap) : ConfigMap :=
  { c with metadata.labels := some (KeyMap.ofList [("team", "orders")]) }

end Store

end MonitoringStack
