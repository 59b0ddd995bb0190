namespace MonitoringStack

/-- The laws of a strict total order, which make a sorted entry list the only one with its
entries. -/
class KeyOrder (κ : Type) [LT κ] : Prop where
  irrefl : ∀ a : κ, ¬ a < a
  trans : ∀ {a b c : κ}, a < b → b < c → a < c
  eq_of_not_lt : ∀ {a b : κ}, ¬ a < b → ¬ b < a → a = b

instance : KeyOrder String where
  irrefl := String.lt_irrefl
  trans := String.lt_trans
  eq_of_not_lt h h' := String.le_antisymm (String.not_lt.1 h') (String.not_lt.1 h)

namespace Entries

variable {κ α : Type} [LT κ]

def get? [DecidableEq κ] (k : κ) : List (κ × α) → Option α
  | [] => none
  | (k', v) :: rest => if k = k' then some v else get? k rest

def insert [DecidableLT κ] (k : κ) (v : α) : List (κ × α) → List (κ × α)
  | [] => [(k, v)]
  | (k', v') :: rest =>
    if k < k' then (k, v) :: (k', v') :: rest
    else if k' < k then (k', v') :: insert k v rest
    else (k, v) :: rest

def erase [DecidableEq κ] (k : κ) (entries : List (κ × α)) : List (κ × α) :=
  entries.filter fun e => e.1 ≠ k

abbrev Sorted (entries : List (κ × α)) : Prop :=
  entries.Pairwise fun a b => a.1 < b.1

theorem mem_insert [DecidableLT κ] {k : κ} {v : α} {e : κ × α} {entries : List (κ × α)}
    (h : e ∈ insert k v entries) : e = (k, v) ∨ e ∈ entries := by
  induction entries with
  | nil => simpa [insert] using h
  | cons hd tl ih =>
    obtain ⟨k', v'⟩ := hd
    unfold insert at h
    grind

theorem sorted_insert [DecidableLT κ] [KeyOrder κ] (k : κ) (v : α) {entries : List (κ × α)}
    (h : Sorted entries) : Sorted (insert k v entries) := by
  induction entries with
  | nil => simp [insert, Sorted]
  | cons hd tl ih =>
    obtain ⟨k', v'⟩ := hd
    obtain ⟨hhd, htl⟩ := List.pairwise_cons.1 h
    unfold insert
    split
    · rename_i hlt
      refine List.pairwise_cons.2 ⟨fun e he => ?_, h⟩
      rcases List.mem_cons.1 he with rfl | he
      · exact hlt
      · exact KeyOrder.trans hlt (hhd e he)
    · split
      · rename_i hgt
        refine List.pairwise_cons.2 ⟨fun e he => ?_, ih htl⟩
        rcases mem_insert he with rfl | he
        · exact hgt
        · exact hhd e he
      · rename_i hlt hgt
        obtain rfl := KeyOrder.eq_of_not_lt hlt hgt
        exact List.pairwise_cons.2 ⟨hhd, htl⟩

theorem sorted_erase [DecidableEq κ] (k : κ) {entries : List (κ × α)} (h : Sorted entries) :
    Sorted (erase k entries) :=
  List.Pairwise.filter _ h

end Entries

/-- A finite map whose entries are listed in ascending key order, each key once. -/
structure KeyMap (κ α : Type) [LT κ] where
  entries : List (κ × α)
  sorted : Entries.Sorted entries

namespace KeyMap

variable {κ α β : Type} [LT κ]

@[ext] theorem ext {m n : KeyMap κ α} (h : m.entries = n.entries) : m = n := by
  cases m; cases n; cases h; rfl

instance [DecidableEq κ] [DecidableEq α] : DecidableEq (KeyMap κ α) := fun m n =>
  decidable_of_iff (m.entries = n.entries) ⟨ext, fun h => h ▸ rfl⟩

def empty : KeyMap κ α := ⟨[], List.Pairwise.nil⟩

instance : EmptyCollection (KeyMap κ α) := ⟨empty⟩

instance : Inhabited (KeyMap κ α) := ⟨empty⟩

def isEmpty (m : KeyMap κ α) : Bool := m.entries.isEmpty

def size (m : KeyMap κ α) : Nat := m.entries.length

def keys (m : KeyMap κ α) : List κ := m.entries.map (·.1)

def values (m : KeyMap κ α) : List α := m.entries.map (·.2)

variable [DecidableLT κ] [DecidableEq κ] [KeyOrder κ]

def get? (m : KeyMap κ α) (k : κ) : Option α := Entries.get? k m.entries

def contains (m : KeyMap κ α) (k : κ) : Bool := (m.get? k).isSome

def insert (m : KeyMap κ α) (k : κ) (v : α) : KeyMap κ α :=
  ⟨Entries.insert k v m.entries, Entries.sorted_insert k v m.sorted⟩

def erase (m : KeyMap κ α) (k : κ) : KeyMap κ α :=
  ⟨Entries.erase k m.entries, Entries.sorted_erase k m.sorted⟩

/-- Of two pairs with one key, the later stands. -/
def ofList (pairs : List (κ × α)) : KeyMap κ α :=
  pairs.foldl (fun m e => m.insert e.1 e.2) empty

end KeyMap

end MonitoringStack
