import MonitoringStack.Store.Interface

namespace MonitoringStack

open Kube

inductive StoreOp where
  | get
  | list
  | create
  | update
  | delete
deriving DecidableEq

inductive StoreCall where
  | get (key : Key)
  | list (ns? : Option String) (query : String)
  | create (key : Key)
  | update (key : Key)
  | delete (key : Key)
deriving DecidableEq

def StoreCall.op : StoreCall → StoreOp
  | .get _ => .get
  | .list .. => .list
  | .create _ => .create
  | .update _ => .update
  | .delete _ => .delete

inductive Fault where
  | notFound
  | conflict
  | unavailable (detail : String)
deriving DecidableEq

def Fault.error (what : String) : Fault → StoreError
  | .notFound => .notFound what
  | .conflict => .conflict (what ++ ": injected conflict")
  | .unavailable detail => .unavailable detail

structure FaultTarget where
  op : StoreOp
  key? : Option Key
deriving DecidableEq

/-- Objects in memory that behave as a cluster's do: every write gives its object a new version,
and a write with an outdated one fails. -/
structure Store (α : Type) where
  objects : KeyMap Key α := ∅
  faults : List (FaultTarget × Fault) := []
  calls : List StoreCall := []
  /-- Stands for the counter of 64 bits as long as there are fewer than `2 ^ 64` writes. -/
  nextVersion : Nat := 1
  nextUid : Nat := 0

namespace Store

variable {α : Type} [Resource α]

/-- The `n`th identity as a number. An odd factor keeps them apart and spreads them, so that one
that a writer makes up is not met. -/
def identityNumber (n : Nat) : Nat :=
  (n + 1) * 0x9E3779B97F4A7C15F39CC0605CEDC835 % Nat.pow 2 120

def uidText (n : Nat) : String :=
  let digits := Nat.toDigits 16 (identityNumber n)
  let digits := List.replicate (30 - digits.length) '0' ++ digits
  let part := fun first count => String.ofList ((digits.drop first).take count)
  part 0 8 ++ "-" ++ part 8 4 ++ "-4" ++ part 12 3 ++ "-8" ++ part 15 3 ++ "-" ++ part 18 12

section Writers

def withVersion (version : String) (a : α) : α :=
  Resource.withMetadata a { Resource.metadata a with resourceVersion := some version }

def withUid (uid? : Option String) (a : α) : α :=
  Resource.withMetadata a { Resource.metadata a with uid := uid? }

def version? (a : α) : Option String := (Resource.metadata a).resourceVersion

/-- Sets an object in its place; version and identity are made up where it has none. -/
def insert (s : Store α) (a : α) : α × Store α :=
  let key := Key.of a
  let (a, s) := match version? a with
    | some _ => (a, s)
    | none => (withVersion (toString s.nextVersion) a, { s with nextVersion := s.nextVersion + 1 })
  let (a, s) := match (Resource.metadata a).uid with
    | some _ => (a, s)
    | none => (withUid (some (uidText s.nextUid)) a, { s with nextUid := s.nextUid + 1 })
  (a, { s with objects := s.objects.insert key a })

def modify (s : Store α) (key : Key) (change : α → α) : Bool × Store α :=
  let version := toString s.nextVersion
  let s := { s with nextVersion := s.nextVersion + 1 }
  match s.objects.get? key with
  | some a => (true, { s with objects := s.objects.insert key (withVersion version (change a)) })
  | none => (false, s)

end Writers

section Faults

def failAll (s : Store α) (op : StoreOp) (fault : Fault) : Store α :=
  { s with faults := (⟨op, none⟩, fault) :: s.faults }

def failOn (s : Store α) (op : StoreOp) (key : Key) (fault : Fault) : Store α :=
  { s with faults := (⟨op, some key⟩, fault) :: s.faults }

def clearFaults (s : Store α) : Store α := { s with faults := [] }

/-- A fault at the key goes before one at all keys, and a later one before an earlier one. -/
def fault? (s : Store α) (op : StoreOp) (key? : Option Key) : Option Fault :=
  (key?.bind fun key => s.faults.lookup ⟨op, some key⟩) <|> s.faults.lookup ⟨op, none⟩

end Faults

section Calls

def logged (s : Store α) (call : StoreCall) : Store α := { s with calls := s.calls ++ [call] }

def callCount (s : Store α) (op : StoreOp) : Nat := (s.calls.filter (·.op = op)).length

def clearCalls (s : Store α) : Store α := { s with calls := [] }

end Calls

section Operations

def describe (α : Type) [Resource α] (key : Key) : String := Resource.describe α key.ns key.name

def identity (a : α) : Except StoreError Key :=
  let key := Key.of a
  if key.name = "" then .error (.invalidResource (Resource.kind α ++ " is missing metadata.name"))
  else if key.ns = "" then
    .error <| .invalidResource <|
      Resource.kind α ++ " " ++ key.name ++ " is missing metadata.namespace"
  else .ok key

def get (key : Key) (s : Store α) : Except StoreError α × Store α :=
  let s := s.logged (.get key)
  match s.fault? .get (some key) with
  | some fault => (.error (fault.error (describe α key)), s)
  | none =>
    match s.objects.get? key with
    | some a => (.ok a, s)
    | none => (.error (.notFound (describe α key)), s)

def matching (s : Store α) (ns? : Option String) (selector : Selector) : List α :=
  (s.objects.entries.filter fun e =>
    ns?.all (· = e.1.ns) && selector.matches (Resource.metadata e.2).labels).map (·.2)

def list (ns? : Option String) (selector : Selector) (s : Store α) :
    Except StoreError (List α) × Store α :=
  let s := s.logged (.list ns? selector.query)
  match s.fault? .list none with
  | some fault => (.error (fault.error (Resource.kind α ++ " list")), s)
  | none => (.ok (s.matching ns? selector), s)

def create (a : α) (s : Store α) : Except StoreError α × Store α :=
  match identity a with
  | .error e => (.error e, s)
  | .ok key =>
    let s := s.logged (.create key)
    match s.fault? .create (some key) with
    | some fault => (.error (fault.error (describe α key)), s)
    | none =>
      let version := toString s.nextVersion
      let s := { s with nextVersion := s.nextVersion + 1 }
      if s.objects.contains key then (.error (.alreadyExists (describe α key)), s)
      else
        let stored := withUid (some (uidText s.nextUid)) (withVersion version a)
        (.ok stored,
          { s with objects := s.objects.insert key stored, nextUid := s.nextUid + 1 })

def staleText (α : Type) [Resource α] (key : Key) (presented current : String) : String :=
  describe α key ++ ": version " ++ presented ++ " is stale, current is " ++ current

def update (a : α) (s : Store α) : Except StoreError α × Store α :=
  match identity a with
  | .error e => (.error e, s)
  | .ok key =>
    let s := s.logged (.update key)
    match s.fault? .update (some key) with
    | some fault => (.error (fault.error (describe α key)), s)
    | none =>
      let version := toString s.nextVersion
      let s := { s with nextVersion := s.nextVersion + 1 }
      match s.objects.get? key with
      | none => (.error (.notFound (describe α key)), s)
      | some current =>
        let token := (version? current).getD ""
        if (version? a).all (· = token) then
          let stored := withVersion version (withUid (Resource.metadata current).uid a)
          (.ok stored, { s with objects := s.objects.insert key stored })
        else
          (.error (.conflict (staleText α key ((version? a).getD "") token)), s)

def delete (key : Key) (s : Store α) : Except StoreError Unit × Store α :=
  let s := s.logged (.delete key)
  match s.fault? .delete (some key) with
  | some fault => (.error (fault.error (describe α key)), s)
  | none =>
    if s.objects.contains key then (.ok (), { s with objects := s.objects.erase key })
    else (.error (.notFound (describe α key)), s)

def access : ResourceStore (StateM (Store α)) α where
  get := get
  list := list
  create := create
  update := update
  delete := delete

end Operations

end Store

end MonitoringStack
