import Mathlib.Data.List.Nodup
import MonitoringStack.Proofs.Resource.Status

namespace MonitoringStack

open Json (Slot Form Need)

namespace Entries

variable {κ α : Type} [DecidableEq κ] {k l : κ} {v : α} {before after : List (κ × α)}

theorem get?_append_self (h : k ∉ before.map (·.1)) :
    get? k (before ++ (k, v) :: after) = some v := by
  induction before with
  | nil => simp [get?]
  | cons hd tl ih =>
    obtain ⟨hne, htl⟩ := List.ne_and_not_mem_of_not_mem_cons h
    simpa [get?, hne] using ih htl

theorem get?_append_of_ne (h : l ≠ k) :
    get? l (before ++ (k, v) :: after) = get? l (before ++ after) := by
  induction before with
  | nil => simp [get?, h]
  | cons hd tl ih =>
    obtain ⟨k', v'⟩ := hd
    by_cases hk : l = k' <;> simp [get?, hk, ih]

end Entries

namespace Wire

@[simp] theorem name_required (name : String) (form : Form) :
    (Slot.required name form).name = name := rfl

@[simp] theorem name_optional (name : String) (form : Form) :
    (Slot.optional name form).name = name := rfl

inductive Change where
  /-- A field is added that the record does not have. -/
  | extended
  | removed (field : String)
  | within (field : String) (change : Change)
  | item (n : Nat) (change : Change)

/-- What a change of a record does to one of its fields. -/
inductive FieldChange where
  | kept
  | gone
  | within (change : Change)

def Change.at (c : Change) (name : String) : FieldChange :=
  match c with
  | .removed field => if field = name then .gone else .kept
  | .within field c => if field = name then .within c else .kept
  | .extended | .item .. => .kept

/-- The change only adds fields that are not known, at some depth. -/
inductive Change.Extends : Change → Prop
  | extended : Extends .extended
  | within {field : String} {c : Change} : Extends c → Extends (.within field c)
  | item {n : Nat} {c : Change} : Extends c → Extends (.item n c)

/-- How a tree of some form may be changed so that it still has the form. -/
inductive Changes : Form → Change → Json → Json → Prop
  | extended {name key : String} {slots : List (Slot Form)} {j : Json}
      {before after : List (String × Json)} :
      key ∉ slots.map (·.name) →
      Changes (.record .plain name slots) .extended (.object (before ++ after))
        (.object (before ++ (key, j) :: after))
  | removed {name : String} {slots : List (Slot Form)} {slot : Slot Form}
      {given : List (String × Json)} :
      slot ∈ slots → slot.need ≠ .required →
      Changes (.record .plain name slots) (.removed slot.name) (.object given)
        (.object (Entries.erase slot.name given))
  | within {name : String} {slots : List (Slot Form)} {slot : Slot Form} {c : Change} {j j' : Json}
      {before after : List (String × Json)} :
      slot ∈ slots → Changes slot.form c j j' →
      Changes (.record .plain name slots) (.within slot.name c)
        (.object (before ++ (slot.name, j) :: after)) (.object (before ++ (slot.name, j') :: after))
  | listed {name : String} {front back : List (Slot Form)} {slot : Slot Form} {c : Change}
      {j j' : Json} {before after : List Json} :
      before.length = front.length → Changes slot.form c j j' →
      Changes (.record .plain name (front ++ slot :: back)) (.within slot.name c)
        (.array (before ++ j :: after)) (.array (before ++ j' :: after))
  | item {form : Form} {c : Change} {j j' : Json} {before after : List Json} :
      Changes form c j j' →
      Changes (.list form) (.item before.length c) (.array (before ++ j :: after))
        (.array (before ++ j' :: after))

def Became (slot : Slot Form) (j? j'? : Option Json) : FieldChange → Prop
  | .kept => j'? = j?
  | .gone => j'? = none ∧ slot.need ≠ .required
  | .within c => ∃ j j', j? = some j ∧ j'? = some j' ∧ Changes slot.form c j j'

theorem map_fst_zip_sublist {α β : Type} (xs : List α) (ys : List β) :
    ((xs.zip ys).map (·.1)).Sublist xs := by
  induction xs generalizing ys with
  | nil => simp
  | cons x xs ih =>
    cases ys with
    | nil => simp
    | cons y ys => exact (ih ys).cons_cons x

theorem record?_object_eq_some {slots : List (Slot Form)} {given known : List (String × Json)} :
    record? slots (.object given) = some known ↔
      (given.filter fun g => g.1 ∈ slots.map (·.name)) = known ∧ (known.map (·.1)).Nodup := by
  simp only [record?, named?]
  split
  · next hn =>
    rw [Option.some.injEq]
    exact ⟨fun h => ⟨h, h ▸ hn⟩, fun h => h.1⟩
  · next hn =>
    exact ⟨fun h => absurd h (Option.some_ne_none known).symm, fun h => absurd (h.1 ▸ h.2) hn⟩

section Records

variable {slots : List (Slot Form)} (hnames : (slots.map (·.name)).Nodup) {slot : Slot Form}
include hnames

theorem eq_of_name_eq {slot' : Slot Form} (hslot : slot ∈ slots) (hslot' : slot' ∈ slots)
    (h : slot.name = slot'.name) : slot = slot' :=
  List.inj_on_of_nodup_map hnames hslot hslot' h

theorem became_within {before after : List (String × Json)} {c : Change} {j j' : Json}
    (hslot : slot ∈ slots) (hn : ((before ++ (slot.name, j) :: after).map (·.1)).Nodup)
    (h : Changes slot.form c j j') {other : Slot Form} (hother : other ∈ slots) :
    Became other (Entries.get? other.name (before ++ (slot.name, j) :: after))
      (Entries.get? other.name (before ++ (slot.name, j') :: after))
      ((Change.within slot.name c).at other.name) := by
  by_cases hname : slot.name = other.name
  · obtain rfl := eq_of_name_eq hnames hslot hother hname
    have hbefore : slot.name ∉ before.map (·.1) := by
      rw [List.map_append, List.nodup_append] at hn
      intro hmem
      exact hn.2.2 _ hmem _ List.mem_cons_self rfl
    simp only [Change.at, if_true]
    exact ⟨j, j', Entries.get?_append_self hbefore, Entries.get?_append_self hbefore, h⟩
  · simp only [Change.at, hname, if_false]
    have hne : other.name ≠ slot.name := Ne.symm hname
    exact (Entries.get?_append_of_ne hne).trans (Entries.get?_append_of_ne hne).symm

theorem record?_changes {name : String} {c : Change} {j j' : Json} {known : List (String × Json)}
    (h : Changes (.record .plain name slots) c j j') (hknown : record? slots j = some known) :
    ∃ known', record? slots j' = some known' ∧ ∀ slot ∈ slots,
      Became slot (Entries.get? slot.name known) (Entries.get? slot.name known')
        (c.at slot.name) := by
  cases h with
  | @extended _ key _ j before after hkey =>
    refine ⟨known, ?_, fun slot _ => rfl⟩
    rw [record?_object_eq_some] at hknown ⊢
    refine ⟨?_, hknown.2⟩
    rw [List.filter_append, List.filter_cons_of_neg (by simpa using hkey), ← List.filter_append]
    exact hknown.1
  | @removed _ _ slot given hslot hneed =>
    obtain ⟨rfl, hn⟩ := record?_object_eq_some.1 hknown
    refine ⟨Entries.erase slot.name (given.filter fun g => g.1 ∈ slots.map (·.name)),
      record?_object_eq_some.2 ⟨?_, ?_⟩, fun other hother => ?_⟩
    · exact List.filter_comm _ _ _
    · exact hn.sublist (List.filter_sublist.map _)
    · by_cases hname : slot.name = other.name
      · obtain rfl := eq_of_name_eq hnames hslot hother hname
        simp only [Change.at, if_true]
        exact ⟨Entries.get?_erase_self _ _, hneed⟩
      · simp only [Change.at, hname, if_false]
        exact Entries.get?_erase_of_ne (Ne.symm hname) _
  | @within _ _ slot c j j' before after hslot h =>
    obtain ⟨rfl, hn⟩ := record?_object_eq_some.1 hknown
    have htaken (j : Json) : (before ++ (slot.name, j) :: after).filter
          (fun g => g.1 ∈ slots.map (·.name)) =
        before.filter (fun g => g.1 ∈ slots.map (·.name)) ++
          (slot.name, j) :: after.filter (fun g => g.1 ∈ slots.map (·.name)) := by
      rw [List.filter_append, List.filter_cons_of_pos]
      exact decide_eq_true (List.mem_map_of_mem hslot)
    rw [htaken] at hn ⊢
    refine ⟨_, record?_object_eq_some.2 ⟨htaken j', ?_⟩,
      fun other hother => became_within hnames hslot hn h hother⟩
    simpa using hn
  | @listed _ front back slot c j j' before after hlength h =>
    have hzip (j : Json) : ((front ++ slot :: back).map (·.name)).zip (before ++ j :: after) =
        (front.map (·.name)).zip before ++ (slot.name, j) :: (back.map (·.name)).zip after := by
      rw [List.map_append, List.map_cons, List.zip_append (by simp [hlength]), List.zip_cons_cons]
    have hlength (j : Json) : (before ++ j :: after).length = before.length + after.length + 1 := by
      simp [Nat.add_assoc]
    simp only [record?, hlength, hzip] at hknown ⊢
    split at hknown
    · next hcond =>
      cases hknown
      have hn := hnames.sublist (map_fst_zip_sublist _ (before ++ j :: after))
      rw [hzip] at hn
      exact ⟨_, if_pos hcond, fun other hother =>
        became_within hnames (List.mem_append_right _ List.mem_cons_self) hn h hother⟩
    · cases hknown

end Records

section Fields

variable {α β : Type}

/-- The value that a field has after a change of its record. -/
def FieldChange.after (default : α) (inner : Change → α → α) (change : FieldChange) (a : α) : α :=
  match change with
  | .kept => a
  | .gone => default
  | .within c => inner c a

def keep (_ : Change) (a : α) : α := a

def inItem (inner : Change → α → α) (c : Change) (as : List α) : List α :=
  match c with
  | .item n c => as.modify n (inner c)
  | _ => as

def Ignores (after : Change → α → α) : Prop := ∀ c, c.Extends → ∀ a, after c a = a

section Ignores

variable {inner : Change → α → α}

theorem ignores_keep : Ignores (keep : Change → α → α) := fun _ _ _ => rfl

theorem Ignores.inItem (h : Ignores inner) : Ignores (inItem inner) := by
  intro c hc as
  cases hc with
  | extended | within => rfl
  | @item n c hc =>
    have hinner : inner c = id := funext (h c hc)
    rw [Wire.inItem, hinner, List.modify_id]

theorem Ignores.after (h : Ignores inner) {c : Change} (hc : c.Extends) (name : String)
    (default a : α) : (c.at name).after default inner a = a := by
  cases hc with
  | extended | item => rfl
  | @within field c hc =>
    rw [Change.at]
    split
    · exact h c hc a
    · rfl

end Ignores

/-- Where the one has a value, the other has what becomes of it. -/
def Carries (x x' : Option α) (g : α → α) : Prop := ∀ a, x = some a → x' = some (g a)

theorem carries_some {a a' : α} {g : α → α} (h : a' = g a) : Carries (some a) (some a') g := by
  intro b hb
  cases hb
  exact congrArg some h

theorem Carries.refl (x : Option α) : Carries x x id := fun _ ha => ha

theorem Carries.bind {x x' : Option α} {g : α → α} {f f' : α → Option β} {h : β → β}
    (hx : Carries x x' g) (hf : ∀ a, Carries (f a) (f' (g a)) h) :
    Carries (x >>= f) (x' >>= f') h := by
  intro b hb
  obtain ⟨a, ha, hb⟩ := Option.bind_eq_some_iff.1 hb
  exact Option.bind_eq_some_iff.2 ⟨g a, hx a ha, hf a b hb⟩

/-- A change that keeps the form leaves what can be decoded, and does to it what it does to
values. -/
def Bears (form : Form) (decode : Json → Option α) (after : Change → α → α) : Prop :=
  ∀ ⦃c j j'⦄, Changes form c j j' → Carries (decode j) (decode j') (after c)

theorem bears_string : Bears string string? keep := nofun

theorem bears_bool : Bears bool bool? keep := nofun

theorem bears_int32 : Bears (integer "i32" int32?) int32? keep := nofun

theorem bears_choice (names : List String) (decode : Json → Option α) :
    Bears (.choice names) decode keep := nofun

theorem bears_strings : Bears (.list string) (list? string?) keep := by
  intro c j j' h
  cases h with
  | item h => cases h

/-- A record that is decoded from the fields it knows bears a change if they do. -/
theorem bears_record {name : String} {slots : List (Slot Form)} {after : Change → α → α}
    {f : List (String × Json) → Option α} (hnames : (slots.map (·.name)).Nodup)
    (hf : ∀ {c known known'}, (∀ slot ∈ slots, Became slot (Entries.get? slot.name known)
      (Entries.get? slot.name known') (c.at slot.name)) → Carries (f known) (f known') (after c)) :
    Bears (.record .plain name slots) (fun j => record? slots j >>= f) after := by
  intro c j j' h a ha
  obtain ⟨known, hknown, ha⟩ := Option.bind_eq_some_iff.1 ha
  obtain ⟨known', hknown', hbecame⟩ := record?_changes hnames h hknown
  exact Option.bind_eq_some_iff.2 ⟨known', hknown', hf hbecame a ha⟩

variable {form : Form} {decode : Json → Option α} {inner : Change → α → α} {key : String}
  {known known' : List (String × Json)} {change : FieldChange} {default : α}

theorem Bears.list (hbears : Bears form decode inner) :
    Bears (.list form) (list? decode) (inItem inner) := by
  intro c j j' h
  cases h with
  | @item _ c j j' before after h =>
    change Carries ((before ++ j :: after).mapM decode) ((before ++ j' :: after).mapM decode)
      fun as => as.modify before.length (inner c)
    induction before with
    | nil =>
      rw [List.nil_append, List.nil_append, List.mapM_cons, List.mapM_cons]
      refine .bind (hbears h) fun a => ?_
      exact .bind (.refl _) fun as => carries_some rfl
    | cons k before ih =>
      rw [List.cons_append, List.cons_append, List.mapM_cons, List.mapM_cons]
      refine .bind (.refl _) fun a => ?_
      exact .bind ih fun as => carries_some rfl

theorem Bears.defaulted? (hbears : Bears form decode inner)
    (hbecame : Became (.defaulted key form) (Entries.get? key known) (Entries.get? key known')
      change) :
    Carries (Wire.defaulted? known key decode default) (Wire.defaulted? known' key decode default)
      (change.after default inner) := by
  intro a ha
  unfold Wire.defaulted? at ha ⊢
  cases change with
  | kept =>
    rw [show Entries.get? key known' = Entries.get? key known from hbecame]
    exact ha
  | gone => rw [hbecame.1]; rfl
  | within c =>
    obtain ⟨j, j', hj, hj', h⟩ := hbecame
    rw [hj] at ha
    rw [hj']
    exact hbears h a ha

theorem Bears.required? (hbears : Bears form decode keep)
    (hbecame : Became (.required key form) (Entries.get? key known) (Entries.get? key known')
      change) :
    Carries (Wire.required? known key decode) (Wire.required? known' key decode) id := by
  intro a ha
  unfold Wire.required? at ha ⊢
  cases change with
  | kept =>
    rw [show Entries.get? key known' = Entries.get? key known from hbecame]
    exact ha
  | gone => exact absurd rfl hbecame.2
  | within c =>
    obtain ⟨j, j', hj, hj', h⟩ := hbecame
    rw [hj] at ha
    rw [hj']
    exact hbears h a ha

theorem optional?_became
    (hbecame : Became (.optional key form) (Entries.get? key known) (Entries.get? key known')
      change) :
    Carries (Wire.optional? known key decode) (Wire.optional? known' key decode)
      (change.after none keep) := by
  intro a? ha
  unfold Wire.optional? at ha ⊢
  cases change with
  | kept =>
    rw [show Entries.get? key known' = Entries.get? key known from hbecame]
    exact ha
  | gone => rw [hbecame.1]; rfl
  | within c =>
    obtain ⟨j, j', -, -, h⟩ := hbecame
    cases h

end Fields

end Wire

end MonitoringStack
