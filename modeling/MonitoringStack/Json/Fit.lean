import MonitoringStack.Json.Embedded

namespace MonitoringStack.Json

namespace Form

def chosen? : Json → Option String
  | .string name => some name
  | .object [(name, .null)] => some name
  | _ => none

mutual

def fits : Form → Json → Bool
  | .any, j => (settle? j).isSome
  | .kept, _ => true
  | .skipped, _ => true
  | .scalar objection, j => (objection j).isNone
  | .choice names, j => (chosen? j).any (· ∈ names)
  | .nullable form, j => j.isNull || form.fits j
  | .list item, .array items => items.all item.fits
  | .list _, _ => false
  | .map value, .object fields => fields.all fun f => value.fits f.2
  | .map _, _ => false
  | .record style _ fields, .object given => fitsSlots style fields given
  | .record style _ fields, .array items => style = .plain && fitsItems fields items
  | .record .., _ => false
  | .checked form objection, j => form.fits j && (objection j).isNone

def fitsSlots (style : Style) : List (Slot Form) → List (String × Json) → Bool
  | [], _ => true
  | f :: rest, given => fitsSlot style f given && fitsSlots style rest given

def fitsSlot (style : Style) : Slot Form → List (String × Json) → Bool
  | ⟨name, need, form⟩, given =>
    let values := given.filter (·.1 = name)
    (need ≠ .required || !values.isEmpty) && (style = .loose || values.length ≤ 1) &&
      values.all fun v => form.fits v.2

def fitsItems : List (Slot Form) → List Json → Bool
  | [], items => items.isEmpty
  | f :: rest, items => fitsItem f items.head? && fitsItems rest items.tail

def fitsItem : Slot Form → Option Json → Bool
  | ⟨_, need, _⟩, none => need = .defaulted
  | ⟨_, _, form⟩, some j => form.fits j

end

end Form

end MonitoringStack.Json
