import MonitoringStack.Json.Form
import MonitoringStack.Json.Lexeme

namespace MonitoringStack.Json

namespace Reader

def maxDepth : Nat := 127

section Passing

mutual

def skip : Nat → List Char → Except Stop (List Char)
  | 0, cs => Stop.before .tooDeep cs
  | fuel + 1, cs =>
    match skipBlanks cs with
    | '[' :: rest => skipItems fuel true rest
    | '\x7b' :: rest => skipFields fuel true rest
    | cs => Lexeme.skip cs

def skipItems : Nat → Bool → List Char → Except Stop (List Char)
  | 0, _, cs => Stop.before .tooDeep cs
  | fuel + 1, first, cs =>
    match skipBlanks cs with
    | [] => Stop.before (.cutOff .list) []
    | ']' :: rest => .ok rest
    | c :: rest =>
      if first then (skip fuel (c :: rest)).bind (skipItems fuel false)
      else if c = ',' then (skip fuel rest).bind (skipItems fuel false)
      else Stop.past .noItemBreak (c :: rest)

def skipFields : Nat → Bool → List Char → Except Stop (List Char)
  | 0, _, cs => Stop.before .tooDeep cs
  | fuel + 1, first, cs =>
    match skipBlanks cs with
    | [] => Stop.before (.cutOff .object) []
    | '\x7d' :: rest => .ok rest
    | c :: rest =>
      if first then skipField fuel (c :: rest)
      else if c = ',' then skipField fuel rest
      else Stop.past .noFieldBreak (c :: rest)

def skipField : Nat → List Char → Except Stop (List Char)
  | 0, cs => Stop.before .tooDeep cs
  | fuel + 1, cs =>
    match skipBlanks cs with
    | '"' :: rest => do
      match skipBlanks (← Lexeme.afterText rest) with
      | ':' :: rest => (skip fuel rest).bind (skipFields fuel false)
      | [] => Stop.before (.cutOff .object) []
      | rest => Stop.past .noColon rest
    | [] => Stop.before (.cutOff .object) []
    | rest => Stop.past .bareKey rest

end

end Passing

section Arrays

inductive Row where
  | all (item : Form)
  | each (fields : List (Slot Form))

def row? : Form → Option Row
  | .any => some (.all .any)
  | .kept => some (.all .kept)
  | .list item => some (.all item)
  | .record .plain _ fields => some (.each fields)
  | _ => none

def Row.next? : Row → Option (Form × Row)
  | .all item => some (item, .all item)
  | .each (f :: rest) => some (f.form, .each rest)
  | .each [] => none

/-- How many fields stand before the first one that has to be listed, if there is such a one. -/
def Row.owed? : Row → Option Nat
  | .all _ => none
  | .each fields => fields.findIdx? (·.need ≠ .defaulted)

def givenUpArray (cs : List Char) : List Char :=
  match skipBlanks cs with
  | ']' :: rest => rest
  | ',' :: rest => skipBlanks rest
  | rest => rest

def isRecord : Form → Bool
  | .record .. => true
  | _ => false

def closeArray (form : Form) (row : Row) (n : Nat) (rest : List Char) :
    Except Stop (List Json × List Char) :=
  match form, row.owed? with
  | .record style name fields, some owed =>
    Stop.before (.unfit (wrongLength (n + owed) (style.recordName name) fields.length)) rest
  | _, _ => .ok ([], rest)

def nextItem? (row : Row) (n : Nat) (cs : List Char) : Except Stop (Option (List Char)) :=
  match row.next?, skipBlanks cs with
  | _, ']' :: _ => .ok none
  | _, [] => Stop.before (.cutOff .list) []
  | none, ',' :: rest =>
    match skipBlanks rest with
    | ']' :: rest => Stop.past .trailingComma (']' :: rest)
    | rest => Stop.past .trailingText rest
  | none, rest => Stop.past .trailingText rest
  | some _, c :: rest =>
    if n = 0 then .ok (some (c :: rest))
    else if c = ',' then
      match skipBlanks rest with
      | ']' :: rest => Stop.past .trailingComma (']' :: rest)
      | [] => Stop.before (.cutOff .value) []
      | rest => .ok (some rest)
    else Stop.past .noItemBreak (c :: rest)

end Arrays

section Objects

def isObject : Form → Bool
  | .any | .kept | .map _ | .record .. => true
  | _ => false

def under? (form : Form) (seen : List String) (key : String) : Option Form :=
  match form with
  | .map value => some value
  | .record style _ fields =>
    match fields.find? (·.name = key) with
    | some f => if style ≠ .loose && key ∈ seen then none else some f.form
    | none => if style = .extensible then some .kept else some .skipped
  | form => some form

def missing? (form : Form) (seen : List String) : Option String :=
  match form with
  | .record _ _ fields =>
    (fields.find? fun f => f.need = .required && f.name ∉ seen).map (·.name)
  | _ => none

def isSkipped : Form → Bool
  | .skipped => true
  | _ => false

def isMarker (form : Form) (seen : List String) (key : String) : Bool :=
  match form with
  | .any => seen.isEmpty && key = embeddedKey
  | _ => false

def givenUpObject (cs : List Char) : List Char :=
  match skipBlanks cs with
  | '\x7d' :: rest => rest
  | rest => rest

def closeObject (form : Form) (seen : List String) (rest : List Char) :
    Except Stop (List (String × Json) × List Char) :=
  match missing? form seen with
  | some name => Stop.before (.unfit (missingField name)) rest
  | none => .ok ([], rest)

def key (cs : List Char) : Except Stop (String × List Char) :=
  match skipBlanks cs with
  | '"' :: rest => Lexeme.text none [] rest
  | [] => Stop.before (.cutOff .value) []
  | rest => Stop.past .bareKey rest

def nextKey? (first : Bool) (cs : List Char) : Except Stop (Option String × List Char) :=
  match skipBlanks cs with
  | [] => Stop.before (.cutOff .object) []
  | '\x7d' :: rest => .ok (none, rest)
  | c :: rest =>
    if first then (key (c :: rest)).map fun r => (some r.1, r.2)
    else if c = ',' then
      match skipBlanks rest with
      | '\x7d' :: rest => Stop.past .trailingComma ('\x7d' :: rest)
      | rest => (key rest).map fun r => (some r.1, r.2)
    else Stop.past .noFieldBreak (c :: rest)

def colon (cs : List Char) : Except Stop (List Char) :=
  match skipBlanks cs with
  | ':' :: rest => .ok rest
  | [] => Stop.before (.cutOff .object) []
  | rest => Stop.past .noColon rest

def lastBrace (cs : List Char) : Except Stop (List Char) :=
  match skipBlanks cs with
  | '\x7d' :: rest => .ok rest
  | [] => Stop.before (.cutOff .object) []
  | ',' :: rest => Stop.past .trailingComma (',' :: rest)
  | rest => Stop.past .trailingText rest

end Objects

section Scalars

/-- What is at the start of a text: a value without parts, or the opening of one with parts. -/
def start (cs : List Char) : Except Stop (Json × List Char) :=
  match cs with
  | '[' :: _ => .ok (.array [], cs)
  | '\x7b' :: _ => .ok (.object [], cs)
  | cs => Lexeme.read cs

def scalar (objection : Objection) (cs : List Char) : Except Stop (Json × List Char) := do
  let (j, rest) ← start cs
  match objection j with
  | none => return (j, rest)
  | some reason => Stop.before (.unfit reason) rest

def accepted : Objection := fun _ => none

def notString (expected : String) : Objection
  | .string _ => none
  | j => some (j.wrongType expected)

def notNull : Objection := fun j => if j.isNull then none else some (j.wrongType "unit")

def notNamed (names : List String) : Objection
  | .string s => if s ∈ names then none else some (wrongName s names)
  | j => some (j.wrongType "variant identifier")

def objection : Form → Objection
  | .any | .kept => accepted
  | .scalar objection => objection
  | form => fun j => some (j.wrongType form.expected)

def choice (depth : Nat) (names : List String) (cs : List Char) :
    Except Stop (Json × List Char) :=
  match cs with
  | [] => Stop.before (.cutOff .value) []
  | '"' :: _ => scalar (notNamed names) cs
  | '\x7b' :: rest =>
    if depth = 0 then Stop.past .tooDeep cs
    else
      match skipBlanks rest with
      | '"' :: rest => do
        let (name, rest) ← scalar (notNamed names) ('"' :: rest)
        let (_, rest) ← scalar notNull (skipBlanks (← colon rest))
        match skipBlanks rest with
        | '\x7d' :: rest => return (name, rest)
        | [] => Stop.before (.cutOff .object) []
        | rest => Stop.before .noValue rest
      | [] => Stop.before (.cutOff .value) []
      | rest => Stop.past .bareKey rest
  | cs => Stop.past .noValue cs

end Scalars

mutual

/-- One value of a form and what follows it. The first thing in the text that is not as it should
be decides why there is none. `depth` bounds the nesting that is still allowed. -/
def value : Nat → Nat → Form → List Char → Except Stop (Json × List Char)
  | 0, _, _, cs => Stop.before .tooDeep cs
  | fuel + 1, depth, form, cs =>
    let cs := skipBlanks cs
    match form with
    | .skipped => (skip (fuel + 1) cs).map (.null, ·)
    | .nullable form =>
      if cs.head? = some 'n' then scalar accepted cs else value fuel depth form cs
    | .checked form objection =>
      match value fuel depth form cs with
      | .error stop => .error stop
      | .ok (j, rest) =>
        match objection j with
        | none => .ok (j, rest)
        | some reason => Stop.before (.unfit reason) rest
    | .choice names => choice depth names cs
    | form =>
      match cs with
      | '[' :: rest =>
        match row? form with
        | some row =>
          if depth = 0 then Stop.past .tooDeep cs
          else (items fuel (depth - 1) form row 0 rest).map fun r => (.array r.1, r.2)
        | none =>
          if !isRecord form then scalar (objection form) cs
          else if depth = 0 then Stop.past .tooDeep cs
          else Stop.before (.unfit (wrongType (.array []) form.expected)) (givenUpArray rest)
      | '\x7b' :: rest =>
        if !isObject form then scalar (objection form) cs
        else if depth = 0 then Stop.past .tooDeep cs
        else (fields fuel (depth - 1) form [] rest).map fun r => (.object r.1, r.2)
      | cs => scalar (objection form) cs

def items : Nat → Nat → Form → Row → Nat → List Char → Except Stop (List Json × List Char)
  | 0, _, _, _, _, cs => Stop.before .tooDeep cs
  | fuel + 1, depth, form, row, n, cs => do
    match row.next?, ← nextItem? row n cs with
    | some (item, row), some rest =>
      let (j, rest) ← value fuel depth item rest
      let (js, rest) ← items fuel depth form row (n + 1) rest
      return (j :: js, rest)
    | _, _ => closeArray form row n (givenUpArray cs)

def fields : Nat → Nat → Form → List String → List Char →
    Except Stop (List (String × Json) × List Char)
  | 0, _, _, _, cs => Stop.before .tooDeep cs
  | fuel + 1, depth, form, seen, cs => do
    match ← nextKey? seen.isEmpty cs with
    | (none, rest) => closeObject form seen rest
    | (some name, rest) =>
      if isMarker form seen name then
        let (text, rest) ← value fuel depth (.scalar (notString "raw value")) (← colon rest)
        match text with
        | .string s =>
          match value fuel maxDepth .any s.toList with
          | .error stop => throw (stop.embedded s.toList)
          | .ok (_, after) =>
            match skipBlanks after with
            | [] => return ([(name, text)], ← lastBrace rest)
            | after =>
              throw { defect := .unfit Defect.trailingText.text, left := size after - 1,
                      inside := some s.toList }
        | _ => return ([(name, text)], rest)
      else
        match under? form seen name with
        | none => Stop.before (.unfit (duplicateField name)) (givenUpObject rest)
        | some inner =>
          let (j, rest) ← value fuel depth inner (← colon rest)
          let (more, rest) ← fields fuel depth form (name :: seen) rest
          return (if isSkipped inner then more else (name, j) :: more, rest)

end

end Reader

def Form.read (form : Form) (text : String) : Except Unreadable Json :=
  let cs := text.toList
  let result := do
    let (j, rest) ← Reader.value (4 * cs.length + 8) Reader.maxDepth form cs
    match skipBlanks rest with
    | [] => return j
    | rest => Stop.past .trailingText rest
  result.mapError (·.toUnreadable cs)

def Form.decode {α : Type} (form : Form) (decode? : Json → Option α) (text : String) :
    Except Unreadable α := do
  let j ← form.read text
  match decode? j with
  | some a => return a
  | none => throw (Stop.toUnreadable ⟨.unfit (j.wrongType form.expected), 0, none⟩ text.toList)

end MonitoringStack.Json
