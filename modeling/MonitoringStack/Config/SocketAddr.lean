namespace MonitoringStack

inductive SocketAddr where
  | v4 (a b c d : UInt8) (port : UInt16)
  | v6 (groups : Vector UInt16 8) (scope : UInt32) (port : UInt16)
deriving DecidableEq

namespace SocketAddr

section Reader

def digit? (radix : Nat) (c : Char) : Option Nat :=
  let n :=
    if c.isDigit then c.toNat - 48
    else if 'a' ≤ c && c ≤ 'z' then c.toNat - 87
    else if 'A' ≤ c && c ≤ 'Z' then c.toNat - 55
    else radix
  if n < radix then some n else none

/-- All the digits that come next, as a number up to a bound. Too many digits are no number. -/
def number? (radix most bound : Nat) (cs : List Char) : Option (Nat × List Char) :=
  let digits := cs.takeWhile fun c => (digit? radix c).isSome
  let n := digits.foldl (fun n c => n * radix + (digit? radix c).getD 0) 0
  if digits.isEmpty || most < digits.length || bound < n then none
  else some (n, cs.drop digits.length)

def octet? (cs : List Char) : Option (UInt8 × List Char) := do
  let (n, rest) ← number? 10 3 255 cs
  if cs.head? = some '0' && rest.length + 1 < cs.length then none
  else return (UInt8.ofNat n, rest)

def mark? (c : Char) : List Char → Option (List Char)
  | d :: rest => if c = d then some rest else none
  | [] => none

def quad? (cs : List Char) : Option ((UInt8 × UInt8 × UInt8 × UInt8) × List Char) := do
  let (a, cs) ← octet? cs
  let (b, cs) ← mark? '.' cs >>= octet?
  let (c, cs) ← mark? '.' cs >>= octet?
  let (d, cs) ← mark? '.' cs >>= octet?
  return ((a, b, c, d), cs)

def pair (high low : UInt8) : UInt16 := high.toUInt16 * 256 + low.toUInt16

/-- At most `limit` groups between colons, and whether the last two came as a quad, which only
ends the groups. -/
def groups? : Nat → Bool → List Char → List UInt16 × Bool × List Char
  | 0, _, cs => ([], false, cs)
  | limit + 1, first, cs =>
    match if first then some cs else mark? ':' cs with
    | none => ([], false, cs)
    | some start =>
      match if 0 < limit then quad? start else none with
      | some ((a, b, c, d), rest) => ([pair a b, pair c d], true, rest)
      | none =>
        match number? 16 4 0xFFFF start with
        | some (g, rest) =>
          let (gs, quad, rest) := groups? limit false rest
          (UInt16.ofNat g :: gs, quad, rest)
        | none => ([], false, cs)

def vector? (gs : List UInt16) : Option (Vector UInt16 8) :=
  if h : gs.toArray.size = 8 then some ⟨gs.toArray, h⟩ else none

/-- Eight groups, of which one run of zeros may be left out. -/
def address6? (cs : List Char) : Option (Vector UInt16 8 × List Char) :=
  let (head, quad, cs) := groups? 8 true cs
  if head.length = 8 then (vector? head).map (·, cs)
  else if quad then none
  else do
    let cs ← mark? ':' cs >>= mark? ':'
    let (tail, _, cs) := groups? (7 - head.length) true cs
    let gap := List.replicate (8 - head.length - tail.length) 0
    (vector? (head ++ gap ++ tail)).map (·, cs)

def port? (cs : List Char) : Option UInt16 := do
  let cs ← mark? ':' cs
  let (n, rest) ← number? 10 cs.length 0xFFFF cs
  if rest.isEmpty then return UInt16.ofNat n else none

def scope? (cs : List Char) : Option (UInt32 × List Char) :=
  match mark? '%' cs with
  | none => some (0, cs)
  | some cs => (number? 10 cs.length 0xFFFFFFFF cs).map fun r => (UInt32.ofNat r.1, r.2)

def read? (text : String) : Option SocketAddr :=
  match quad? text.toList with
  | some ((a, b, c, d), cs) => (port? cs).map (.v4 a b c d)
  | none => do
    let cs ← mark? '[' text.toList
    let (groups, cs) ← address6? cs
    let (scope, cs) ← scope? cs
    let cs ← mark? ']' cs
    (port? cs).map (.v6 groups scope)

end Reader

section Text

def hex (g : UInt16) : String := String.ofList (Nat.toDigits 16 g.toNat)

def join (gs : List UInt16) : String := ":".intercalate (gs.map hex)

def zeroRun (gs : List UInt16) : Nat := (gs.takeWhile (· = 0)).length

def longestRun (gs : List UInt16) : Nat × Nat :=
  (List.range gs.length).foldl (fun best i =>
    let n := zeroRun (gs.drop i)
    if best.2 < n then (i, n) else best) (0, 0)

def quadText (a b c d : UInt8) : String :=
  ".".intercalate ([a, b, c, d].map toString)

def addressText (gs : List UInt16) : String :=
  match gs with
  | [0, 0, 0, 0, 0, 0xFFFF, g, h] =>
    "::ffff:" ++ quadText (g / 256).toUInt8 g.toUInt8 (h / 256).toUInt8 h.toUInt8
  | gs =>
    let (start, n) := longestRun gs
    if 1 < n then join (gs.take start) ++ "::" ++ join (gs.drop (start + n)) else join gs

def text : SocketAddr → String
  | .v4 a b c d port => quadText a b c d ++ ":" ++ toString port
  | .v6 groups scope port =>
    "[" ++ addressText groups.toList ++ (if scope = 0 then "" else "%" ++ toString scope) ++
      "]:" ++ toString port

end Text

end SocketAddr

end MonitoringStack
