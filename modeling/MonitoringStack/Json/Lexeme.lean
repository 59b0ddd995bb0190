import MonitoringStack.Json.Unreadable

namespace MonitoringStack.Json

def isBlank (c : Char) : Bool := c = ' ' || c = '\t' || c = '\n' || c = '\r'

def skipBlanks (cs : List Char) : List Char := cs.dropWhile isBlank

def digitValue (c : Char) : Nat := c.toNat - 48

def hexValue? (c : Char) : Option Nat :=
  if c.isDigit then some (c.toNat - 48)
  else if 'a' ≤ c && c ≤ 'f' then some (c.toNat - 87)
  else if 'A' ≤ c && c ≤ 'F' then some (c.toNat - 55)
  else none

structure Exponent where
  negative : Bool
  digits : List Char

structure NumberText where
  negative : Bool
  whole : List Char
  fraction : List Char := []
  exponent : Option Exponent := none

namespace Exponent

def value (e : Exponent) : Int :=
  let n : Int := e.digits.foldl (fun n c => n * 10 + digitValue c) 0
  if e.negative then -n else n

def beyond : Nat → List Char → Nat
  | _, [] => 0
  | n, c :: cs =>
    if 0x7FFFFFFF < n * 10 + digitValue c then cs.length else beyond (n * 10 + digitValue c) cs

end Exponent

namespace NumberText

/-- Takes digits to a number while it stays below `2 ^ 64`; the digits from the first one on that
does not fit are counted and make no difference otherwise. -/
def gather : Nat → List Char → Nat × Nat
  | n, [] => (n, 0)
  | n, c :: cs =>
    if n * 10 + digitValue c < 0x10000000000000000 then gather (n * 10 + digitValue c) cs
    else (n, cs.length + 1)

/-- Whole numbers from -2^63 below 2^64 are integers, save `-0`; all others are doubles, and one
that is too large for a double has no value. A double is made of the digits that fit in 64 bits and
of a power of ten, each rounded. -/
def number? (t : NumberText) : Option Number :=
  let (n, beyond) := gather 0 t.whole
  if t.fraction.isEmpty && t.exponent.isNone && beyond = 0 &&
      (!t.negative || (n ≠ 0 && n ≤ 0x8000000000000000)) then
    some (.int (if t.negative then -n else n))
  else
    let (n, unread) := gather n t.fraction
    let exponent : Int := ((t.exponent.map (·.value)).getD 0) + beyond -
      (t.fraction.length - unread : Nat)
    (Binary64.scaled? n exponent).map fun x => .real (if t.negative then x.neg else x)

def digits (short : Defect) (cs : List Char) : Except Stop (List Char × List Char) :=
  match cs.takeWhile Char.isDigit with
  | [] => if cs.isEmpty then Stop.before short [] else Stop.past .badNumber cs
  | ds => .ok (ds, cs.dropWhile Char.isDigit)

def fractionPart (short : Defect) : List Char → Except Stop (List Char × List Char)
  | '.' :: rest => digits short rest
  | cs => .ok ([], cs)

def exponentPart (short : Defect) (cs : List Char) : Except Stop (Option Exponent × List Char) :=
  match cs with
  | c :: rest =>
    if c = 'e' || c = 'E' then do
      let (negative, rest) := match rest with
        | '-' :: rest => (true, rest)
        | '+' :: rest => (false, rest)
        | rest => (false, rest)
      let (digits, rest) ← digits short rest
      return (some { negative, digits }, rest)
    else .ok (none, cs)
  | [] => .ok (none, cs)

def read (short : Defect) (cs : List Char) : Except Stop (NumberText × List Char) := do
  let (negative, cs) := match cs with
    | '-' :: rest => (true, rest)
    | cs => (false, cs)
  let (whole, rest) ← digits short cs
  match whole with
  | '0' :: _ :: _ => Stop.past .badNumber cs.tail
  | whole => do
    let (fraction, rest) ← fractionPart short rest
    let (exponent, rest) ← exponentPart short rest
    return ({ negative, whole, fraction, exponent }, rest)

end NumberText

namespace Lexeme

section Texts

def escape? : Char → Option Char
  | '"' => some '"'
  | '\\' => some '\\'
  | '/' => some '/'
  | 'b' => some '\x08'
  | 'f' => some '\x0c'
  | 'n' => some '\n'
  | 'r' => some '\r'
  | 't' => some '\t'
  | _ => none

def hexUnit? (a b c d : Char) : Option Nat := do
  let a ← hexValue? a
  let b ← hexValue? b
  let c ← hexValue? c
  let d ← hexValue? d
  return ((a * 16 + b) * 16 + c) * 16 + d

def notHex {α : Type} (cs : List Char) : Except Stop α :=
  if size (cs.take 4) < 4 then Stop.before (.cutOff .string) []
  else .error { defect := .badEscape, left := size cs - 4 }

def isHighHalf (n : Nat) : Bool := 0xD800 ≤ n && n < 0xDC00

def isLowHalf (n : Nat) : Bool := 0xDC00 ≤ n && n < 0xE000

/-- A text whose opening quote has been read. The characters read so far stand backwards, and
`high` is the half of a character that has to be completed first. -/
def text (high : Option Nat) (found : List Char) : List Char → Except Stop (String × List Char)
  | [] => Stop.before (.cutOff .string) []
  | '\\' :: 'u' :: a :: b :: c :: d :: rest =>
    match high, hexUnit? a b c d with
    | _, none => notHex (a :: b :: c :: d :: rest)
    | none, some n =>
      if isHighHalf n then text (some n) found rest
      else if isLowHalf n then Stop.before .loneHalf rest
      else text none (Char.ofNat n :: found) rest
    | some high, some n =>
      if isLowHalf n then
        text none (Char.ofNat (0x10000 + (high - 0xD800) * 1024 + (n - 0xDC00)) :: found) rest
      else Stop.before .loneHalf rest
  | '\\' :: c :: rest =>
    if c = 'u' then notHex rest
    else
      match high, escape? c with
      | none, some c => text none (c :: found) rest
      | none, none => Stop.past .badEscape (c :: rest)
      | some _, _ => Stop.past .openHalf (c :: rest)
  | c :: rest =>
    if high.isSome && c ≠ '\\' then Stop.past .openHalf (c :: rest)
    else if c = '"' then .ok (String.ofList found.reverse, rest)
    else if c = '\\' then Stop.before (.cutOff .string) []
    else if c.toNat < 32 then Stop.before .rawControl rest
    else text none (c :: found) rest

def afterText : List Char → Except Stop (List Char)
  | [] => Stop.before (.cutOff .string) []
  | '\\' :: 'u' :: a :: b :: c :: d :: rest =>
    match hexUnit? a b c d with
    | some _ => afterText rest
    | none => notHex (a :: b :: c :: d :: rest)
  | '\\' :: c :: rest =>
    if c = 'u' then notHex rest
    else if (escape? c).isSome then afterText rest
    else Stop.past .badEscape (c :: rest)
  | c :: rest =>
    if c = '"' then .ok rest
    else if c = '\\' then Stop.before (.cutOff .string) []
    else if c.toNat < 32 then Stop.before .rawControl (c :: rest)
    else afterText rest

end Texts

def after : List Char → List Char → Except Stop (List Char)
  | [], cs => .ok cs
  | _ :: _, [] => Stop.before (.cutOff .value) []
  | w :: ws, c :: cs => if w = c then after ws cs else Stop.past .noWord (c :: cs)

/-- A number that is too large shows at its end, or at the digit that makes the exponent too
large. -/
def number (cs : List Char) : Except Stop (Json × List Char) := do
  let (t, rest) ← NumberText.read (.cutOff .value) cs
  match t.number? with
  | some n => return (.number n, rest)
  | none =>
    let beyond := (t.exponent.map fun e => Exponent.beyond 0 e.digits).getD 0
    .error { defect := .outOfRange, left := size rest + beyond }

def isNumberStart (c : Char) : Bool := c = '-' || c.isDigit

def read : List Char → Except Stop (Json × List Char)
  | [] => Stop.before (.cutOff .value) []
  | '"' :: rest => (text none [] rest).map fun r => (.string r.1, r.2)
  | 'n' :: rest => (after ['u', 'l', 'l'] rest).map (.null, ·)
  | 't' :: rest => (after ['r', 'u', 'e'] rest).map (.bool true, ·)
  | 'f' :: rest => (after ['a', 'l', 's', 'e'] rest).map (.bool false, ·)
  | c :: rest => if isNumberStart c then number (c :: rest) else Stop.past .noValue (c :: rest)

def skip : List Char → Except Stop (List Char)
  | [] => Stop.before (.cutOff .value) []
  | '"' :: rest => afterText rest
  | 'n' :: rest => after ['u', 'l', 'l'] rest
  | 't' :: rest => after ['r', 'u', 'e'] rest
  | 'f' :: rest => after ['a', 'l', 's', 'e'] rest
  | c :: rest =>
    if isNumberStart c then (NumberText.read .badNumber (c :: rest)).map (·.2)
    else Stop.past .noValue (c :: rest)

end Lexeme

end MonitoringStack.Json
