import MonitoringStack.Decimal.Binary64

namespace MonitoringStack

structure Decimal where
  digits : Nat
  exponent : Int
deriving DecidableEq

namespace Decimal

inductive Tie where
  | toEven
  | upward
deriving DecidableEq

def readsBack (d : Decimal) (magnitude : Nat) : Bool :=
  (Binary64.ofDecimal? d.digits d.exponent).any (·.magnitude = magnitude)

/-- How many digits stand before the point, counted downwards below 1; every double is above
`10 ^ -340`. -/
def pointPosition (num den : Nat) : Int :=
  (toString (num * Nat.pow 10 340 / den)).length - 340

def around (tie : Tie) (num den : Nat) (exponent : Int) : List Decimal :=
  let n := if exponent < 0 then num * Nat.pow 10 (-exponent).toNat else num
  let d := if exponent < 0 then den else den * Nat.pow 10 exponent.toNat
  let below : Decimal := ⟨n / d, exponent⟩
  let above : Decimal := ⟨n / d + 1, exponent⟩
  let twice := 2 * (n % d)
  if twice < d || (twice = d && tie = .toEven && n / d % 2 = 0) then [below, above]
  else [above, below]

def dropZeros : Nat → Decimal → Decimal
  | 0, d => d
  | fuel + 1, d =>
    if d.digits ≠ 0 && d.digits % 10 = 0 then dropZeros fuel ⟨d.digits / 10, d.exponent + 1⟩ else d

def search (tie : Tie) (magnitude num den : Nat) (point : Int) : Nat → Nat → Decimal
  | 0, _ => ⟨0, 0⟩
  | fuel + 1, places =>
    match (around tie num den (point - places)).find? (·.readsBack magnitude) with
    | some d => dropZeros 20 d
    | none => search tie magnitude num den point fuel (places + 1)

/-- The decimal with the fewest digits that reads back as the double of that magnitude, and of
those the nearest to it. Seventeen digits always suffice. -/
def shortest (tie : Tie) (magnitude : Nat) : Decimal :=
  if magnitude = 0 then ⟨0, 0⟩
  else
    let (num, den) := Binary64.ratio magnitude
    search tie magnitude num den (pointPosition num den) 18 1

def zeros (n : Nat) : String := String.ofList (List.replicate n '0')

def positional (digits : String) (point : Int) : String :=
  if point ≤ 0 then "0." ++ zeros (-point).toNat ++ digits
  else
    let before := point.toNat
    if digits.length ≤ before then digits ++ zeros (before - digits.length)
    else String.ofList (digits.toList.take before) ++ "." ++
      String.ofList (digits.toList.drop before)

def plain (x : Binary64) : String :=
  let d := shortest .upward x.magnitude
  let digits := toString d.digits
  (if x.negative then "-" else "") ++ positional digits (digits.length + d.exponent)

/-- Positional from 1e-5 up to 1e16 with at least one place after the point, else one digit before
the point and an exponent with its sign. -/
def scientific (x : Binary64) : String :=
  let d := shortest .toEven x.magnitude
  let digits := toString d.digits
  let point : Int := digits.length + d.exponent
  let text :=
    if -5 < point && point ≤ 16 then
      let t := positional digits point
      if (digits.length : Int) ≤ point then t ++ ".0" else t
    else
      let rest := digits.toList.drop 1
      String.ofList (digits.toList.take 1) ++
        (if rest.isEmpty then "" else "." ++ String.ofList rest) ++ "e" ++
        (if 0 < point then "+" else "") ++ toString (point - 1)
  (if x.negative then "-" else "") ++ text

end Decimal

end MonitoringStack
