namespace MonitoringStack

/-- A finite double. The magnitude is the biased exponent followed by the 52 fraction bits, read
as one number, so that magnitudes are ordered as the values are. -/
structure Binary64 where
  negative : Bool
  magnitude : Nat
  finite : magnitude < 2047 * Nat.pow 2 52
deriving DecidableEq

namespace Binary64

def zero : Binary64 := ⟨false, 0, by decide⟩

instance : Inhabited Binary64 := ⟨zero⟩

def isZero (x : Binary64) : Bool := x.magnitude = 0

def neg (x : Binary64) : Binary64 := { x with negative := !x.negative }

def same (x y : Binary64) : Bool :=
  x.magnitude = y.magnitude && (x.negative = y.negative || x.isZero)

def significand (magnitude : Nat) : Nat :=
  if magnitude / Nat.pow 2 52 = 0 then magnitude else Nat.pow 2 52 + magnitude % Nat.pow 2 52

def scale (magnitude : Nat) : Nat := magnitude / Nat.pow 2 52 - 1

def ratio (magnitude : Nat) : Nat × Nat :=
  (significand magnitude * Nat.pow 2 (scale magnitude), Nat.pow 2 1074)

def roundHalfEven (num den : Nat) : Nat :=
  let q := num / den
  let twice := 2 * (num % den)
  if twice < den || (twice = den && q % 2 = 0) then q else q + 1

/-- The magnitude nearest to `num / den`, ties to the even one. The scale is the least at which
the significand stays below `2 ^ 53`; a significand that rounds up to `2 ^ 53` carries into the
exponent by itself. -/
def nearest (num den : Nat) : Nat :=
  let whole := num * Nat.pow 2 1074 / den
  let scale := whole.log2 - 52
  scale * Nat.pow 2 52 + roundHalfEven (num * Nat.pow 2 1074) (den * Nat.pow 2 scale)

def ofRatio? (negative : Bool) (num den : Nat) : Option Binary64 :=
  if h : nearest num den < 2047 * Nat.pow 2 52 then some ⟨negative, nearest num den, h⟩ else none

def ofRatio (num den : Nat) : Binary64 :=
  (ofRatio? false num den).getD ⟨false, 2047 * Nat.pow 2 52 - 1, by decide⟩

def ofNat (n : Nat) : Binary64 := ofRatio n 1

def addMagnitude (x y : Binary64) : Binary64 :=
  ofRatio ((ratio x.magnitude).1 + (ratio y.magnitude).1) (Nat.pow 2 1074)

def tenTo (n : Nat) : Binary64 := ofNat (Nat.pow 10 n)

def mul? (x y : Binary64) : Option Binary64 :=
  ofRatio? (x.negative != y.negative) ((ratio x.magnitude).1 * (ratio y.magnitude).1)
    (Nat.pow 2 1074 * Nat.pow 2 1074)

def div? (x y : Binary64) : Option Binary64 :=
  ofRatio? (x.negative != y.negative) (ratio x.magnitude).1 (ratio y.magnitude).1

def shrink? (x : Binary64) (n : Nat) : Option Binary64 :=
  if n ≤ 308 then x.div? (tenTo n)
  else if x.isZero then some x
  else (x.div? (tenTo 308)).bind (·.shrink? (n - 308))
termination_by n

/-- The double for `digits * 10 ^ exponent` that two roundings give: one of the digits, one of
their product or quotient with the power of ten. None if it is too large. -/
def scaled? (digits : Nat) (exponent : Int) : Option Binary64 :=
  let x := ofNat digits
  if exponent < 0 then x.shrink? (-exponent).toNat
  else if exponent ≤ 308 then x.mul? (tenTo exponent.toNat)
  else if x.isZero then some x
  else none

/-- The double nearest to `digits * 10 ^ exponent`. Exponents far outside the range are settled
before any power is taken. -/
def ofDecimal? (digits : Nat) (exponent : Int) : Option Binary64 :=
  let size : Int := (toString digits).length
  if digits = 0 || size + exponent < -330 then some zero
  else if size + exponent > 320 then none
  else if 0 ≤ exponent then ofRatio? false (digits * Nat.pow 10 exponent.toNat) 1
  else ofRatio? false digits (Nat.pow 10 (-exponent).toNat)

end Binary64

end MonitoringStack
