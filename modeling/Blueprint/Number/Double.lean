/-!
# Binary floating point

A `Double` is the word of a 64-bit binary floating-point number. `ofRatio` rounds a quotient of
naturals to the nearest one, ties to the even word, and `ofDecimal` reads `n * 10 ^ e`.
All arithmetic is on naturals.
-/

namespace Blueprint

structure Double where
  bits : UInt64
  deriving DecidableEq, Repr, Inhabited

namespace Double

def isNegative (x : Double) : Bool := Nat.pow 2 63 ≤ x.bits.toNat

def magnitude (x : Double) : Nat := x.bits.toNat % Nat.pow 2 63

/-- The magnitude of infinity; greater ones are no numbers. -/
def infinite : Nat := 0x7FF * Nat.pow 2 52

def isInfinite (x : Double) : Bool := x.magnitude == infinite

def isNaN (x : Double) : Bool := infinite < x.magnitude

def isFinite (x : Double) : Bool := x.magnitude < infinite

def isZero (x : Double) : Bool := x.magnitude == 0

def ofMagnitude (negative : Bool) (m : Nat) : Double :=
  ⟨(m + if negative then Nat.pow 2 63 else 0).toUInt64⟩

def infinity (negative : Bool) : Double := ofMagnitude negative infinite

def nan : Double := ofMagnitude false (infinite + Nat.pow 2 51)

/-- Finite magnitudes count in units of `2 ^ -lowest`. -/
def lowest : Nat := 1074

/-- The significand `m` and the exponent `q` of a finite magnitude `m * 2 ^ (q - lowest)`. -/
def parts (x : Double) : Nat × Nat :=
  let e := x.magnitude / Nat.pow 2 52
  let f := x.magnitude % Nat.pow 2 52
  if e = 0 then (f, 0) else (f + Nat.pow 2 52, e - 1)

/-- The quotient to the nearest natural, a tie to the even one. -/
def roundDiv (n d : Nat) : Nat :=
  let q := n / d
  let r := n % d
  if 2 * r < d then q
  else if d < 2 * r then q + 1
  else if q % 2 = 0 then q else q + 1

def magnitudeOfRatio (n d : Nat) : Nat :=
  if n = 0 then 0
  else
    -- the exponent that leaves a significand of 53 bits is `k` or one more
    let k : Int := (Nat.log2 n : Int) - Nat.log2 d - 53 + lowest
    let q₀ := k.toNat
    let low := fun q => (n * Nat.pow 2 lowest) / (d * Nat.pow 2 q)
    let q := if low q₀ < Nat.pow 2 53 then q₀ else q₀ + 1
    min infinite (q * Nat.pow 2 52 + roundDiv (n * Nat.pow 2 lowest) (d * Nat.pow 2 q))

def ofRatio (negative : Bool) (n d : Nat) : Double := ofMagnitude negative (magnitudeOfRatio n d)

/-- `n * 10 ^ e`. Exponents beyond every finite magnitude are not expanded. -/
def ofDecimal (negative : Bool) (n : Nat) (e : Int) : Double :=
  if n = 0 then ofMagnitude negative 0
  else
    let size : Int := (Nat.toDigits 10 n).length + e
    if 310 < size then infinity negative
    else if size < -330 then ofMagnitude negative 0
    else if 0 ≤ e then ofRatio negative (n * Nat.pow 10 e.toNat) 1
    else ofRatio negative n (Nat.pow 10 (-e).toNat)

/-- Equality of numbers: the two zeros are one number, and so is everything that is none. -/
def same (x y : Double) : Bool :=
  x.bits == y.bits || (x.isZero && y.isZero) || (x.isNaN && y.isNaN)

end Double

end Blueprint
