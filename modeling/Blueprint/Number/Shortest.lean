import Blueprint.Number.Double

/-!
# Shortest decimals

`Double.shortest` is the decimal with the fewest digits that rounds back to a finite number, and
of those the nearest to it.
-/

namespace Blueprint.Double

/-- A magnitude as the fraction `value / unit`, with the ends of the interval that rounds to it. -/
structure Interval where
  low : Nat
  value : Nat
  high : Nat
  unit : Nat
  closed : Bool

/-- The interval of a positive finite number, in quarters of its last place. -/
def interval (x : Double) : Interval :=
  let (m, q) := x.parts
  let below := if m = Nat.pow 2 52 && 0 < q then 1 else 2
  let scale := fun k => k * Nat.pow 2 q
  { low := scale (4 * m - below), value := scale (4 * m), high := scale (4 * m + 2)
    unit := 4 * Nat.pow 2 lowest, closed := m % 2 == 0 }

def Interval.holds (i : Interval) (n d : Nat) : Bool :=
  -- n / d against low / unit and high / unit
  if i.closed then i.low * d ≤ n * i.unit && n * i.unit ≤ i.high * d
  else i.low * d < n * i.unit && n * i.unit < i.high * d

/-- The grid point of step `10 ^ p` that lies in the interval, the nearer one of two. -/
def Interval.point? (i : Interval) (p : Int) : Option Nat :=
  let (up, down) := if 0 ≤ p then (Nat.pow 10 p.toNat, 1) else (1, Nat.pow 10 (-p).toNat)
  let k := i.value * down / (i.unit * up)
  let rest := i.value * down % (i.unit * up)
  let inLow := 0 < k && i.holds (k * up) down
  let inHigh := i.holds ((k + 1) * up) down
  if inLow && inHigh then
    if 2 * rest < i.unit * up then some k
    else if i.unit * up < 2 * rest then some (k + 1)
    else if k % 2 = 0 then some k else some (k + 1)
  else if inLow then some k
  else if inHigh then some (k + 1)
  else none

/-- The exponent `k` with `10 ^ (k - 1) ≤ value / unit < 10 ^ k`. -/
def Interval.size (i : Interval) : Int :=
  let n := i.value / i.unit
  if n ≠ 0 then (Nat.toDigits 10 n).length
  else
    let m := i.value * Nat.pow 10 330 / i.unit
    (Nat.toDigits 10 m).length - 330

/-- Tries one digit more at each step, coarse grids first. -/
def Interval.search (i : Interval) (size : Int) : List Nat → Nat × Int
  | [] => (0, 0)
  | n :: rest =>
    let p := size - n
    match i.point? p with
    | some k => (k, p)
    | none => i.search size rest

def stripZeros : Nat → Nat × Int → Nat × Int
  | 0, d => d
  | fuel + 1, (k, p) => if k ≠ 0 && k % 10 = 0 then stripZeros fuel (k / 10, p + 1) else (k, p)

/-- `k` and `p` with the magnitude near `k * 10 ^ p`; `k` does not end in a zero. -/
def shortest (x : Double) : Nat × Int :=
  if x.isZero then (0, 0)
  else
    let i := x.interval
    stripZeros 20 (i.search i.size (List.range' 1 17))

end Blueprint.Double
