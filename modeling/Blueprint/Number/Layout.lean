import Blueprint.Number.Shortest

/-!
# Layout of numbers

Finite numbers are written positionally while the decimal point lies between four zeros after the
point and sixteen digits before it, and with an exponent beyond. A positional number always shows
a digit on both sides of the point.
-/

namespace Blueprint.Double

/-- What two formats do differently: the mark before a positive exponent, and the texts of what is
no finite number. -/
structure Layout where
  positive : String
  infinity : String
  nan : String

def zeros (n : Nat) : String := String.ofList (List.replicate n '0')

def layoutDigits (l : Layout) (ds : List Char) (p : Int) : String :=
  let point := (ds.length : Int) + p
  if 0 ≤ p && point ≤ 16 then String.ofList ds ++ zeros p.toNat ++ ".0"
  else if 0 < point && point ≤ 16 then
    String.ofList (ds.take point.toNat) ++ "." ++ String.ofList (ds.drop point.toNat)
  else if -5 < point && point ≤ 0 then "0." ++ zeros (-point).toNat ++ String.ofList ds
  else
    let e := point - 1
    let mantissa :=
      match ds with
      | [] => ""
      | [d] => d.toString
      | d :: r => d.toString ++ "." ++ String.ofList r
    mantissa ++ "e" ++ (if 0 ≤ e then l.positive else "-") ++ toString e.natAbs

def render (l : Layout) (x : Double) : String :=
  if x.isNaN then l.nan
  else
    (if x.isNegative then "-" else "") ++
      if x.isInfinite then l.infinity
      else if x.isZero then "0.0"
      else
        let (k, p) := x.shortest
        layoutDigits l (Nat.toDigits 10 k) p

end Blueprint.Double
