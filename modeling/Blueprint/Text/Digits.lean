import Blueprint.Text.Identifier

/-!
# Whole numbers in text

Digit runs in any radix up to 36, and signed decimal numbers of 64 bits.
-/

namespace Blueprint.Text

/-- The value of a digit in radix 36; letters count from ten in either case. -/
def digitValue? (c : Char) : Option Nat :=
  if isDigit c then some (c.toNat - '0'.toNat)
  else if 'a' ≤ c && c ≤ 'z' then some (c.toNat - 'a'.toNat + 10)
  else if 'A' ≤ c && c ≤ 'Z' then some (c.toNat - 'A'.toNat + 10)
  else none

def valueFrom? (radix : Nat) (acc : Nat) : List Char → Option Nat
  | [] => some acc
  | c :: cs =>
    match digitValue? c with
    | some d => if d < radix then valueFrom? radix (acc * radix + d) cs else none
    | none => none

/-- A non-empty run of digits and nothing else. -/
def natural? (radix : Nat) (cs : List Char) : Option Nat :=
  if cs.isEmpty then none else valueFrom? radix 0 cs

/-- A run of digits with at most one sign before it. -/
def integer? (radix : Nat) : List Char → Option Int
  | '+' :: cs => (natural? radix cs).map Int.ofNat
  | '-' :: cs => (natural? radix cs).map fun n => -Int.ofNat n
  | cs => (natural? radix cs).map Int.ofNat

def inInt64 (i : Int) : Bool := -0x8000000000000000 ≤ i && i < 0x8000000000000000

def inUInt64 (i : Int) : Bool := 0 ≤ i && i < 0x10000000000000000

def int64? (cs : List Char) : Option Int := (integer? 10 cs).filter inInt64

/-- Decimal digits of `n`, at least `width` of them. -/
def padded (width n : Nat) : String :=
  let ds := Nat.toDigits 10 n
  String.ofList (List.replicate (width - ds.length) '0' ++ ds)

def hexDigits (width n : Nat) : String :=
  let ds := Nat.toDigits 16 n
  String.ofList (List.replicate (width - ds.length) '0' ++ ds)

end Blueprint.Text
