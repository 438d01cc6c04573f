import Blueprint.Number.Double
import Blueprint.Text.Digits

/-!
# Scalars

The types of plain scalars: nothing, truth values, integers, finite and special floating-point
numbers, and text for everything else. Digits after a leading zero are text.
-/

namespace Blueprint.Yaml

inductive Scalar where
  | null
  | bool (b : Bool)
  | int (i : Int)
  | float (x : Double)
  | text (s : String)
  deriving DecidableEq, Repr, Inhabited

namespace Scalar

def isNull (s : String) : Bool := ["null", "Null", "NULL", "~"].contains s

def bool? (s : String) : Option Bool :=
  if ["true", "True", "TRUE"].contains s then some true
  else if ["false", "False", "FALSE"].contains s then some false
  else none

/-! ### Integers -/

def isSign (c : Char) : Bool := c == '+' || c == '-'

def zeroLed : List Char → Bool
  | '0' :: d :: ds => (d :: ds).all Text.isDigit
  | _ => false

def radix : List Char → Nat × List Char
  | '0' :: 'x' :: ds => (16, ds)
  | '0' :: 'o' :: ds => (8, ds)
  | '0' :: 'b' :: ds => (2, ds)
  | ds => (10, ds)

def magnitude? (cs : List Char) : Option Nat :=
  if zeroLed cs then none
  else
    let (r, ds) := radix cs
    Text.natural? r ds

/-- An integer of at most 128 bits. -/
def integer? (cs : List Char) : Option Int :=
  match cs with
  | '-' :: ds => ((magnitude? ds).filter (· ≤ Nat.pow 2 127)).map fun n => -(n : Int)
  | '+' :: ds => ((magnitude? ds).filter (· < Nat.pow 2 128)).map Int.ofNat
  | ds => ((magnitude? ds).filter (· < Nat.pow 2 128)).map Int.ofNat

def inRange (i : Int) : Bool := Text.inInt64 i || Text.inUInt64 i

/-! ### Floating point -/

def exponent? : List Char → Option Int
  | [] => some 0
  | e :: cs => if e == 'e' || e == 'E' then Text.integer? 10 cs else none

/-- A decimal number: digits on at least one side of an optional point, and an exponent. -/
def decimal? (negative : Bool) (cs : List Char) : Option Double :=
  let whole := cs.takeWhile Text.isDigit
  let rest := cs.dropWhile Text.isDigit
  let (fraction, rest) :=
    match rest with
    | '.' :: r => (r.takeWhile Text.isDigit, r.dropWhile Text.isDigit)
    | r => ([], r)
  match Text.natural? 10 (whole ++ fraction), exponent? rest with
  | some n, some e => some (.ofDecimal negative n (e - fraction.length))
  | _, _ => none

def infinity? (s : String) : Option Double :=
  if [".inf", ".Inf", ".INF", "+.inf", "+.Inf", "+.INF"].contains s then some (.infinity false)
  else if ["-.inf", "-.Inf", "-.INF"].contains s then some (.infinity true)
  else none

/-- A finite decimal number with an optional sign, or one of the special ones. -/
def float? (s : String) : Option Double :=
  if [".nan", ".NaN", ".NAN"].contains s then some .nan
  else
    match infinity? s with
    | some x => some x
    | none =>
      let finite :=
        match s.toList with
        | '+' :: cs => decimal? false cs
        | '-' :: cs => decimal? true cs
        | cs => decimal? false cs
      finite.filter Double.isFinite

/-! ### Types -/

/-- The type of a plain scalar; an integer that no value can hold has none. -/
def ofPlain? (s : String) : Option Scalar :=
  if s.isEmpty || isNull s then some .null
  else
    match bool? s with
    | some b => some (.bool b)
    | none =>
      match integer? s.toList with
      | some i => if inRange i then some (.int i) else none
      | none =>
        let digits := match s.toList with
          | c :: cs => if isSign c then cs else c :: cs
          | [] => []
        match if zeroLed digits then none else float? s with
        | some x => some (.float x)
        | none => some (.text s)

/-- The standard tags, which force a type. -/
def ofTag? (tag : String) (s : String) : Option (Option Scalar) :=
  match tag with
  | "tag:yaml.org,2002:null" => some (if isNull s then some .null else none)
  | "tag:yaml.org,2002:bool" => some ((bool? s).map .bool)
  | "tag:yaml.org,2002:int" => some (((integer? s.toList).filter inRange).map .int)
  | "tag:yaml.org,2002:float" => some ((float? s).map .float)
  | _ => none

/-- The type of a scalar with a tag that names no variant; every other tag makes it text. -/
def resolve? (tag : Option String) (s : String) (plain : Bool) : Option Scalar :=
  match tag with
  | none => if plain then ofPlain? s else some (.text s)
  | some t => (ofTag? t s).getD (some (.text s))

end Scalar

end Blueprint.Yaml
