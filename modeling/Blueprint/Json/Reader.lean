import Blueprint.Json.Value
import Blueprint.Text.Digits

/-!
# Reading JSON

`Json.read?` takes one value and nothing after it. A field that is given twice keeps its first
place and its last value. Whole numbers of 64 bits are integers, all others are rounded.
-/

namespace Blueprint.Json

def isSpace (c : Char) : Bool := c == ' ' || c == '\t' || c == '\n' || c == '\r'

def skip (cs : List Char) : List Char := cs.dropWhile isSpace

def hex4? : List Char → Option (Nat × List Char)
  | a :: b :: c :: d :: r => (Text.natural? 16 [a, b, c, d]).map fun n => (n, r)
  | _ => none

/-- One escape after its backslash; a pair of surrogates is one character. -/
def unescape? : List Char → Option (Char × List Char)
  | 'b' :: r => some ('\x08', r)
  | 't' :: r => some ('\t', r)
  | 'n' :: r => some ('\n', r)
  | 'f' :: r => some ('\x0c', r)
  | 'r' :: r => some ('\r', r)
  | 'u' :: r => do
    let (n, r) ← hex4? r
    if 0xD800 ≤ n && n < 0xDC00 then
      match r with
      | '\\' :: 'u' :: r => do
        let (m, r) ← hex4? r
        if 0xDC00 ≤ m && m < 0xE000 then
          some (Char.ofNat (0x10000 + (n - 0xD800) * 0x400 + (m - 0xDC00)), r)
        else none
      | _ => none
    else if 0xDC00 ≤ n && n < 0xE000 then none
    else some (Char.ofNat n, r)
  | c :: r => if c = '\x22' || c = '\\' || c = '/' then some (c, r) else none
  | [] => none

/-- The text up to the closing quote, reversed onto `acc`. -/
def string? : Nat → List Char → List Char → Option (String × List Char)
  | 0, _, _ => none
  | _ + 1, _, [] => none
  | fuel + 1, acc, c :: r =>
    if c = '\x22' then some (String.ofList acc.reverse, r)
    else if c = '\\' then
      match unescape? r with
      | some (d, r) => string? fuel (d :: acc) r
      | none => none
    else if c.toNat < 0x20 then none
    else string? fuel (c :: acc) r

def digits (cs : List Char) : List Char × List Char :=
  (cs.takeWhile Text.isDigit, cs.dropWhile Text.isDigit)

/-- The exponent part, if there is one. -/
def exponent? : List Char → Option (Option Int × List Char)
  | e :: r =>
    if e = 'e' || e = 'E' then
      let (sign, r) := match r with
        | '-' :: r => ((-1 : Int), r)
        | '+' :: r => (1, r)
        | r => (1, r)
      let (ds, r) := digits r
      (Text.natural? 10 ds).map fun n => (some (sign * n), r)
    else some (none, e :: r)
  | [] => some (none, [])

def number? (cs : List Char) : Option (Json × List Char) := do
  let (negative, cs) := match cs with
    | '-' :: r => (true, r)
    | r => (false, r)
  let (whole, cs) := digits cs
  if whole.length > 1 && whole.head? == some '0' then none
  let n ← Text.natural? 10 whole
  let (fraction, cs) ← match cs with
    | '.' :: r =>
      let (ds, r) := digits r
      if ds.isEmpty then none else some (some ds, r)
    | r => some (none, r)
  let (e, cs) ← exponent? cs
  match fraction, e with
  | none, none =>
    let i : Int := if negative then -n else n
    if negative && n == 0 then some (.float (.ofDecimal true 0 0), cs)
    else if Text.inInt64 i || Text.inUInt64 i then some (.int i, cs)
    else some (.float (.ofDecimal negative n 0), cs)
  | f, e =>
    let ds := f.getD []
    let m ← Text.natural? 10 (whole ++ ds)
    some (.float (.ofDecimal negative m (e.getD 0 - ds.length)), cs)

mutual

/-- One value; `fuel` bounds the number of characters. -/
def value? : Nat → List Char → Option (Json × List Char)
  | 0, _ => none
  | fuel + 1, cs =>
    match skip cs with
    | 'n' :: 'u' :: 'l' :: 'l' :: r => some (.null, r)
    | 't' :: 'r' :: 'u' :: 'e' :: r => some (.bool true, r)
    | 'f' :: 'a' :: 'l' :: 's' :: 'e' :: r => some (.bool false, r)
    | '[' :: r =>
      match skip r with
      | ']' :: r => some (.arr [], r)
      | r => items? fuel [] r
    | c :: r =>
      if c = '\x22' then (string? (r.length + 1) [] r).map fun (s, r) => (.str s, r)
      else if c = '\x7b' then
        match skip r with
        | '\x7d' :: r => some (.obj [], r)
        | r => fields? fuel [] r
      else number? (c :: r)
    | [] => none

def items? : Nat → List Json → List Char → Option (Json × List Char)
  | 0, _, _ => none
  | fuel + 1, acc, cs =>
    match value? fuel cs with
    | none => none
    | some (j, r) =>
      match skip r with
      | ',' :: r => items? fuel (j :: acc) r
      | ']' :: r => some (.arr (j :: acc).reverse, r)
      | _ => none

def fields? : Nat → List (String × Json) → List Char → Option (Json × List Char)
  | 0, _, _ => none
  | fuel + 1, acc, cs =>
    match skip cs with
    | '\x22' :: r =>
      match string? (r.length + 1) [] r with
      | none => none
      | some (k, r) =>
        match skip r with
        | ':' :: r =>
          match value? fuel r with
          | none => none
          | some (j, r) =>
            let acc := Entries.put k j acc
            match skip r with
            | ',' :: r => fields? fuel acc r
            | '\x7d' :: r => some (.obj acc, r)
            | _ => none
        | _ => none
    | _ => none

end

def read? (s : String) : Option Json :=
  let cs := s.toList
  match value? (cs.length + 1) cs with
  | some (j, r) => if (skip r).isEmpty then some j else none
  | none => none

end Blueprint.Json
