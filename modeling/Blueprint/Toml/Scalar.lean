import Blueprint.Calendar
import Blueprint.Toml.Table

/-!
# Reading TOML scalars

Strings in their four forms, whole numbers of 64 bits, and the shapes of floating-point numbers,
dates and times. Each reader takes what it reads from the front of a text.
-/

namespace Blueprint.Toml

def isBlank (c : Char) : Bool := c == ' ' || c == '\t'

def skipBlanks (cs : List Char) : List Char := cs.dropWhile isBlank

/-- Characters that may stand on a line: none of the controls but the tab. -/
def isLineChar (c : Char) : Bool := c == '\t' || (' ' ≤ c && c.toNat ≠ 0x7F)

def newline? : List Char → Option (List Char)
  | '\n' :: r => some r
  | '\r' :: '\n' :: r => some r
  | _ => none

/-! ### Strings -/

def charOf? (digits : List Char) : Option Char := do
  let n ← Text.natural? 16 digits
  if n.isValidChar then return Char.ofNat n else none

def escape? : List Char → Option (Char × List Char)
  | 'b' :: r => some ('\x08', r)
  | 't' :: r => some ('\t', r)
  | 'n' :: r => some ('\n', r)
  | 'f' :: r => some ('\x0c', r)
  | 'r' :: r => some ('\r', r)
  | '\x22' :: r => some ('\x22', r)
  | '\\' :: r => some ('\\', r)
  | 'u' :: r => if r.length < 4 then none else (charOf? (r.take 4)).map fun c => (c, r.drop 4)
  | 'U' :: r => if r.length < 8 then none else (charOf? (r.take 8)).map fun c => (c, r.drop 8)
  | _ => none

def line? (quote : Char) : Nat → List Char → List Char → Option (String × List Char)
  | 0, _, _ => none
  | _ + 1, _, [] => none
  | fuel + 1, acc, c :: r =>
    if c = quote then some (String.ofList acc.reverse, r)
    else if c = '\\' && quote = '\x22' then
      match escape? r with
      | some (d, r) => line? quote fuel (d :: acc) r
      | none => none
    else if isLineChar c then line? quote fuel (c :: acc) r
    else none

/-- Passes the rest of a line that a backslash ends, and the blanks and breaks after it. -/
def joinLine? (cs : List Char) : Option (List Char) :=
  (newline? (skipBlanks cs)).map fun r => skipGap (r.length + 1) r
where
  skipGap : Nat → List Char → List Char
    | 0, cs => cs
    | fuel + 1, cs =>
      match cs with
      | [] => []
      | c :: r =>
        if isBlank c then skipGap fuel r
        else
          match newline? (c :: r) with
          | some r => skipGap fuel r
          | none => c :: r

/-- A string on several lines after its opening quotes; one or two quotes may stand inside it and
before the closing ones. -/
def lines? (quote : Char) : Nat → List Char → List Char → Option (String × List Char)
  | 0, _, _ => none
  | _ + 1, _, [] => none
  | fuel + 1, acc, c :: r =>
    if c = quote then
      let run := ((c :: r).takeWhile (· = quote)).length
      let rest := (c :: r).dropWhile (· = quote)
      if run < 3 then lines? quote fuel (List.replicate run quote ++ acc) rest
      else if run < 6 then
        some (String.ofList (List.replicate (run - 3) quote ++ acc).reverse, rest)
      else none
    else if c = '\\' && quote = '\x22' then
      match joinLine? r with
      | some r => lines? quote fuel acc r
      | none =>
        match escape? r with
        | some (d, r) => lines? quote fuel (d :: acc) r
        | none => none
    else
      match newline? (c :: r) with
      | some r => lines? quote fuel ('\n' :: acc) r
      | none => if isLineChar c then lines? quote fuel (c :: acc) r else none

def lineString? : List Char → Option (String × List Char)
  | '\x22' :: r => line? '\x22' (r.length + 1) [] r
  | '\x27' :: r => line? '\x27' (r.length + 1) [] r
  | _ => none

/-- A string; a line break right after three quotes does not count. -/
def string? (cs : List Char) : Option (String × List Char) :=
  let body := fun r => (newline? r).getD r
  match cs with
  | '\x22' :: '\x22' :: '\x22' :: r => lines? '\x22' (r.length + 2) [] (body r)
  | '\x27' :: '\x27' :: '\x27' :: r => lines? '\x27' (r.length + 2) [] (body r)
  | cs => lineString? cs

/-! ### Numbers -/

def digitRun? (isDigit : Char → Bool) (cs : List Char) : Option (List Char × List Char) :=
  match cs with
  | [] => none
  | c :: r => if isDigit c then some (more c r) else none
where
  more (c : Char) : List Char → List Char × List Char
    | '_' :: d :: r =>
      if isDigit d then
        let (ds, rest) := more d r
        (c :: ds, rest)
      else ([c], '_' :: d :: r)
    | d :: r =>
      if isDigit d then
        let (ds, rest) := more d r
        (c :: ds, rest)
      else ([c], d :: r)
    | [] => ([c], [])

def isRadixDigit (radix : Nat) (c : Char) : Bool := (Text.natural? radix [c]).isSome

/-- A whole number without a sign; no zero leads another digit. -/
def decimal? : List Char → Option (List Char × List Char)
  | '0' :: r => some (['0'], r)
  | cs => digitRun? Text.isDigit cs

def sign : List Char → Bool × List Char
  | '-' :: r => (true, r)
  | '+' :: r => (false, r)
  | cs => (false, cs)

def inRange? (i : Int) (rest : List Char) : Option (Toml × List Char) :=
  if Text.inInt64 i then some (.int i, rest) else none

def radixInteger? (radix : Nat) (cs : List Char) : Option (Toml × List Char) := do
  let (ds, rest) ← digitRun? (isRadixDigit radix) cs
  inRange? (← Text.natural? radix ds) rest

def integer? (cs : List Char) : Option (Toml × List Char) :=
  match cs with
  | '0' :: 'x' :: r => radixInteger? 16 r
  | '0' :: 'o' :: r => radixInteger? 8 r
  | '0' :: 'b' :: r => radixInteger? 2 r
  | cs => do
    let (negative, cs) := sign cs
    let (ds, rest) ← decimal? cs
    let n ← Text.natural? 10 ds
    inRange? (if negative then -n else n) rest

def exponent? : List Char → Option (List Char)
  | c :: r => do
    if c ≠ 'e' && c ≠ 'E' then none
    return (← digitRun? Text.isDigit (sign r).2).2
  | [] => none

/-- A decimal number with a fraction or an exponent, or one of the special ones. -/
def float? (cs : List Char) : Option (Toml × List Char) :=
  match (sign cs).2 with
  | 'i' :: 'n' :: 'f' :: r => some (.other, r)
  | 'n' :: 'a' :: 'n' :: r => some (.other, r)
  | cs => do
    let (_, rest) ← decimal? cs
    match rest with
    | '.' :: r =>
      let (_, rest) ← digitRun? Text.isDigit r
      return (.other, (exponent? rest).getD rest)
    | rest => return (.other, ← exponent? rest)

/-! ### Dates and times -/

def fixed? (width low high : Nat) (cs : List Char) : Option (Nat × List Char) := do
  let ds := cs.take width
  let n ← Text.natural? 10 ds
  if ds.length = width && low ≤ n && n ≤ high then return (n, cs.drop width) else none

def mark? (c : Char) (cs : List Char) : Option (List Char) :=
  if cs.head? = some c then some cs.tail else none

def date? (cs : List Char) : Option (List Char) := do
  let (year, cs) ← fixed? 4 0 9999 cs
  let (month, cs) ← fixed? 2 1 12 (← mark? '-' cs)
  let (_, cs) ← fixed? 2 1 (Calendar.daysIn month year) (← mark? '-' cs)
  return cs

def time? (cs : List Char) : Option (List Char) := do
  let (_, cs) ← fixed? 2 0 23 cs
  let (_, cs) ← fixed? 2 0 59 (← mark? ':' cs)
  let (_, cs) ← fixed? 2 0 60 (← mark? ':' cs)
  match cs with
  | '.' :: r => if r.head?.any Text.isDigit then return r.dropWhile Text.isDigit else return cs
  | cs => return cs

def offset (cs : List Char) : List Char :=
  match cs with
  | [] => []
  | c :: r =>
    if c = 'Z' || c = 'z' then r
    else if c = '+' || c = '-' then
      (do
        let (_, r) ← fixed? 2 0 23 r
        let (_, r) ← fixed? 2 0 59 (← mark? ':' r)
        return r).getD cs
    else cs

def moment? (cs : List Char) : Option (Toml × List Char) :=
  match date? cs with
  | none => (time? cs).map fun r => (.other, r)
  | some [] => some (.other, [])
  | some (c :: r) =>
    if c = 'T' || c = 't' || c = ' ' then
      match time? r with
      | some r => some (.other, offset r)
      | none => some (.other, c :: r)
    else some (.other, c :: r)

def number? (cs : List Char) : Option (Toml × List Char) :=
  moment? cs <|> float? cs <|> integer? cs

end Blueprint.Toml
