import Blueprint.Toml.Scalar

/-!
# Reading TOML

`Toml.read?` takes a document: assignments and headers, one a line, with blanks and comments
between them.
-/

namespace Blueprint.Toml

/-! ### Blanks and comments -/

def comment (cs : List Char) : List Char :=
  if cs.head? = some '#' then cs.tail.dropWhile isLineChar else cs

/-- Passes the end of a line on which nothing but a comment may stand. -/
def endLine? (cs : List Char) : Option (List Char) :=
  match comment (skipBlanks cs) with
  | [] => some []
  | cs => newline? cs

/-- Passes blanks, breaks and comments. A comment must end with its line. -/
def skipLines : Nat → List Char → List Char
  | 0, cs => cs
  | fuel + 1, cs =>
    let cs := skipBlanks cs
    match newline? (comment cs) with
    | some r => skipLines fuel r
    | none => cs

/-! ### Keys -/

def isBare (c : Char) : Bool := Text.isLetter c || Text.isDigit c || c == '-' || c == '_'

def simpleKey? (cs : List Char) : Option (String × List Char) :=
  match lineString? cs with
  | some r => some r
  | none =>
    let name := cs.takeWhile isBare
    if name.isEmpty then none else some (String.ofList name, cs.dropWhile isBare)

/-- A key of one or more parts with points between them, and the blanks around it. -/
def key? : Nat → List Char → Option (List String × String × List Char)
  | 0, _ => none
  | fuel + 1, cs => do
    let (part, cs) ← simpleKey? (skipBlanks cs)
    match skipBlanks cs with
    | '.' :: r =>
      let (path, last, r) ← key? fuel r
      return (part :: path, last, r)
    | cs => return ([], part, cs)

/-! ### Values -/

mutual

def value? : Nat → List Char → Option (Toml × List Char)
  | 0, _ => none
  | fuel + 1, cs =>
    match cs with
    | '[' :: r => items? fuel [] (skipLines (r.length + 1) r)
    | '\x7b' :: r => inline? fuel [] (skipBlanks r)
    | 't' :: 'r' :: 'u' :: 'e' :: r => some (.flag true, r)
    | 'f' :: 'a' :: 'l' :: 's' :: 'e' :: r => some (.flag false, r)
    | cs => ((string? cs).map fun (s, r) => (.text s, r)) <|> number? cs

/-- The items of an array up to its bracket; a comma may follow the last one. -/
def items? : Nat → List Toml → List Char → Option (Toml × List Char)
  | 0, _, _ => none
  | fuel + 1, acc, cs =>
    match cs with
    | ']' :: r => some (.array acc.reverse, r)
    | cs =>
      match value? fuel cs with
      | none => none
      | some (v, cs) =>
        match skipLines (cs.length + 1) cs with
        | ',' :: r => items? fuel (v :: acc) (skipLines (r.length + 1) r)
        | ']' :: r => some (.array (v :: acc).reverse, r)
        | _ => none

def inline? : Nat → List Assignment → List Char → Option (Toml × List Char)
  | 0, _, _ => none
  | fuel + 1, acc, cs =>
    match cs with
    | '\x7d' :: r => if acc.isEmpty then some (.table .inline [], r) else none
    | cs =>
      match assignment? fuel cs with
      | none => none
      | some (a, cs) =>
        match skipBlanks cs with
        | ',' :: r => inline? fuel (a :: acc) (skipBlanks r)
        | '\x7d' :: r => (ofAssignments? (a :: acc).reverse).map fun t => (t, r)
        | _ => none

def assignment? : Nat → List Char → Option (Assignment × List Char)
  | 0, _ => none
  | fuel + 1, cs =>
    match key? (cs.length + 1) cs with
    | some (path, key, '=' :: r) =>
      (value? fuel (skipBlanks r)).map fun (v, r) => (⟨path, key, v⟩, r)
    | _ => none

end

/-! ### Lines -/

/-- What a line says. -/
inductive Line where
  | assignment (a : Assignment)
  | header (path : List String) (key : String) (repeated : Bool)

def header? (cs : List Char) : Option (Line × List Char) :=
  match cs with
  | '[' :: '[' :: r => do
    match ← key? (r.length + 1) r with
    | (path, key, ']' :: ']' :: r) => return (.header path key true, r)
    | _ => none
  | '[' :: r => do
    match ← key? (r.length + 1) r with
    | (path, key, ']' :: r) => return (.header path key false, r)
    | _ => none
  | _ => none

def documentLines? : Nat → List Char → Option (List Line)
  | 0, _ => none
  | fuel + 1, cs =>
    match skipBlanks cs with
    | [] => some []
    | c :: r =>
      if c = '#' || c = '\n' || c = '\r' then do documentLines? fuel (← endLine? (c :: r))
      else do
        let (l, rest) ←
          if c = '[' then header? (c :: r)
          else (assignment? (r.length + 3) (c :: r)).map fun (a, rest) => (.assignment a, rest)
        return l :: (← documentLines? fuel (← endLine? rest))

/-- The assignments before the first header, and each header with those below it. -/
def blocks : List Line → List Assignment × List Block
  | [] => ([], [])
  | .assignment a :: ls =>
    let (as, bs) := blocks ls
    (a :: as, bs)
  | .header path key repeated :: ls =>
    let (as, bs) := blocks ls
    ([], ⟨path, key, repeated, as⟩ :: bs)

/-- The entries of a document; a byte order mark before it is dropped. -/
def read? (s : String) : Option Entries := do
  let cs := s.toList
  let cs := if cs.head?.any (·.toNat = 0xFEFF) then cs.tail else cs
  let (as, bs) := blocks (← documentLines? (cs.length + 1) cs)
  ofBlocks? as bs

end Blueprint.Toml
