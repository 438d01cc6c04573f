import Blueprint.Yaml.Token.Cursor

/-!
# Scalar texts

The text of plain, quoted and block scalars. A single line break inside a scalar becomes a blank,
further ones stay; in literal blocks all stay.
-/

namespace Blueprint.Yaml

/-- Blanks and breaks between the words of a scalar. -/
structure Gap where
  blanks : List Char := []
  first : List Char := []
  more : List Char := []
  /-- A line has ended. -/
  folded : Bool := false

def Gap.text (g : Gap) : List Char :=
  if !g.folded then g.blanks
  else if g.first == ['\n'] then if g.more.isEmpty then [' '] else g.more
  else g.first ++ g.more

/-- Takes blanks and breaks. With an indentation, no tab may stand before it on a new line. -/
def gap? (indent : Option Int) : Nat → Cursor → Gap → Option (Gap × Cursor)
  | 0, _, _ => none
  | fuel + 1, c, g =>
    match c.head? with
    | none => some (g, c)
    | some d =>
      if isBlank d then
        if d == '\t' && g.folded && indent.any (fun i => (c.column : Int) < i) then none
        else
          gap? indent fuel (c.skip 1)
            (if g.folded then g else { g with blanks := g.blanks ++ [d] })
      else if isBreak d then
        let (b, c) := c.readBreak
        gap? indent fuel c
          (if g.folded then { g with more := g.more ++ b }
          else { g with blanks := [], first := b, folded := true })
      else some (g, c)

/-! ### Plain scalars -/

def isFlowMark (c : Char) : Bool :=
  c == ',' || c == '[' || c == ']' || c == '\x7b' || c == '\x7d'

/-- Takes the characters up to a blank or a mark that ends the scalar. In a flow collection a colon
must not stand right before a mark. -/
def plainRun? (flow : Bool) : List Char → List Char → Option (List Char)
  | [], acc => some acc.reverse
  | d :: r, acc =>
    if isBlank d || isBreak d then some acc.reverse
    else if flow && d == ':' && r.head?.any (fun e => isFlowMark e || e == '?') then none
    else if d == ':' && r.head?.all (fun e => isBlank e || isBreak e) then some acc.reverse
    else if flow && isFlowMark d then some acc.reverse
    else plainRun? flow r (d :: acc)

/-- A plain scalar; `pending` comes in before its next character, and `folded` tells that a line
has ended since the last one. -/
def plain? (flow : Bool) (indent : Int) :
    Nat → Cursor → List Char → List Char → Bool → Option (List Char × Bool × Cursor)
  | 0, _, _, _, _ => none
  | fuel + 1, c, acc, pending, folded =>
    if c.onDocumentEdge || c.headIs '#' then some (acc, folded, c)
    else
      match plainRun? flow c.rest [] with
      | none => none
      | some run =>
        let c := c.skip run.length
        let acc := if run.isEmpty then acc else acc ++ pending ++ run
        let folded := folded && run.isEmpty
        if !(c.onBlank || c.onBreak) then some (acc, folded, c)
        else
          match gap? (some indent) fuel c {} with
          | none => none
          | some (g, c) =>
            if !flow && (c.column : Int) < indent then some (acc, g.folded, c)
            else plain? flow indent fuel c acc g.text g.folded

/-! ### Quoted scalars -/

def hexValue? (n : Nat) (cs : List Char) : Option Nat :=
  if (cs.take n).length = n then Text.natural? 16 (cs.take n) else none

/-- An escape after its backslash: the character and how many characters it takes. -/
def escape? : List Char → Option (Char × Nat)
  | [] => none
  | d :: r =>
    let coded := fun n => do
      let v ← hexValue? n r
      if v.isValidChar then some (Char.ofNat v, n + 1) else none
    match d with
    | '0' => some ('\x00', 1)
    | 'a' => some ('\x07', 1)
    | 'b' => some ('\x08', 1)
    | 't' => some ('\t', 1)
    | '\t' => some ('\t', 1)
    | 'n' => some ('\n', 1)
    | 'v' => some ('\x0b', 1)
    | 'f' => some ('\x0c', 1)
    | 'r' => some ('\r', 1)
    | 'e' => some ('\x1b', 1)
    | ' ' => some (' ', 1)
    | '\x22' => some ('\x22', 1)
    | '/' => some ('/', 1)
    | '\\' => some ('\\', 1)
    | 'N' => some ('\u0085', 1)
    | '_' => some ('\u00a0', 1)
    | 'L' => some ('\u2028', 1)
    | 'P' => some ('\u2029', 1)
    | 'x' => coded 2
    | 'u' => coded 4
    | 'U' => coded 8
    | _ => none

/-- Takes the characters up to a blank or the quote, reversed onto `acc`. The flag tells that an
escaped break ended them. -/
def quotedRun? (single : Bool) : Nat → Cursor → List Char → Option (List Char × Bool × Cursor)
  | 0, _, _ => none
  | fuel + 1, c, acc =>
    let quote := if single then '\x27' else '\x22'
    match c.rest with
    | [] => some (acc, false, c)
    | d :: r =>
      if isBlank d || isBreak d then some (acc, false, c)
      else if d == quote then
        if single && r.head? == some quote then quotedRun? single fuel (c.skip 2) (quote :: acc)
        else some (acc, false, c)
      else if !single && d == '\\' then
        if r.head?.any isBreak then some (acc, true, (c.skip 1).skipBreak)
        else
          match escape? r with
          | some (e, n) => quotedRun? single fuel (c.skip (n + 1)) (e :: acc)
          | none => none
      else quotedRun? single fuel (c.skip 1) (d :: acc)

def quoted? (single : Bool) : Nat → Cursor → List Char → Option (List Char × Cursor)
  | 0, _, _ => none
  | fuel + 1, c, acc =>
    if c.onDocumentEdge || c.atEnd then none
    else
      match quotedRun? single fuel c acc with
      | none => none
      | some (acc, escaped, c) =>
        if c.headIs (if single then '\x27' else '\x22') then some (acc.reverse, c.skip 1)
        else
          match gap? none fuel c { folded := escaped } with
          | none => none
          | some (g, c) => quoted? single fuel c (g.text.reverse ++ acc)

/-! ### Block scalars -/

inductive Chomping where
  | strip | clip | keep
  deriving DecidableEq, Repr

def chomping? : Char → Option Chomping
  | '+' => some .keep
  | '-' => some .strip
  | _ => none

def increment? (d : Char) : Option Nat :=
  if '1' ≤ d && d ≤ '9' then some (d.toNat - '0'.toNat) else none

/-- Chomping and indentation after the mark of a block scalar, in either order. -/
def blockHeader? (c : Cursor) : Option (Chomping × Option Nat × Cursor) :=
  let zero := fun (c : Cursor) => c.headIs '0'
  match c.head?.bind chomping? with
  | some k =>
    let c := c.skip 1
    match c.head?.bind increment? with
    | some n => some (k, some n, c.skip 1)
    | none => if zero c then none else some (k, none, c)
  | none =>
    match c.head?.bind increment? with
    | some n =>
      let c := c.skip 1
      match c.head?.bind chomping? with
      | some k => some (k, some n, c.skip 1)
      | none => some (.clip, some n, c)
    | none => if zero c then none else some (.clip, none, c)

/-- Takes empty lines and the indentation of the next one; without a known indentation also how far
the lines are indented. -/
def blockBreaks? (indent : Option Nat) :
    Nat → Cursor → List Char → Nat → Option (List Char × Nat × Cursor)
  | 0, _, _, _ => none
  | fuel + 1, c, breaks, widest =>
    let lead := match indent with
      | none => c.rest
      | some n => c.rest.take (n - c.column)
    let spaces := lead.takeWhile (· == ' ')
    let c := c.skip spaces.length
    let widest := max widest c.column
    if indent.all (fun n => c.column < n) && c.headIs '\t' then none
    else if c.onBreak then
      let (b, c) := c.readBreak
      blockBreaks? indent fuel c (breaks ++ b) widest
    else some (breaks, widest, c)

/-- The lines of a block scalar. `leading` is the last break, `trailing` the empty lines after it,
and `blank` tells that the last line began with a blank. -/
def blockLines? (literal : Bool) (indent : Nat) :
    Nat → Cursor → List Char → List Char → List Char → Bool →
      Option (List Char × List Char × List Char × Cursor)
  | 0, _, _, _, _, _ => none
  | fuel + 1, c, acc, leading, trailing, blank =>
    if c.column != indent || c.atEnd then some (acc, leading, trailing, c)
    else
      let blankNow := c.onBlank
      let joint :=
        if !literal && leading == ['\n'] && !blank && !blankNow then
          if trailing.isEmpty then [' '] else []
        else leading
      let (line, c) := c.takeWhile (!isBreak ·)
      let acc := acc ++ joint ++ trailing ++ line
      let (leading, c) := c.readBreak
      match blockBreaks? (some indent) fuel c [] 0 with
      | none => none
      | some (trailing, _, c) => blockLines? literal indent fuel c acc leading trailing blankNow

/-- A block scalar after its mark, in a block that is indented by `parent`. -/
def block? (literal : Bool) (parent : Int) (fuel : Nat) (c : Cursor) :
    Option (List Char × Cursor) := do
  let (chomp, increment, c) ← blockHeader? c
  let c ← c.endLine?
  let known := increment.map fun n => (if 0 ≤ parent then parent.toNat else 0) + n
  let (trailing, widest, c) ← blockBreaks? known fuel c [] 0
  let indent := known.getD (max widest (max (parent + 1).toNat 1))
  let (acc, leading, trailing, c) ←
    blockLines? literal indent fuel c [] [] trailing false
  let leading := if chomp = .strip then [] else leading
  let trailing := if chomp = .keep then trailing else []
  return (acc ++ leading ++ trailing, c)

end Blueprint.Yaml
