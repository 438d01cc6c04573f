import Blueprint.Regex.Pattern
import Blueprint.Text.Blank
import Blueprint.Text.Cut
import Blueprint.Unicode.Property

/-!
# Reading patterns

`Pattern.read?` takes the text of a pattern. There is no look-around and no back-reference, braces
always count, and blanks inside them are skipped.
-/

namespace Blueprint.Regex

/-- What is left to read, whether blanks and comments are skipped, and the group names so far. -/
structure Cursor where
  rest : List Char
  verbose : Bool := false
  names : List String := []

namespace Cursor

def skipChars : Nat → List Char → List Char
  | 0, cs => cs
  | _ + 1, [] => []
  | fuel + 1, c :: cs =>
    if Text.isBlank c then skipChars fuel cs
    else if c = '#' then skipChars fuel ((cs.dropWhile (· != '\n')).drop 1)
    else c :: cs

/-- Drops blanks and comments where they do not count. -/
def skip (c : Cursor) : Cursor :=
  if c.verbose then { c with rest := skipChars (c.rest.length + 1) c.rest } else c

def next (c : Cursor) : Cursor := { c with rest := c.rest.tail }

def nextSkip (c : Cursor) : Cursor := c.next.skip

def head? (c : Cursor) : Option Char := c.rest.head?

def peek? (c : Cursor) : Option Char := c.rest.tail.head?

def peekFrom (comment : Bool) : List Char → Option Char
  | [] => none
  | c :: cs =>
    if Text.isBlank c then peekFrom comment cs
    else if !comment && c == '#' then peekFrom true cs
    else some c

/-- The character after this one and any blanks that do not count. -/
def peekSkip? (c : Cursor) : Option Char :=
  if c.verbose then peekFrom false c.rest.tail else c.peek?

def dropText (s : String) (c : Cursor) : Option Cursor :=
  let cs := s.toList
  if cs.isPrefixOf c.rest then some { c with rest := c.rest.drop cs.length } else none

end Cursor

/-! ### Escapes -/

inductive Primitive where
  | literal (l : Literal)
  | assertion (a : Assertion)
  | property (p : PropertyName) (negated : Bool)
  | perl (c : PerlClass) (negated : Bool)

def isMeta (c : Char) : Bool := "\\.+*?()|[]\x7b\x7d^$#&-~".toList.contains c

def isEscapable (c : Char) : Bool :=
  isMeta c ||
    (c.toNat < 0x80 && !Text.isLetter c && !Text.isDigit c && c != '<' && c != '>')

def isHex (c : Char) : Bool :=
  Text.isDigit c || ('a' ≤ c && c ≤ 'f') || ('A' ≤ c && c ≤ 'F')

def charOf? (n : Nat) : Option Char := if n.isValidChar then some (Char.ofNat n) else none

def braced? : Nat → Cursor → List Char → Option (List Char × Cursor)
  | 0, _, _ => none
  | fuel + 1, c, acc =>
    match c.rest with
    | [] => none
    | d :: _ => if d = '\x7d' then some (acc.reverse, c) else braced? fuel c.nextSkip (d :: acc)

def hexDigits? : Nat → Cursor → List Char → Option (List Char × Cursor)
  | 0, c, acc => some (acc.reverse, c)
  | n + 1, c, acc =>
    match c.rest with
    | [] => none
    | d :: _ => if isHex d then hexDigits? n c.nextSkip (d :: acc) else none

def hex? (width : Nat) (c : Cursor) : Option (Primitive × Cursor) := do
  let c := c.nextSkip
  if c.head? == some '\x7b' then
    let c := c.nextSkip
    let (ds, c) ← braced? (c.rest.length + 1) c []
    if !ds.all isHex then none
    let char ← charOf? (← Text.natural? 16 ds)
    some (.literal ⟨char, false⟩, c.nextSkip)
  else
    let (ds, c) ← hexDigits? width c []
    let char ← charOf? (← Text.natural? 16 ds)
    some (.literal ⟨char, width == 2⟩, c)

def propertyName (name : List Char) : PropertyName :=
  match Text.cut? ['!', '='] name with
  | some (n, v) => .valued (String.ofList n) (String.ofList v) false
  | none =>
    match Text.cut? [':'] name with
    | some (n, v) => .valued (String.ofList n) (String.ofList v) true
    | none =>
      match Text.cut? ['='] name with
      | some (n, v) => .valued (String.ofList n) (String.ofList v) true
      | none => .named (String.ofList name)

def property? (negated : Bool) (c : Cursor) : Option (Primitive × Cursor) :=
  let c := c.nextSkip
  match c.rest with
  | [] => none
  | d :: _ =>
    if d = '\x7b' then do
      let c := c.nextSkip
      let (name, c) ← braced? (c.rest.length + 1) c []
      return (.property (propertyName name) negated, c.next)
    else if d = '\\' then none
    else some (.property (.letter d) negated, c.nextSkip)

def isBoundaryLetter (c : Char) : Bool := Text.isLetter c || c == '-'

def boundaryName : Nat → Cursor → List Char → List Char × Cursor
  | 0, c, acc => (acc.reverse, c)
  | fuel + 1, c, acc =>
    match c.rest with
    | d :: _ =>
      if isBoundaryLetter d then boundaryName fuel c.nextSkip (d :: acc) else (acc.reverse, c)
    | [] => (acc.reverse, c)

/-- A word boundary after its letter, with its kind in braces if that is no count. -/
def boundary? (c : Cursor) : Option (Primitive × Cursor) :=
  if c.head? != some '\x7b' then some (.assertion .wordBoundary, c)
  else
    let inner := c.nextSkip
    match inner.rest with
    | [] => none
    | d :: _ =>
      if !isBoundaryLetter d then some (.assertion .wordBoundary, c)
      else
        let (name, after) := boundaryName (inner.rest.length + 1) inner []
        if after.head? != some '\x7d' then none
        else
          let kind? : Option Assertion :=
            match String.ofList name with
            | "start" => some .wordStart
            | "end" => some .wordEnd
            | "start-half" => some .wordStartHalf
            | "end-half" => some .wordEndHalf
            | _ => none
          kind?.map fun k => (.assertion k, after.next)

def escape? (c : Cursor) : Option (Primitive × Cursor) :=
  match c.rest with
  | [] => none
  | d :: _ =>
    let literal := fun n => some (Primitive.literal ⟨Char.ofNat n, false⟩, c.next)
    if Text.isDigit d then none
    else if isEscapable d then some (.literal ⟨d, false⟩, c.next)
    else match d with
      | 'x' => hex? 2 c
      | 'u' => hex? 4 c
      | 'U' => hex? 8 c
      | 'p' => property? false c
      | 'P' => property? true c
      | 'd' => some (.perl .digit false, c.next)
      | 'D' => some (.perl .digit true, c.next)
      | 's' => some (.perl .space false, c.next)
      | 'S' => some (.perl .space true, c.next)
      | 'w' => some (.perl .word false, c.next)
      | 'W' => some (.perl .word true, c.next)
      | 'a' => literal 7
      | 'f' => literal 12
      | 't' => literal 9
      | 'n' => literal 10
      | 'r' => literal 13
      | 'v' => literal 11
      | 'A' => some (.assertion .startText, c.next)
      | 'z' => some (.assertion .endText, c.next)
      | 'b' => boundary? c.next
      | 'B' => some (.assertion .notWordBoundary, c.next)
      | '<' => some (.assertion .wordStart, c.next)
      | '>' => some (.assertion .wordEnd, c.next)
      | _ => none

/-! ### Bracketed classes -/

def asciiClassOf? : String → Option AsciiClass
  | "alnum" => some .alnum
  | "alpha" => some .alpha
  | "ascii" => some .ascii
  | "blank" => some .blank
  | "cntrl" => some .cntrl
  | "digit" => some .digit
  | "graph" => some .graph
  | "lower" => some .lower
  | "print" => some .print
  | "punct" => some .punct
  | "space" => some .space
  | "upper" => some .upper
  | "word" => some .word
  | "xdigit" => some .xdigit
  | _ => none

/-- A bracket name such as `[:alpha:]`, from its opening bracket on. -/
def asciiClass? (c : Cursor) : Option (ClassItem × Cursor) :=
  match c.rest with
  | '[' :: ':' :: r =>
    let (negated, r) := match r with
      | '^' :: r => (true, r)
      | r => (false, r)
    let name := r.takeWhile (· != ':')
    match r.drop name.length with
    | ':' :: ']' :: r =>
      (asciiClassOf? (String.ofList name)).map fun k => (.ascii k negated, { c with rest := r })
    | _ => none
  | _ => none

def classPrimitive? (c : Cursor) : Option (Primitive × Cursor) :=
  match c.rest with
  | [] => none
  | '\\' :: _ => escape? c.next
  | d :: _ => some (.literal ⟨d, false⟩, c.next)

def Primitive.item? : Primitive → Option ClassItem
  | .literal l => some (.literal l)
  | .property p n => some (.property p n)
  | .perl k n => some (.perl k n)
  | _ => none

def Primitive.literal? : Primitive → Option Literal
  | .literal l => some l
  | _ => none

/-- One item of a class: a single one, or a range whose ends are in order. -/
def classRange? (c : Cursor) : Option (ClassItem × Cursor) := do
  let (first, c) ← classPrimitive? c
  let c := c.skip
  if c.rest.isEmpty then none
  else if c.head? != some '-' || c.peekSkip? == some ']' || c.peekSkip? == some '-' then
    return (← first.item?, c)
  else
    let (last, c) ← classPrimitive? c.nextSkip
    let first ← first.literal?
    let last ← last.literal?
    if first.char.toNat ≤ last.char.toNat then some (.range first last, c) else none

/-- Hyphens that open a class stand for themselves. -/
def leadingHyphens : Nat → Cursor → List ClassItem → List ClassItem × Cursor
  | 0, c, acc => (acc, c)
  | fuel + 1, c, acc =>
    if c.head? == some '-' then
      leadingHyphens fuel c.nextSkip (.literal ⟨'-', false⟩ :: acc)
    else (acc, c)

def combine : Option (SetOp × ClassSet) → List ClassItem → ClassSet
  | none, items => .item (.ofItems items.reverse)
  | some (o, left), items => .op o left (.item (.ofItems items.reverse))

def setOp? (c : Cursor) : Option SetOp :=
  match c.rest with
  | '&' :: '&' :: _ => some .intersection
  | '-' :: '-' :: _ => some .difference
  | '~' :: '~' :: _ => some .symmetricDifference
  | _ => none

mutual

def bracket? : Nat → Cursor → Option ((Bool × ClassSet) × Cursor)
  | 0, _ => none
  | fuel + 1, c => do
    let c := c.skip
    let negated := c.head? == some '^'
    let c := if negated then c.nextSkip else c
    let (items, c) := leadingHyphens (c.rest.length + 1) c []
    let (items, c) :=
      if items.isEmpty && c.head? == some ']' then ([ClassItem.literal ⟨']', false⟩], c.nextSkip)
      else (items, c)
    let (set, c) ← classItems? fuel c none items
    return ((negated, set), c)

/-- The items of a class, reversed onto `items`, up to its closing bracket. -/
def classItems? :
    Nat → Cursor → Option (SetOp × ClassSet) → List ClassItem → Option (ClassSet × Cursor)
  | 0, _, _, _ => none
  | fuel + 1, c, pending, items =>
    let c := c.skip
    match setOp? c with
    | some o => classItems? fuel c.next.next (some (o, combine pending items)) []
    | none =>
      match c.rest with
      | [] => none
      | '[' :: _ =>
        match asciiClass? c with
        | some (i, c) => classItems? fuel c pending (i :: items)
        | none => do
          let ((negated, set), c) ← bracket? fuel c.next
          classItems? fuel c pending (.bracketed negated set :: items)
      | ']' :: _ => some (combine pending items, c.next)
      | _ => do
        let (i, c) ← classRange? c
        classItems? fuel c pending (i :: items)

end

/-! ### Repetitions -/

def digitRun : Nat → Cursor → List Char → List Char × Cursor
  | 0, c, acc => (acc.reverse, c)
  | fuel + 1, c, acc =>
    match c.rest with
    | d :: _ => if Text.isDigit d then digitRun fuel c.nextSkip (d :: acc) else (acc.reverse, c)
    | [] => (acc.reverse, c)

def count? (c : Cursor) : Option (Nat × Cursor) := do
  let c := { c with rest := Text.dropBlanks c.rest }
  let (ds, c) := digitRun (c.rest.length + 1) c []
  let n ← Text.natural? 10 ds
  if n < Nat.pow 2 32 then some (n, { c with rest := Text.dropBlanks c.rest }.skip) else none

def counts? (c : Cursor) : Option ((Nat × Option Nat) × Cursor) := do
  let (low, c) ← count? c.skip
  match c.rest with
  | ',' :: _ =>
    let c := c.nextSkip
    if c.head? == some '\x7d' then return ((low, none), c.nextSkip)
    else
      let (high, c) ← count? c
      if c.head? == some '\x7d' && low ≤ high then return ((low, some high), c.nextSkip) else none
  | '\x7d' :: _ => return ((low, some low), c.nextSkip)
  | _ => none

/-- A repetition from its operator on; a question mark after it changes no match. -/
def repetition? (c : Cursor) : Option ((Nat × Option Nat) × Cursor) := do
  let (bounds, c) ←
    match c.rest with
    | '?' :: _ => some ((0, some 1), c.next)
    | '*' :: _ => some ((0, none), c.next)
    | '+' :: _ => some ((1, none), c.next)
    | '\x7b' :: _ => counts? c.next
    | _ => none
  return (bounds, if c.head? == some '?' then c.next else c)

def isRepetition (c : Char) : Bool := c == '?' || c == '*' || c == '+' || c == '\x7b'

/-- Applies a repetition to the last part; a flag group is none. -/
def repeatLast? (bounds : Nat × Option Nat) : List Pattern → Option (List Pattern)
  | [] => none
  | .flags _ :: _ => none
  | s :: ss => some (.repeated bounds.1 bounds.2 s :: ss)

/-! ### Groups -/

def flagOf? : Char → Option Flag
  | 'i' => some .ignoreCase
  | 'm' => some .multiLine
  | 's' => some .dotAll
  | 'U' => some .swapGreed
  | 'u' => some .unicode
  | 'R' => some .crlf
  | 'x' => some .verbose
  | _ => none

/-- Flags up to a colon or a closing parenthesis, none of them twice and none missing at the end. -/
def flagItems? : List Char → List FlagItem → Option (List FlagItem × List Char)
  | [], _ => none
  | c :: cs, items =>
    if c = ':' || c = ')' then
      if items.getLast? == some .negation then none else some (items, c :: cs)
    else
      let item? := if c = '-' then some .negation else (flagOf? c).map .flag
      match item? with
      | some i => if items.contains i then none else flagItems? cs (items ++ [i])
      | none => none

def isNameStart (c : Char) : Bool := c == '_' || (Unicode.Property.named "alphabetic").contains c

def isNameChar (c : Char) : Bool :=
  c == '_' || c == '.' || c == '[' || c == ']' || Unicode.Property.alphanumeric.contains c

def groupName? (c : Cursor) : Option Cursor :=
  let name := c.rest.takeWhile (· != '>')
  match name, c.rest.drop name.length with
  | d :: ds, _ :: r =>
    let text := String.ofList name
    if isNameStart d && ds.all isNameChar && !c.names.contains text then
      some { c with rest := r, names := text :: c.names }
    else none
  | _, _ => none

inductive GroupHead where
  | setFlags (items : List FlagItem)
  | opened (items : List FlagItem) (capture : Bool)

def groupHead? (c : Cursor) : Option (GroupHead × Cursor) :=
  let c := c.skip
  if ["?=", "?!", "?<=", "?<!"].any fun s => (c.dropText s).isSome then none
  else
    match (c.dropText "?P<").orElse fun _ => c.dropText "?<" with
    | some c => (groupName? c).map fun c => (.opened [] true, c)
    | none =>
      match c.dropText "?" with
      | some c =>
        match flagItems? c.rest [] with
        | some (items, ')' :: r) =>
          if items.isEmpty then none else some (.setFlags items, { c with rest := r })
        | some (items, _ :: r) => some (.opened items false, { c with rest := r })
        | _ => none
      | none => some (.opened [] true, c)

/-! ### Patterns -/

def primitive? (c : Cursor) : Option (Pattern × Cursor) :=
  match c.rest with
  | [] => none
  | '\\' :: _ => (escape? c.next).map fun (p, c) =>
    match p with
    | .literal l => (.literal l, c)
    | .assertion a => (.assertion a, c)
    | .property p n => (.property p n, c)
    | .perl k n => (.perl k n, c)
  | '.' :: _ => some (.dot, c.next)
  | '^' :: _ => some (.assertion .startLine, c.next)
  | '$' :: _ => some (.assertion .endLine, c.next)
  | d :: _ => some (.literal ⟨d, false⟩, c.next)

/-- Reads up to the end, or inside a group up to its closing parenthesis. `branches` and `parts`
are what came before, last first. -/
def pattern? (nested : Bool) :
    Nat → Cursor → List Pattern → List Pattern → Option (Pattern × Cursor)
  | 0, _, _, _ => none
  | fuel + 1, c, branches, parts =>
    let c := c.skip
    let done := fun (_ : Unit) =>
      Pattern.ofBranches (Pattern.ofParts parts.reverse :: branches).reverse
    match c.rest with
    | [] => if nested then none else some (done (), c)
    | ')' :: _ => if nested then some (done (), c.next) else none
    | '|' :: _ => pattern? nested fuel c.next (Pattern.ofParts parts.reverse :: branches) []
    | '[' :: _ => do
      let ((negated, set), c) ← bracket? (2 * c.rest.length + 2) c.next
      pattern? nested fuel c branches (.bracketed negated set :: parts)
    | '(' :: _ => do
      let (head, c) ← groupHead? c.next
      match head with
      | .setFlags items =>
        let verbose := (flagState? items .verbose).getD c.verbose
        pattern? nested fuel { c with verbose } branches (.flags items :: parts)
      | .opened items capture =>
        let verbose := (flagState? items .verbose).getD c.verbose
        let (s, after) ← pattern? true fuel { c with verbose } [] []
        pattern? nested fuel { after with verbose := c.verbose } branches
          (.group items capture s :: parts)
    | d :: _ =>
      if isRepetition d then do
        let (bounds, c) ← repetition? c
        pattern? nested fuel c branches (← repeatLast? bounds parts)
      else do
        let (s, c) ← primitive? c
        pattern? nested fuel c branches (s :: parts)

def depthLimit : Nat := 250

def Pattern.read? (s : String) : Option Pattern := do
  let cs := s.toList
  let (p, _) ← pattern? false (cs.length + 1) ⟨cs, false, []⟩ [] []
  if p.depth ≤ depthLimit then some p else none

end Blueprint.Regex
