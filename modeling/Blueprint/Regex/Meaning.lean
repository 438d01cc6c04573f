import Blueprint.Regex.Basic
import Blueprint.Regex.Reader
import Blueprint.Unicode.CaseFold
import Blueprint.Unicode.Script

/-!
# What a pattern means

`meaning?` applies the flags of a pattern. A flag group holds up to the end of the group it
stands in. Without the Unicode flag, classes are of ASCII alone, and what could match part of a
character is refused. A pattern that grows beyond a fixed size is refused too.
-/

namespace Blueprint.Regex

open Unicode (CharSet)

structure Flags where
  ignoreCase : Bool := false
  multiLine : Bool := false
  dotAll : Bool := false
  unicode : Bool := true
  crlf : Bool := false

def Flags.apply (f : Flags) (items : List FlagItem) : Flags where
  ignoreCase := (flagState? items .ignoreCase).getD f.ignoreCase
  multiLine := (flagState? items .multiLine).getD f.multiLine
  dotAll := (flagState? items .dotAll).getD f.dotAll
  unicode := (flagState? items .unicode).getD f.unicode
  crlf := (flagState? items .crlf).getD f.crlf

/-- Adds the other case of each character if case is ignored. -/
def Flags.fold (f : Flags) (s : CharSet) : CharSet :=
  if !f.ignoreCase then s else if f.unicode then s.closeCase else s.closeAsciiCase

def Flags.foldAndNegate (f : Flags) (negated : Bool) (s : CharSet) : CharSet :=
  if negated then (f.fold s).complement else f.fold s

/-! ### Named classes -/

def asciiRanges : AsciiClass → List (Char × Char)
  | .alnum => [('0', '9'), ('A', 'Z'), ('a', 'z')]
  | .alpha => [('A', 'Z'), ('a', 'z')]
  | .ascii => [('\x00', '\x7f')]
  | .blank => [('\t', '\t'), (' ', ' ')]
  | .cntrl => [('\x00', '\x1f'), ('\x7f', '\x7f')]
  | .digit => [('0', '9')]
  | .graph => [('!', '~')]
  | .lower => [('a', 'z')]
  | .print => [(' ', '~')]
  | .punct => [('!', '/'), (':', '@'), ('[', '\x60'), ('\x7b', '~')]
  | .space => [('\t', '\r'), (' ', ' ')]
  | .upper => [('A', 'Z')]
  | .word => [('0', '9'), ('A', 'Z'), ('_', '_'), ('a', 'z')]
  | .xdigit => [('0', '9'), ('A', 'F'), ('a', 'f')]

def asciiSet (k : AsciiClass) : CharSet :=
  ⟨(asciiRanges k).map fun (a, b) => (a.toNat, b.toNat)⟩

def perlSet (unicode : Bool) : PerlClass → CharSet
  | .digit => if unicode then Unicode.Category.decimalDigits else asciiSet .digit
  | .space => if unicode then Unicode.Property.named "whitespace" else asciiSet .space
  | .word => if unicode then Unicode.Property.word else asciiSet .word

/-- Property names are compared in lower case, without blanks and marks, and without a leading
"is". -/
def looseName (s : String) : String :=
  let cs := (s.toList.filter fun c => c.toNat < 0x80 && c != ' ' && c != '_' && c != '-').map
    Char.toLower
  match cs with
  | 'i' :: 's' :: 'c' :: [] => "isc"
  | 'i' :: 's' :: r => String.ofList r
  | r => String.ofList r

/-- Two-letter names that mean a category although a property has the same short name. -/
def categoryFirst (name : String) : Bool := name == "cf" || name == "sc" || name == "lc"

def propertySet? : PropertyName → Option CharSet
  | .letter c => Unicode.Category.ofName? (looseName c.toString)
  | .named name =>
    let name := looseName name
    let property := if categoryFirst name then none else Unicode.Property.ofName? name
    property.orElse fun _ =>
      (Unicode.Category.ofName? name).orElse fun _ => Unicode.Script.ofName? name
  | .valued name value equal =>
    let value := looseName value
    let set :=
      match looseName name with
      | "gc" | "generalcategory" => Unicode.Category.ofName? value
      | "sc" | "script" => Unicode.Script.ofName? value
      | "scx" | "scriptextensions" => Unicode.Script.usedWith? value
      | _ => none
    if equal then set else set.map (·.complement)

/-! ### Classes -/

/-- Outside Unicode a literal of a class has to be ASCII. -/
def Flags.classLiteral? (f : Flags) (l : Literal) : Option Nat :=
  if f.unicode || l.char.toNat < 0x80 then some l.char.toNat else none

mutual

def itemSet? (f : Flags) : ClassItem → Option CharSet
  | .empty => some .empty
  | .literal l => do
    let n ← f.classLiteral? l
    return .range n n
  | .range a b => do return .range (← f.classLiteral? a) (← f.classLiteral? b)
  | .ascii k negated => some (f.foldAndNegate negated (asciiSet k))
  | .property p negated =>
    if f.unicode then (propertySet? p).map (f.foldAndNegate negated) else none
  | .perl k negated =>
    let s := perlSet f.unicode k
    some (if negated then s.complement else s)
  | .bracketed negated set => (classSet? f set).map (f.foldAndNegate negated)
  | .union items => itemsSet? f items

def itemsSet? (f : Flags) : List ClassItem → Option CharSet
  | [] => some .empty
  | i :: is => do
    let s ← itemSet? f i
    let t ← itemsSet? f is
    return s.union t

def classSet? (f : Flags) : ClassSet → Option CharSet
  | .item i => itemSet? f i
  | .op o l r => do
    let s := f.fold (← classSet? f l)
    let t := f.fold (← classSet? f r)
    match o with
    | .intersection => return s.intersection t
    | .difference => return s.difference t
    | .symmetricDifference => return s.symmetricDifference t

end

/-- A class outside Unicode must hold ASCII alone. -/
def Flags.whole? (f : Flags) (s : CharSet) : Option CharSet :=
  if f.unicode || s.isAscii then some s else none

/-! ### Patterns -/

def Flags.look (f : Flags) (a : Assertion) : Look :=
  let word := perlSet f.unicode .word
  match a with
  | .startLine =>
    if !f.multiLine then .start else if f.crlf then .anyLineStart else .lineStart
  | .endLine => if !f.multiLine then .finish else if f.crlf then .anyLineEnd else .lineEnd
  | .startText => .start
  | .endText => .finish
  | .wordBoundary => .boundary word
  | .notWordBoundary => .notBoundary word
  | .wordStart => .wordStart word
  | .wordEnd => .wordEnd word
  | .wordStartHalf => .wordStartHalf word
  | .wordEndHalf => .wordEndHalf word

def Flags.dot? (f : Flags) : Option CharSet :=
  if !f.unicode then none
  else if f.dotAll then some .all
  else if f.crlf then some (CharSet.ofPoints [10, 13]).complement
  else some (CharSet.single '\n').complement

def Flags.literal? (f : Flags) (l : Literal) : Option Regex :=
  if !f.unicode && l.byte && 0x80 ≤ l.char.toNat then none
  else some (.one (f.fold (.single l.char)))

mutual

/-- The flags that hold after a pattern are its second part. -/
def meaning? (f : Flags) : Pattern → Option (Regex × Flags)
  | .empty => some (.empty, f)
  | .flags items => some (.empty, f.apply items)
  | .literal l => (f.literal? l).map fun r => (r, f)
  | .dot => f.dot?.map fun s => (.one s, f)
  | .assertion a => some (.look (f.look a), f)
  | .property p negated =>
    if f.unicode then (propertySet? p).map fun s => (.one (f.foldAndNegate negated s), f) else none
  | .perl k negated =>
    let s := perlSet f.unicode k
    (f.whole? (if negated then s.complement else s)).map fun s => (.one s, f)
  | .bracketed negated set => do
    let s ← classSet? f set
    let s ← f.whole? (f.foldAndNegate negated s)
    return (.one s, f)
  | .repeated min max p => do
    let (r, f) ← meaning? f p
    return (.repeated min max r, f)
  | .group items _ p => do
    let (r, _) ← meaning? (f.apply items) p
    return (r, f)
  | .alternation ps => branches? f ps
  | .concat ps => parts? f ps

def parts? (f : Flags) : List Pattern → Option (Regex × Flags)
  | [] => some (.empty, f)
  | p :: ps => do
    let (r, f) ← meaning? f p
    let (s, f) ← parts? f ps
    return (.seq r s, f)

/-- An alternative without branches matches nothing. -/
def branches? (f : Flags) : List Pattern → Option (Regex × Flags)
  | [] => some (.one .empty, f)
  | p :: ps => do
    let (r, f) ← meaning? f p
    let (s, f) ← branches? f ps
    return (.or r s, f)

end

/-! ### Size -/

/-- An estimate of the bytes that a matcher of the pattern takes, with its repetitions unfolded. -/
def size : Regex → Nat
  | .empty => 0
  | .one s => 32 + (if s.isAscii then 8 else 64) * s.ranges.length
  | .look _ => 32
  | .seq r s => r.size + s.size
  | .or r s => r.size + s.size + 40
  | .repeated min none r => max min 1 * r.size + 40
  | .repeated min (some max) r => min * r.size + (max - min) * (r.size + 40)

def sizeLimit : Nat := 10 * Nat.pow 2 20

/-- The regular expression of a pattern's text, if it is one. -/
def read? (s : String) : Option Regex := do
  let p ← Pattern.read? s
  let (r, _) ← meaning? {} p
  if r.size ≤ sizeLimit then some r else none

def wholeText? (pattern : String) : Option Regex := read? ("^(?:" ++ pattern ++ ")$")

end Blueprint.Regex
