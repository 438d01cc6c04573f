/-!
# Patterns of regular expressions

What a pattern says before its flags are applied. `Pattern.depth` counts how deep its parts are
nested.
-/

namespace Blueprint.Regex

inductive Flag where
  | ignoreCase | multiLine | dotAll | swapGreed | unicode | crlf | verbose
  deriving DecidableEq, Repr, Inhabited

/-- One item of a flag group: a flag, or the sign after which flags are turned off. -/
inductive FlagItem where
  | flag (f : Flag)
  | negation
  deriving DecidableEq, Repr, Inhabited

def flagState? (items : List FlagItem) (f : Flag) : Option Bool :=
  if (items.takeWhile (· != .negation)).contains (.flag f) then some true
  else if items.contains (.flag f) then some false
  else none

/-- A literal character; `byte` tells that it was written as a byte in two hexadecimal digits. -/
structure Literal where
  char : Char
  byte : Bool := false
  deriving DecidableEq, Repr, Inhabited

inductive PerlClass where
  | digit | space | word
  deriving DecidableEq, Repr, Inhabited

/-- A bracket name such as `alpha`. -/
inductive AsciiClass where
  | alnum | alpha | ascii | blank | cntrl | digit | graph | lower | print | punct | space | upper
  | word | xdigit
  deriving DecidableEq, Repr, Inhabited

/-- A character property as it is written. -/
inductive PropertyName where
  | letter (c : Char)
  | named (name : String)
  | valued (name value : String) (equal : Bool)
  deriving DecidableEq, Repr, Inhabited

inductive Assertion where
  | startLine | endLine | startText | endText
  | wordBoundary | notWordBoundary
  | wordStart | wordEnd | wordStartHalf | wordEndHalf
  deriving DecidableEq, Repr, Inhabited

inductive SetOp where
  | intersection | difference | symmetricDifference
  deriving DecidableEq, Repr, Inhabited

mutual

inductive ClassItem where
  | empty
  | literal (l : Literal)
  | range (first last : Literal)
  | ascii (c : AsciiClass) (negated : Bool)
  | property (p : PropertyName) (negated : Bool)
  | perl (c : PerlClass) (negated : Bool)
  | bracketed (negated : Bool) (set : ClassSet)
  | union (items : List ClassItem)

inductive ClassSet where
  | item (i : ClassItem)
  | op (o : SetOp) (left right : ClassSet)

end

instance : Inhabited ClassItem := ⟨.empty⟩

inductive Pattern where
  | empty
  | flags (items : List FlagItem)
  | literal (l : Literal)
  | dot
  | assertion (a : Assertion)
  | property (p : PropertyName) (negated : Bool)
  | perl (c : PerlClass) (negated : Bool)
  | bracketed (negated : Bool) (set : ClassSet)
  | repeated (min : Nat) (max : Option Nat) (s : Pattern)
  | group (flags : List FlagItem) (capture : Bool) (s : Pattern)
  | alternation (ss : List Pattern)
  | concat (ss : List Pattern)
  deriving Inhabited

mutual

def ClassItem.depth : ClassItem → Nat
  | .bracketed _ set => set.depth + 1
  | .union items => ClassItem.depths items + 1
  | _ => 0

def ClassItem.depths : List ClassItem → Nat
  | [] => 0
  | i :: is => max i.depth (ClassItem.depths is)

def ClassSet.depth : ClassSet → Nat
  | .item i => i.depth
  | .op _ l r => max l.depth r.depth + 1

end

mutual

def Pattern.depth : Pattern → Nat
  | .bracketed _ set => set.depth + 1
  | .repeated _ _ s => s.depth + 1
  | .group _ _ s => s.depth + 1
  | .alternation ss => Pattern.depths ss + 1
  | .concat ss => Pattern.depths ss + 1
  | _ => 0

def Pattern.depths : List Pattern → Nat
  | [] => 0
  | s :: ss => max s.depth (Pattern.depths ss)

end

/-- A sequence of one part is that part. -/
def Pattern.ofParts : List Pattern → Pattern
  | [] => .empty
  | [s] => s
  | ss => .concat ss

/-- Alternatives of one branch are that branch. -/
def Pattern.ofBranches : List Pattern → Pattern
  | [s] => s
  | ss => .alternation ss

def ClassItem.ofItems : List ClassItem → ClassItem
  | [] => .empty
  | [i] => i
  | is => .union is

end Blueprint.Regex
