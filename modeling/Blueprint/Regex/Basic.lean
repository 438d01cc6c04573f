import Blueprint.Unicode.CharSet

/-!
# Regular expressions

A `Regex` tests a text by the places it can reach: `reach` maps the places where a match may begin
to those where it may end. Greed and groups change no test, so they are left out.
-/

namespace Blueprint

/-- A condition on a place between two characters. -/
inductive Regex.Look where
  | start | finish
  | lineStart | lineEnd
  /-- Line ends may be CR, LF or both together. -/
  | anyLineStart | anyLineEnd
  | boundary (word : Unicode.CharSet)
  | notBoundary (word : Unicode.CharSet)
  | wordStart (word : Unicode.CharSet)
  | wordEnd (word : Unicode.CharSet)
  | wordStartHalf (word : Unicode.CharSet)
  | wordEndHalf (word : Unicode.CharSet)
  deriving Repr, Inhabited

inductive Regex where
  | empty
  | one (s : Unicode.CharSet)
  | look (l : Regex.Look)
  | seq (r s : Regex)
  | or (r s : Regex)
  | repeated (min : Nat) (max : Option Nat) (r : Regex)
  deriving Repr, Inhabited

namespace Regex

/-- Whether a condition holds between `before` and `after`. -/
def Look.holds (before after : Option Char) : Look → Bool
  | .start => before.isNone
  | .finish => after.isNone
  | .lineStart => before.isNone || before == some '\n'
  | .lineEnd => after.isNone || after == some '\n'
  | .anyLineStart => before.isNone || before == some '\n' ||
      (before == some '\r' && after != some '\n')
  | .anyLineEnd => after.isNone || after == some '\r' ||
      (after == some '\n' && before != some '\r')
  | .boundary w => before.any w.contains != after.any w.contains
  | .notBoundary w => before.any w.contains == after.any w.contains
  | .wordStart w => !before.any w.contains && after.any w.contains
  | .wordEnd w => before.any w.contains && !after.any w.contains
  | .wordStartHalf w => !before.any w.contains
  | .wordEndHalf w => !after.any w.contains

def places (text : Array Char) (ps : List Nat) : List Nat :=
  let marks := ps.foldl (fun (m : Array Bool) p => m.setIfInBounds p true)
    (Array.replicate (text.size + 1) false)
  (List.range (text.size + 1)).filter fun p => marks.getD p false

def charBefore (text : Array Char) : Nat → Option Char
  | 0 => none
  | p + 1 => text[p]?

/-- Applies a step `n` times, or until no place is left. -/
def times (step : List Nat → List Nat) : Nat → List Nat → List Nat
  | 0, ps => ps
  | n + 1, ps => if ps.isEmpty then [] else times step n (step ps)

/-- Applies a step up to `n` times and collects all places. -/
def upTo (text : Array Char) (step : List Nat → List Nat) : Nat → List Nat → List Nat
  | 0, ps => ps
  | n + 1, ps =>
    let qs := places text (ps ++ step ps)
    if qs.length = ps.length then qs else upTo text step n qs

def reach (text : Array Char) : Regex → List Nat → List Nat
  | .empty, ps => ps
  | .one s, ps => (ps.filter fun p => text[p]?.any s.contains).map (· + 1)
  | .look l, ps => ps.filter fun p => l.holds (charBefore text p) text[p]?
  | .seq r s, ps => reach text s (reach text r ps)
  | .or r s, ps => places text (reach text r ps ++ reach text s ps)
  | .repeated min max r, ps =>
    let more := match max with
      | none => text.size + 1
      | some m => Nat.min (m - min) (text.size + 1)
    upTo text (reach text r) more (times (reach text r) min ps)

def test (r : Regex) (s : String) : Bool :=
  let text := s.toList.toArray
  !(reach text r (List.range (text.size + 1))).isEmpty

end Regex

end Blueprint
