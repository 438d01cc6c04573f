import Blueprint.Text.Digits

/-!
# Sets of characters

A set is a list of ranges of code points, ascending and apart from each other. Surrogates may fall
into a range, as no character is one of them.
-/

namespace Blueprint.Unicode

structure CharSet where
  ranges : List (Nat × Nat)
  deriving DecidableEq, Repr, Inhabited

namespace CharSet

def last : Nat := 0x10FFFF

def empty : CharSet := ⟨[]⟩

def all : CharSet := ⟨[(0, last)]⟩

def range (a b : Nat) : CharSet := ⟨[(a, b)]⟩

def single (c : Char) : CharSet := range c.toNat c.toNat

def containsPoint (s : CharSet) (n : Nat) : Bool := s.ranges.any fun (a, b) => a ≤ n && n ≤ b

def contains (s : CharSet) (c : Char) : Bool := s.containsPoint c.toNat

def join : List (Nat × Nat) → List (Nat × Nat)
  | [] => []
  | r :: rs =>
    match join rs with
    | [] => [r]
    | s :: ss => if s.1 ≤ r.2 + 1 then (r.1, max r.2 s.2) :: ss else r :: s :: ss

def union (s t : CharSet) : CharSet :=
  ⟨join (List.merge s.ranges t.ranges fun a b => a.1 ≤ b.1)⟩

def ofRanges (rs : List (Nat × Nat)) : CharSet := ⟨join (rs.mergeSort fun a b => a.1 ≤ b.1)⟩

def ofPoints (ns : List Nat) : CharSet := ofRanges (ns.map fun n => (n, n))

def gaps (start : Nat) : List (Nat × Nat) → List (Nat × Nat)
  | [] => if start ≤ last then [(start, last)] else []
  | (a, b) :: rs => if start < a then (start, a - 1) :: gaps (b + 1) rs else gaps (b + 1) rs

def complement (s : CharSet) : CharSet := ⟨gaps 0 s.ranges⟩

def intersection (s t : CharSet) : CharSet := (s.complement.union t.complement).complement

def difference (s t : CharSet) : CharSet := s.intersection t.complement

def symmetricDifference (s t : CharSet) : CharSet := (s.difference t).union (t.difference s)

def ascii : CharSet := range 0 0x7F

def isAscii (s : CharSet) : Bool := s.ranges.all fun r => r.2 ≤ 0x7F

/-! ### Tables

A table writes each range as the gap before it and, after a point, its length less one, both in
radix 36. -/

def wordRange? (word : List Char) : Option (Nat × Nat) :=
  match word.span fun c => c != '.' with
  | (gap, _ :: more) => do return (← Text.natural? 36 gap, ← Text.natural? 36 more)
  | (gap, []) => (Text.natural? 36 gap).map fun n => (n, 0)

def place (start : Nat) : List (Nat × Nat) → List (Nat × Nat)
  | [] => []
  | (gap, more) :: es => (start + gap, start + gap + more) :: place (start + gap + more + 1) es

def ofTable (lines : List String) : CharSet :=
  ⟨place 0 ((lines.flatMap fun l => l.splitOn " ").filterMap fun w => wordRange? w.toList)⟩

end CharSet

end Blueprint.Unicode
