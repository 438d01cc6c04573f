import Blueprint.Yaml.Tree
import Blueprint.Yaml.Token.Lexer

/-!
# Nodes

A node is a tree with its aliases followed. Collections nest at most 128 deep, and aliases are
followed at most a hundred times for each piece of the text.
-/

namespace Blueprint.Yaml

inductive Node where
  | scalar (tag : Option String) (text : String) (plain : Bool)
  | sequence (tag : Option String) (items : List Node)
  | mapping (tag : Option String) (entries : List (Node × Node))
  deriving Inhabited

namespace Tree

mutual

/-- The pieces of a tree: scalars, aliases, and both ends of each collection. -/
def pieces : Tree → Nat
  | .alias _ => 1
  | .scalar .. => 1
  | .sequence _ items => 2 + piecesOfItems items
  | .mapping _ entries => 2 + piecesOfEntries entries

def piecesOfItems : List Tree → Nat
  | [] => 0
  | t :: ts => pieces t + piecesOfItems ts

def piecesOfEntries : List (Tree × Tree) → Nat
  | [] => 0
  | (k, v) :: es => pieces k + pieces v + piecesOfEntries es

end

def marked (m : Marks) (t : Tree) : List (Nat × Tree) :=
  match m.anchor with
  | some n => [(n, t)]
  | none => []

mutual

/-- The trees with an anchor in the order of their starts. -/
def anchored : Tree → List (Nat × Tree)
  | .alias _ => []
  | .scalar m text plain => marked m (.scalar m text plain)
  | .sequence m items => marked m (.sequence m items) ++ anchoredItems items
  | .mapping m entries => marked m (.mapping m entries) ++ anchoredEntries entries

def anchoredItems : List Tree → List (Nat × Tree)
  | [] => []
  | t :: ts => anchored t ++ anchoredItems ts

def anchoredEntries : List (Tree × Tree) → List (Nat × Tree)
  | [] => []
  | (k, v) :: es => anchored k ++ anchored v ++ anchoredEntries es

end

/-- What aliases stand for, and how often they may still be followed. -/
structure Aliases where
  targets : List (Nat × Tree)
  budget : Nat

/-- The last tree with a number is the one that an alias stands for. -/
def Aliases.ofTree (t : Tree) : Aliases := ⟨t.anchored.reverse, 100 * t.pieces⟩

/-- Follows an alias; the number counts how often that was done. -/
def follow? (a : Aliases) (t : Tree) (done : Nat) : Option (Tree × Nat) :=
  match t with
  | .alias n =>
    if done < a.budget then (a.targets.lookup n).map fun t => (t, done + 1) else none
  | t => some (t, done)

/-- Follows the aliases of a tree, with `depth` levels of collections left. -/
def expand? (a : Aliases) : Nat → Tree → StateT Nat Option Node
  | 0, t => fun done =>
    match follow? a t done with
    | some (.scalar m text plain, done) => some (.scalar m.tag text plain, done)
    | _ => none
  | depth + 1, t => fun done =>
    match follow? a t done with
    | some (.scalar m text plain, done) => some (.scalar m.tag text plain, done)
    | some (.sequence m items, done) =>
      (items.mapM (expand? a depth) done).map fun (items, done) => (.sequence m.tag items, done)
    | some (.mapping m entries, done) =>
      let entry := fun (k, v) => do return (← expand? a depth k, ← expand? a depth v)
      (entries.mapM entry done).map fun (entries, done) => (.mapping m.tag entries, done)
    | _ => none

end Tree

namespace Node

def maxDepth : Nat := 128

def ofTree? (t : Tree) : Option Node := (t.expand? (.ofTree t) maxDepth 0).map (·.1)

def read? (s : String) : Option Node := do ofTree? (← Tree.ofTokens? (← Token.scan? s))

end Node

end Blueprint.Yaml
