import Blueprint.Module.Declaration

/-!
# Inheritance between declarations

A base is the nearest declaration of its name that is of the same kind or a mixin. Declarations are
built after their bases, and otherwise in the order in which they stand.
-/

namespace Blueprint.Inheritance

/-- Whether a declaration may be a base of another one by this name. -/
def offers (d : Declaration) (kind : EntityKind) (name : String) : Bool :=
  d.label == name && !d.isRoot && (d.kind == kind || d.kind == .mixin)

/-- Places of the declarations that the one at `i` may mean by a name. -/
def candidates (ds : List Declaration) (i : Nat) (kind : EntityKind) (name : String) : List Nat :=
  (List.range ds.length).filter fun j => j ≠ i && ds[j]?.any (offers · kind name)

def depthAt? (ds : List Declaration) (i : Nat) : Option Nat := ds[i]?.map (·.depth)

def base (ds : List Declaration) (i : Nat) (d : Declaration) (name : String) :
    Except CompileError Nat :=
  let found := candidates ds i d.kind name
  match (found.filterMap (depthAt? ds)).min? with
  | none => .error (.unresolved d.subject (d.kind.name ++ " or mixin") name)
  | some depth =>
    match found.filter fun j => depthAt? ds j = some depth with
    | [j] => .ok j
    | nearest => .error (.ambiguous d.subject d.kind.name name nearest.length depth)

def bases (ds : List Declaration) : Except CompileError (List (List Nat)) :=
  ds.zipIdx.mapM fun (d, i) => d.source.bases.mapM (base ds i d)

/-! ### The order -/

/-- Places of the declarations that extend the one at `j`, once for each time that they do. -/
def dependents (bs : List (List Nat)) (j : Nat) : List Nat :=
  bs.zipIdx.flatMap fun (js, i) => List.replicate (js.count j) i

/-- A search for an order. -/
structure Search where
  /-- How many bases a declaration still waits for, by its place. -/
  waiting : List Nat
  /-- Ascending places of the declarations that wait for none. -/
  ready : List Nat
  placed : List Nat := []

namespace Search

def insert (i : Nat) : List Nat → List Nat
  | [] => [i]
  | j :: js => if i < j then i :: j :: js else if i = j then j :: js else j :: insert i js

def start (bs : List (List Nat)) : Search :=
  let waiting := bs.map List.length
  { waiting, ready := (List.range bs.length).filter fun i => (waiting[i]?).getD 0 = 0 }

/-- One of the bases of the declaration at `i` was placed. -/
def release (s : Search) (i : Nat) : Search :=
  let left := (s.waiting[i]?).getD 0 - 1
  { s with
    waiting := s.waiting.set i left
    ready := if left = 0 then insert i s.ready else s.ready }

/-- Places one ready declaration after the other, the first of them first. -/
def run (bs : List (List Nat)) : Nat → Search → Search
  | 0, s => s
  | n + 1, s =>
    match s.ready with
    | [] => s
    | i :: ready =>
      run bs n ((dependents bs i).foldl release { s with ready, placed := s.placed ++ [i] })

end Search

def order (ds : List Declaration) (bs : List (List Nat)) : Except CompileError (List Nat) :=
  -- A round places one declaration, and none is placed twice.
  let placed := (Search.run bs bs.length (.start bs)).placed
  if placed.length = bs.length then .ok placed
  else
    let left := ds.zipIdx.filter fun (_, i) => !placed.contains i
    .error (.validation "module" (.inheritanceCycle (left.map fun (d, _) => d.key)))

end Blueprint.Inheritance
