import Blueprint.Entity.Basic
import Blueprint.Error

/-!
# Composing bases

Bases are merged in the order in which they are listed. The first one that offers a variable or an
attribute wins; two bases must not both offer an action or a reference slot; and at most one base
is of the kind of the composed entity, the others are mixins.
-/

namespace Blueprint

namespace OrderedMap

variable {α : Type}

def insertAllNew (m n : OrderedMap α) : OrderedMap α :=
  n.entries.foldl (fun m (k, v) => m.insertNew k v) m

def shared? (m n : OrderedMap α) : Option String := n.keys.find? m.contains

end OrderedMap

def addNew (xs ys : List String) : List String :=
  ys.foldl (fun xs y => if xs.contains y then xs else xs ++ [y]) xs

/-- The bases merged so far, and the name of the one that is no mixin. -/
structure Composition where
  merged : Entity
  concrete : Option String := none
  deriving Inhabited

namespace Composition

def joining (c : Composition) (base : Entity) : Except MergeFault (Option String) :=
  if base.kind = .mixin then .ok c.concrete
  else if base.kind ≠ c.merged.kind then .error (.foreignKind base.key)
  else
    match c.concrete with
    | some first => .error (.twoConcrete first base.name c.merged.kind)
    | none => .ok (some base.name)

def add (c : Composition) (base : Entity) : Except MergeFault Composition := do
  let concrete ← c.joining base
  let m := c.merged
  match m.actions.shared? base.actions with
  | some name => .error (.actionTwice name)
  | none => .ok ()
  match m.references.shared? base.references with
  | some slot => .error (.slotTwice slot)
  | none => .ok ()
  return {
    concrete
    merged := { m with
      lineage := addNew m.lineage (base.lineage ++ [base.name])
      description := if m.description.isEmpty then base.description else m.description
      vars := m.vars.insertAllNew base.vars
      actions := m.actions.insertAll base.actions
      references := m.references.insertAll base.references
      attrs := m.attrs.insertAllNew base.attrs
      editables := addNew m.editables base.editables } }

end Composition

def Entity.ofBases (key : EntityKey) (bases : List Entity) : Except MergeFault Entity :=
  (bases.foldlM Composition.add { merged := { kind := key.kind, name := key.name } }).map (·.merged)

end Blueprint
