import Blueprint.Json.Value
import Blueprint.Task.Tree
import Blueprint.Variable.Basic

/-!
# Entities

The containers of a document with everything they declare.
-/

namespace Blueprint

/-- A named body of tasks with variables of its own. -/
structure Action where
  name : String
  description : String := ""
  kind : ActionKind := .user
  critical : Bool := false
  vars : OrderedMap Variable := ∅
  tree : TaskTree
  deriving Inhabited

structure Entity where
  kind : EntityKind
  name : String
  description : String := ""
  vars : OrderedMap Variable := ∅
  actions : OrderedMap Action := ∅
  references : OrderedMap (List Ref) := ∅
  attrs : OrderedMap Json := ∅
  /-- Dotted paths of attributes that may be overridden at launch. -/
  editables : List String := []
  /-- The names of all bases, outermost first. -/
  lineage : List String := []
  deriving Inhabited

namespace Entity

def key (e : Entity) : EntityKey := ⟨e.kind, e.name⟩

def extendsFrom (e : Entity) (base : String) : Bool := e.lineage.contains base

def actionScope (e : Entity) (action : String) : String := e.name ++ "." ++ action

end Entity

end Blueprint
