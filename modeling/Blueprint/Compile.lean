import Blueprint.Digest
import Blueprint.Editable.Extract
import Blueprint.Entity.Validate
import Blueprint.Graph.Lifecycle
import Blueprint.Macro.Check
import Blueprint.Payload.Document

/-!
# Compiling

`compile` runs every pass over a graph and moves the entities that a pass has touched to their next
stage. The first failure ends it, and there is no partial document.
-/

namespace Blueprint

structure Compiled where
  document : Json
  editables : EditableTree
  warnings : List Macro.Warning
  resolved : ResolvedGraph
  lifecycle : Lifecycle
  deriving Inhabited

/-- Every declared entity is validated, reachable or not. -/
def EntityGraph.validate (g : EntityGraph) : Except CompileError Unit :=
  g.declared.forM fun d => d.entity.validate

def compile (g : EntityGraph) (context : CompileContext) : Except CompileError Compiled := do
  g.validate
  let l ← (Lifecycle.start g).advanced g .variablesBound g.ids
  let l ← l.advanced g .referencesUnresolved g.ids
  let resolved ← resolveGraph g
  let l ← l.advanced g .referencesResolved resolved.reachable
  let warnings ← Macro.check resolved context.strictMacros
  let editables ← EditableTree.extract resolved
  let l ← l.advanced g .editablesExtracted resolved.reachable
  let document ← (Payload.mk resolved context).document editables
  let lifecycle ← l.advanced g .serialized resolved.reachable
  return { document, editables, warnings, resolved, lifecycle }

end Blueprint
