import Blueprint.Proofs.Graph.Search

/-!
# Graphs that were declared

A graph is made by declaring one entity after the other. Whatever the calls are, the root is one of
the entities and of a kind that roots documents.
-/

namespace Blueprint.EntityGraph

/-- A call that declares an entity. -/
inductive Call where
  | declare (e : Entity)
  | declareAt (e : Entity) (depth : Nat)
  | declareRoot (e : Entity)

/-- The graph after a call, and the receipt or why it was refused. -/
def perform (g : EntityGraph) : Call → EntityGraph × Except CompileError Handle
  | .declare e =>
    let (g, handle) := g.declare e
    (g, .ok handle)
  | .declareAt e depth =>
    let (g, handle) := g.declareAt e depth
    (g, .ok handle)
  | .declareRoot e => g.takeRoot e

def call (g : EntityGraph) (c : Call) : EntityGraph := (g.perform c).1

def answer (g : EntityGraph) (c : Call) : Except CompileError Handle := (g.perform c).2

/-- The graph after these calls. -/
def ofCalls (calls : List Call) : EntityGraph := calls.foldl call .empty

/-- The root, if there is one, is declared and may root a document. -/
def RootKind (g : EntityGraph) : Prop :=
  ∀ root, g.root = some root → ∃ e, g.entity? root = some e ∧ e.kind.isRoot = true

variable {g : EntityGraph}

theorem RootKind.rooted (h : g.RootKind) : g.Rooted := fun root start =>
  let ⟨_, declared, _⟩ := h root start
  lt_size_of_entity? declared

theorem rootKind_empty : RootKind .empty := nofun

theorem declared_declareAt (g : EntityGraph) (new : Entity) (depth : Nat) :
    (g.declareAt new depth).1.declared = g.declared ++ [⟨new, depth⟩] := rfl

theorem entity?_declareAt_old {id : EntityId} {e : Entity} (h : g.entity? id = some e) (new : Entity)
    (depth : Nat) : (g.declareAt new depth).1.entity? id = some e := by
  have inside : id < g.declared.length := lt_size_of_entity? h
  rw [entity?, declared_declareAt, List.getElem?_append_left inside]
  exact h

theorem entity?_declareAt_new (new : Entity) (depth : Nat) :
    (g.declareAt new depth).1.entity? g.size = some new := by
  rw [entity?, declared_declareAt, size, List.getElem?_concat_length]
  rfl

theorem RootKind.declareAt (h : g.RootKind) (new : Entity) (depth : Nat) :
    (g.declareAt new depth).1.RootKind := by
  intro root start
  obtain ⟨e, declared, kind⟩ := h root start
  exact ⟨e, entity?_declareAt_old declared new depth, kind⟩

theorem RootKind.takeRoot (h : g.RootKind) (e : Entity) : (g.takeRoot e).1.RootKind := by
  rcases takeRoot_cases g e with ⟨kind, free⟩ | ⟨fault, refused⟩
  · rw [takeRoot_free kind free]
    intro root start
    obtain rfl : g.size = root := Option.some.inj start
    exact ⟨e, entity?_declareAt_new e 0, kind⟩
  · rw [refused]
    exact h

theorem RootKind.call (h : g.RootKind) (c : Call) : (g.call c).RootKind := by
  cases c with
  | declare e => exact h.declareAt e moduleDepth
  | declareAt e depth => exact h.declareAt e depth
  | declareRoot e => exact h.takeRoot e

theorem rootKind_foldl (h : g.RootKind) (calls : List Call) :
    (calls.foldl EntityGraph.call g).RootKind := by
  induction calls generalizing g with
  | nil => exact h
  | cons c calls ih => exact ih (h.call c)

theorem rootKind_ofCalls (calls : List Call) : (ofCalls calls).RootKind :=
  rootKind_foldl rootKind_empty calls

end Blueprint.EntityGraph
