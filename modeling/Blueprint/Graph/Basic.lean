import Blueprint.Entity.Basic
import Blueprint.Error
import Blueprint.Graph.Index

/-!
# Entity graphs

The entities declared for one document, each at its distance from the root. The id of an entity is
its place in the order of declaration. Beside the entities a graph keeps an index of their keys, from
which the candidates of a name are taken; `candidates_eq`: they are the entities of that key.
-/

namespace Blueprint

structure Declared where
  entity : Entity
  /-- Hops from the root. -/
  depth : Nat
  deriving Inhabited

/-! ### Index and entities -/

namespace KeyIndex

/-- The index lists the places of every key among the entities, in their order. -/
def Lists (index : KeyIndex) (ds : List Declared) : Prop :=
  ∀ key, index.ids key =
    (List.range ds.length).filter fun place => ds[place]?.any fun d => d.entity.key == key

theorem lists_nil : Lists {} [] := fun _ => rfl

theorem Lists.push {index : KeyIndex} {ds : List Declared} (h : index.Lists ds) (d : Declared) :
    (index.add d.entity.key ds.length).Lists (ds ++ [d]) := by
  intro key
  have old : ((List.range ds.length).filter fun place =>
        (ds ++ [d])[place]?.any fun d => d.entity.key == key) =
      (List.range ds.length).filter fun place => ds[place]?.any fun d => d.entity.key == key := by
    apply List.filter_congr
    intro place inside
    rw [List.getElem?_append_left (List.mem_range.mp inside)]
  rw [ids_add, h key, List.length_append, List.length_singleton, List.range_succ,
    List.filter_append, old]
  by_cases same : d.entity.key = key <;> simp [same]

/-- Entities that are declared one after the other, the first of them in this place. -/
def addAll (index : KeyIndex) (place : EntityId) : List Declared → KeyIndex
  | [] => index
  | d :: ds => (index.add d.entity.key place).addAll (place + 1) ds

def of (ds : List Declared) : KeyIndex := addAll {} 0 ds

theorem Lists.addAll {index : KeyIndex} {before : List Declared} (h : index.Lists before)
    (ds : List Declared) : (index.addAll before.length ds).Lists (before ++ ds) := by
  induction ds generalizing index before with
  | nil => simpa [KeyIndex.addAll] using h
  | cons d ds ih =>
    have later := ih (h.push d)
    rw [List.length_append, List.length_singleton, List.append_assoc] at later
    exact later

theorem lists_of (ds : List Declared) : (of ds).Lists ds := lists_nil.addAll ds

end KeyIndex

/-! ### Graphs -/

structure EntityGraph where
  declared : List Declared := []
  /-- The ids under each key, as they were added with their entities. -/
  index : KeyIndex := .of declared
  root : Option EntityId := none
  indexed : index.Lists declared := by exact KeyIndex.lists_of _

/-- The depth of what is declared next to the root. -/
def moduleDepth : Nat := 1

namespace EntityGraph

def empty : EntityGraph := {}

instance : Inhabited EntityGraph := ⟨empty⟩

@[simp] theorem declared_empty : empty.declared = [] := rfl

@[simp] theorem root_empty : empty.root = none := rfl

def size (g : EntityGraph) : Nat := g.declared.length

def ids (g : EntityGraph) : List EntityId := List.range g.size

def entity? (g : EntityGraph) (id : EntityId) : Option Entity := g.declared[id]?.map (·.entity)

def depth? (g : EntityGraph) (id : EntityId) : Option Nat := g.declared[id]?.map (·.depth)

def entity (g : EntityGraph) (id : EntityId) : Except CompileError Entity :=
  match g.entity? id with
  | some e => .ok e
  | none => .error (.missingEntity id)

def declareAt (g : EntityGraph) (e : Entity) (depth : Nat) : EntityGraph × Handle :=
  let d : Declared := ⟨e, depth⟩
  ({ g with
      index := g.index.add e.key g.size
      declared := g.declared ++ [d]
      indexed := g.indexed.push d }, ⟨g.size, e.key⟩)

def declare (g : EntityGraph) (e : Entity) : EntityGraph × Handle := g.declareAt e moduleDepth

/-- Declares the root, which there is once. The answer stands beside the graph as it is then. -/
def takeRoot (g : EntityGraph) (e : Entity) : EntityGraph × Except CompileError Handle :=
  if !e.kind.isRoot then (g, .error (.validation e.key.text .notRootKind))
  else
    match g.root with
    | some id =>
      (g, do
        let root ← g.entity id
        .error (.validation e.key.text (.rootTwice root.key)))
    | none =>
      let (g, h) := g.declareAt e 0
      ({ g with root := some h.id }, .ok h)

/-- For a caller that ends where the root is refused. -/
def declareRoot (g : EntityGraph) (e : Entity) : Except CompileError (EntityGraph × Handle) := do
  let (g, answer) := g.takeRoot e
  return (g, ← answer)

theorem takeRoot_free {g : EntityGraph} {e : Entity} (kind : e.kind.isRoot = true)
    (free : g.root = none) : g.takeRoot e =
      ({ (g.declareAt e 0).1 with root := some g.size }, .ok ⟨g.size, e.key⟩) := by
  rw [takeRoot, kind, free]
  rfl

/-- A root is of a kind that roots documents, and the first. One that is not changes nothing. -/
theorem takeRoot_cases (g : EntityGraph) (e : Entity) :
    (e.kind.isRoot = true ∧ g.root = none) ∨ ∃ fault, g.takeRoot e = (g, .error fault) := by
  unfold takeRoot
  cases kind : e.kind.isRoot with
  | false => exact .inr ⟨_, rfl⟩
  | true =>
    cases held : g.root with
    | none => exact .inl ⟨rfl, rfl⟩
    | some id =>
      rw [if_neg (by decide)]
      dsimp only
      cases g.entity id with
      | ok root => exact .inr ⟨_, rfl⟩
      | error fault => exact .inr ⟨fault, rfl⟩

theorem declareRoot_ok_iff {g g' : EntityGraph} {e : Entity} {handle : Handle} :
    g.declareRoot e = .ok (g', handle) ↔ (e.kind.isRoot = true ∧ g.root = none) ∧
      g' = { (g.declareAt e 0).1 with root := some g.size } ∧ handle = ⟨g.size, e.key⟩ := by
  constructor
  · intro h
    rcases takeRoot_cases g e with ⟨kind, free⟩ | ⟨fault, refused⟩
    · rw [declareRoot, takeRoot_free kind free] at h
      obtain ⟨rfl, rfl⟩ := Prod.mk.inj (Except.ok.inj h)
      exact ⟨⟨kind, free⟩, rfl, rfl⟩
    · rw [declareRoot, refused] at h
      cases h
  · rintro ⟨⟨kind, free⟩, rfl, rfl⟩
    rw [declareRoot, takeRoot_free kind free]
    rfl

def candidates (g : EntityGraph) (key : EntityKey) : List EntityId := g.index.ids key

/-- What the index finds is what is there. -/
theorem candidates_eq (g : EntityGraph) (key : EntityKey) :
    g.candidates key = g.ids.filter fun id => (g.entity? id).any fun e => e.key == key := by
  rw [candidates, g.indexed key, ids, size]
  apply List.filter_congr
  intro id _
  rw [entity?, Option.any_map]

def atDepth (g : EntityGraph) (depth : Nat) (ids : List EntityId) : List EntityId :=
  ids.filter fun id => g.depth? id == some depth

def leastDepth? (g : EntityGraph) (ids : List EntityId) : Option Nat :=
  (ids.filterMap g.depth?).min?

end EntityGraph

end Blueprint
