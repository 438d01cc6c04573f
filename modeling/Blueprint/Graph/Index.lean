import Blueprint.Kind.Basic

/-!
# Ids by key

The ids that were added under each key, the oldest first. `ids_add`: an id goes to its own key, and
no other key sees it.
-/

namespace Blueprint

structure KeyIndex where
  entries : List (EntityKey × List EntityId) := []
  deriving DecidableEq, Repr, Inhabited

namespace KeyIndex

def lookup (key : EntityKey) : List (EntityKey × List EntityId) → List EntityId
  | [] => []
  | (k, ids) :: es => if k = key then ids else lookup key es

/-- A new key begins a list of its own. -/
def push (key : EntityKey) (id : EntityId) :
    List (EntityKey × List EntityId) → List (EntityKey × List EntityId)
  | [] => [(key, [id])]
  | (k, ids) :: es => if k = key then (k, ids ++ [id]) :: es else (k, ids) :: push key id es

def ids (index : KeyIndex) (key : EntityKey) : List EntityId := lookup key index.entries

def add (index : KeyIndex) (key : EntityKey) (id : EntityId) : KeyIndex :=
  ⟨push key id index.entries⟩

theorem lookup_push (key key' : EntityKey) (id : EntityId)
    (es : List (EntityKey × List EntityId)) :
    lookup key' (push key id es) = lookup key' es ++ if key = key' then [id] else [] := by
  induction es with
  | nil => by_cases same : key = key' <;> simp [push, lookup, same]
  | cons e es ih =>
    obtain ⟨k, ids⟩ := e
    by_cases here : k = key
    · subst here
      by_cases same : k = key' <;> simp [push, lookup, same]
    · by_cases other : k = key'
      · subst other
        have apart : ¬key = k := fun same => here same.symm
        simp [push, lookup, here, apart]
      · simp [push, lookup, here, other, ih]

theorem ids_add (index : KeyIndex) (key key' : EntityKey) (id : EntityId) :
    (index.add key id).ids key' = index.ids key' ++ if key = key' then [id] else [] :=
  lookup_push key key' id index.entries

end KeyIndex

end Blueprint
