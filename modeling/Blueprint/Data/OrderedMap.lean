/-!
# Maps in insertion order

An `OrderedMap` lists its keys in the order in which they were first inserted; inserting a key
again keeps its place. `get?_insert` and `keys_insert` say what an insertion does to both views.
-/

namespace Blueprint

namespace Entries

variable {α : Type}

def keys (es : List (String × α)) : List String := es.map (·.1)

def get? (k : String) : List (String × α) → Option α
  | [] => none
  | (k', v) :: es => if k' = k then some v else get? k es

/-- Replaces the value at `k`, or adds `k` at the end. -/
def put (k : String) (v : α) : List (String × α) → List (String × α)
  | [] => [(k, v)]
  | (k', v') :: es => if k' = k then (k, v) :: es else (k', v') :: put k v es

theorem keys_put (k : String) (v : α) (es : List (String × α)) :
    keys (put k v es) = if k ∈ keys es then keys es else keys es ++ [k] := by
  induction es with
  | nil => simp [put, keys]
  | cons e es ih =>
    obtain ⟨k', v'⟩ := e
    simp only [put]
    by_cases h : k' = k
    · simp [h, keys]
    · have h' : ¬k = k' := fun e => h e.symm
      simp only [if_neg h]
      simp only [keys, List.map_cons, List.mem_cons, h', false_or] at ih ⊢
      rw [ih]
      split <;> rename_i hk <;> simp [hk]

theorem get?_put (k k' : String) (v : α) (es : List (String × α)) :
    get? k' (put k v es) = if k = k' then some v else get? k' es := by
  induction es with
  | nil => simp [put, get?]
  | cons e es ih =>
    obtain ⟨k₁, v₁⟩ := e
    by_cases h : k₁ = k
    · subst h
      by_cases h' : k₁ = k' <;> simp [put, get?, h']
    · by_cases h' : k = k'
      · subst h'
        simp [put, get?, h, ih]
      · simp only [put, if_neg h, get?, ih, if_neg h']

theorem get?_isSome_iff (k : String) (es : List (String × α)) :
    (get? k es).isSome = true ↔ k ∈ keys es := by
  induction es with
  | nil => simp [get?, keys]
  | cons e es ih =>
    obtain ⟨k', v'⟩ := e
    by_cases h : k' = k
    · simp [get?, h, keys]
    · have h' : ¬k = k' := fun e => h e.symm
      simp only [keys] at ih
      simp [get?, h, h', ih, keys]

theorem nodup_put (k : String) (v : α) {es : List (String × α)} (h : (keys es).Nodup) :
    (keys (put k v es)).Nodup := by
  rw [keys_put]
  split
  · exact h
  · rename_i hk
    exact List.nodup_append.2 ⟨h, by simp, by
      intro a ha b hb e
      simp only [List.mem_singleton] at hb
      exact hk (by rw [← hb, ← e]; exact ha)⟩

end Entries

/-- Entries with distinct keys. -/
structure OrderedMap (α : Type) where
  entries : List (String × α)
  nodup : (Entries.keys entries).Nodup

namespace OrderedMap

variable {α β : Type}

def empty : OrderedMap α := ⟨[], by simp [Entries.keys]⟩

instance : EmptyCollection (OrderedMap α) := ⟨empty⟩

instance : Inhabited (OrderedMap α) := ⟨empty⟩

def keys (m : OrderedMap α) : List String := Entries.keys m.entries

def values (m : OrderedMap α) : List α := m.entries.map (·.2)

def get? (m : OrderedMap α) (k : String) : Option α := Entries.get? k m.entries

def contains (m : OrderedMap α) (k : String) : Bool := (m.get? k).isSome

def insert (m : OrderedMap α) (k : String) (v : α) : OrderedMap α :=
  ⟨Entries.put k v m.entries, Entries.nodup_put k v m.nodup⟩

/-- Keeps the value that is there already. -/
def insertNew (m : OrderedMap α) (k : String) (v : α) : OrderedMap α :=
  if m.contains k then m else m.insert k v

def isEmpty (m : OrderedMap α) : Bool := m.entries.isEmpty

def size (m : OrderedMap α) : Nat := m.entries.length

def ofList (es : List (String × α)) : OrderedMap α := es.foldl (fun m (k, v) => m.insert k v) ∅

def mapValues (f : α → β) (m : OrderedMap α) : OrderedMap β :=
  ⟨m.entries.map fun e => (e.1, f e.2), by
    have h : Entries.keys (m.entries.map fun e => (e.1, f e.2)) = Entries.keys m.entries := by
      simp [Entries.keys, Function.comp_def]
    rw [h]
    exact m.nodup⟩

def insertAll (m n : OrderedMap α) : OrderedMap α :=
  n.entries.foldl (fun m (k, v) => m.insert k v) m

def filterKeys (p : String → Bool) (m : OrderedMap α) : OrderedMap α :=
  ⟨m.entries.filter fun e => p e.1, by
    have h : Entries.keys (m.entries.filter fun e => p e.1) =
        (Entries.keys m.entries).filter p := by
      simp [Entries.keys, List.filter_map, Function.comp_def]
    rw [h]
    exact m.nodup.filter p⟩

theorem get?_insert (m : OrderedMap α) (k k' : String) (v : α) :
    (m.insert k v).get? k' = if k = k' then some v else m.get? k' :=
  Entries.get?_put k k' v m.entries

theorem keys_insert (m : OrderedMap α) (k : String) (v : α) :
    (m.insert k v).keys = if k ∈ m.keys then m.keys else m.keys ++ [k] :=
  Entries.keys_put k v m.entries

theorem contains_iff (m : OrderedMap α) (k : String) : m.contains k = true ↔ k ∈ m.keys :=
  Entries.get?_isSome_iff k m.entries

end OrderedMap

end Blueprint
