import Blueprint.Entity.Compose
import Blueprint.Proofs.Data.Maps

/-!
# Layers of maps

Maps that are laid over one another. A key stands where it first appeared, and its value is that of
the layer that wins.
-/

namespace Blueprint

/-! ### Lists without repetition -/

theorem addNew_append (xs ys zs : List String) :
    addNew xs (ys ++ zs) = addNew (addNew xs ys) zs := List.foldl_append ..

theorem addNew_cons (xs ys : List String) (y : String) :
    addNew xs (y :: ys) = addNew (if y ∈ xs then xs else xs ++ [y]) ys := by
  by_cases known : y ∈ xs <;> simp [addNew, known]

theorem mem_addNew {xs ys : List String} {x : String} : x ∈ addNew xs ys ↔ x ∈ xs ∨ x ∈ ys := by
  induction ys generalizing xs with
  | nil => simp [addNew]
  | cons y ys ih =>
    rw [addNew_cons, ih]
    split
    · rename_i known
      simp only [List.mem_cons]
      exact ⟨Or.imp_right Or.inr, fun h => by
        rcases h with h | rfl | h
        · exact .inl h
        · exact .inl known
        · exact .inr h⟩
    · simp [or_assoc]

theorem addNew_nodup {xs : List String} (distinct : xs.Nodup) (ys : List String) :
    (addNew xs ys).Nodup := by
  induction ys generalizing xs with
  | nil => exact distinct
  | cons y ys ih =>
    rw [addNew_cons]
    split
    · exact ih distinct
    · rename_i fresh
      exact ih (List.concat_eq_append ▸ distinct.concat fresh)

theorem eraseDups_of_nodup {xs : List String} (distinct : xs.Nodup) : xs.eraseDups = xs := by
  induction xs with
  | nil => rfl
  | cons x xs ih =>
    obtain ⟨fresh, distinct⟩ := List.nodup_cons.mp distinct
    have others : xs.filter (fun y => !y == x) = xs :=
      List.filter_eq_self.mpr fun y mem => by simpa using fun same : y = x => fresh (same ▸ mem)
    rw [List.eraseDups_cons, others, ih distinct]

/-- Adding what is new comes down to leaving out all but the first appearance of every item. -/
theorem addNew_eq {xs : List String} (distinct : xs.Nodup) (ys : List String) :
    addNew xs ys = (xs ++ ys).eraseDups := by
  induction ys generalizing xs with
  | nil => rw [List.append_nil, eraseDups_of_nodup distinct, addNew, List.foldl_nil]
  | cons y ys ih =>
    rw [addNew_cons]
    split
    · rename_i known
      rw [ih distinct, List.eraseDups_append, List.eraseDups_append, List.cons_removeAll,
        if_neg (by simpa using known)]
    · rename_i fresh
      rw [ih (List.concat_eq_append ▸ distinct.concat fresh), List.append_assoc,
        List.singleton_append]

theorem addNew_nil (ys : List String) : addNew [] ys = ys.eraseDups := addNew_eq List.nodup_nil ys

theorem eraseDups_nodup (ys : List String) : ys.eraseDups.Nodup :=
  addNew_nil ys ▸ addNew_nodup List.nodup_nil ys

theorem foldl_addNew {α : Type} (f : α → List String) (xs : List String) (as : List α) :
    as.foldl (fun xs a => addNew xs (f a)) xs = addNew xs (as.flatMap f) := by
  induction as generalizing xs with
  | nil => rfl
  | cons a as ih => rw [List.foldl_cons, ih, List.flatMap_cons, addNew_append]

namespace Entries

variable {α : Type}

theorem get?_eq_none {k : String} {es : List (String × α)} : get? k es = none ↔ k ∉ keys es := by
  rw [← get?_isSome_iff, Bool.not_eq_true, Option.isSome_eq_false_iff, Option.isNone_iff_eq_none]

theorem get?_map_find? {β : Type} (key : β → String) (k : String) (xs : List β) :
    get? k (xs.map fun x => (key x, x)) = xs.find? fun x => key x == k := by
  induction xs with
  | nil => rfl
  | cons x xs ih =>
    rw [List.map_cons, get?, List.find?_cons, ih]
    by_cases here : key x = k
    · rw [if_pos here, beq_iff_eq.mpr here]
    · rw [if_neg here, beq_eq_false_iff_ne.mpr here]

end Entries

namespace OrderedMap

variable {α : Type}

/-! ### One layer over another -/

theorem keys_insertNew (m : OrderedMap α) (k : String) (v : α) :
    (m.insertNew k v).keys = if k ∈ m.keys then m.keys else m.keys ++ [k] := by
  rw [insertNew]
  by_cases known : k ∈ m.keys
  · rw [if_pos ((contains_iff m k).mpr known), if_pos known]
  · rw [if_neg (mt (contains_iff m k).mp known), keys_insert]

theorem get?_insertNew (m : OrderedMap α) (k k' : String) (v : α) :
    (m.insertNew k v).get? k' = (m.get? k').or (if k = k' then some v else none) := by
  rw [insertNew]
  by_cases known : m.contains k
  · rw [if_pos known]
    by_cases same : k = k'
    · subst same
      obtain ⟨w, there⟩ := Option.isSome_iff_exists.mp known
      simp [there]
    · simp [same]
  · rw [if_neg known, get?_insert]
    by_cases same : k = k'
    · subst same
      have none : m.get? k = none := by simpa [contains] using known
      simp [none]
    · simp [same]

theorem keys_insertAll (m n : OrderedMap α) : (m.insertAll n).keys = addNew m.keys n.keys := by
  obtain ⟨es, distinct⟩ := n
  change (es.foldl (fun m e => m.insert e.1 e.2) m).keys = addNew m.keys (Entries.keys es)
  clear distinct
  induction es generalizing m with
  | nil => rfl
  | cons e es ih =>
    obtain ⟨k, v⟩ := e
    rw [List.foldl_cons, ih, keys_insert]
    exact (addNew_cons ..).symm

theorem keys_insertAllNew (m n : OrderedMap α) :
    (m.insertAllNew n).keys = addNew m.keys n.keys := by
  obtain ⟨es, distinct⟩ := n
  change (es.foldl (fun m e => m.insertNew e.1 e.2) m).keys = addNew m.keys (Entries.keys es)
  clear distinct
  induction es generalizing m with
  | nil => rfl
  | cons e es ih =>
    obtain ⟨k, v⟩ := e
    rw [List.foldl_cons, ih, keys_insertNew]
    exact (addNew_cons ..).symm

/-- The layer on top wins. -/
theorem get?_insertAll (m n : OrderedMap α) (k : String) :
    (m.insertAll n).get? k = (n.get? k).or (m.get? k) := by
  obtain ⟨es, distinct⟩ := n
  change (es.foldl (fun m e => m.insert e.1 e.2) m).get? k = (Entries.get? k es).or (m.get? k)
  induction es generalizing m with
  | nil => rfl
  | cons e es ih =>
    obtain ⟨k', v⟩ := e
    obtain ⟨fresh, distinct⟩ := List.nodup_cons.mp distinct
    rw [List.foldl_cons, ih _ distinct, get?_insert, Entries.get?]
    by_cases same : k' = k
    · subst same
      rw [if_pos rfl, if_pos rfl, Entries.get?_eq_none.mpr fresh]
      rfl
    · rw [if_neg same, if_neg same]

theorem get?_insertAll_absent (m : OrderedMap α) {n : OrderedMap α} {k : String}
    (absent : k ∉ n.keys) : (m.insertAll n).get? k = m.get? k := by
  have none : n.get? k = none := Entries.get?_eq_none.mpr absent
  rw [get?_insertAll, none, Option.none_or]

/-- The layer below wins. -/
theorem get?_insertAllNew (m n : OrderedMap α) (k : String) :
    (m.insertAllNew n).get? k = (m.get? k).or (n.get? k) := by
  obtain ⟨es, distinct⟩ := n
  change (es.foldl (fun m e => m.insertNew e.1 e.2) m).get? k = (m.get? k).or (Entries.get? k es)
  clear distinct
  induction es generalizing m with
  | nil => exact (Option.or_none).symm
  | cons e es ih =>
    obtain ⟨k', v⟩ := e
    rw [List.foldl_cons, ih, get?_insertNew, Entries.get?, Option.or_assoc]
    by_cases same : k' = k
    · rw [if_pos same, if_pos same, Option.some_or]
    · rw [if_neg same, if_neg same, Option.none_or]

theorem shared?_eq_none {m n : OrderedMap α} :
    m.shared? n = none ↔ m.keys.Disjoint n.keys := by
  rw [shared?, List.find?_eq_none]
  simp only [contains_iff]
  exact ⟨fun h k mem mem' => h k mem' mem, fun h k mem' mem => h mem mem'⟩

/-- Where no key is on both layers, it does not matter which one wins. -/
theorem insertAll_of_disjoint {m n : OrderedMap α} (apart : m.keys.Disjoint n.keys) :
    m.insertAll n = m.insertAllNew n := by
  obtain ⟨es, distinct⟩ := n
  change es.foldl (fun m e => m.insert e.1 e.2) m = es.foldl (fun m e => m.insertNew e.1 e.2) m
  induction es generalizing m with
  | nil => rfl
  | cons e es ih =>
    obtain ⟨k, v⟩ := e
    obtain ⟨fresh, distinct⟩ := List.nodup_cons.mp distinct
    have new : k ∉ m.keys := fun mem => apart mem List.mem_cons_self
    have same : m.insertNew k v = m.insert k v := if_neg (mt (contains_iff m k).mp new)
    rw [List.foldl_cons, List.foldl_cons, same]
    refine ih distinct fun k' mem mem' => ?_
    rw [keys_insert, if_neg new] at mem
    rcases List.mem_append.mp mem with mem | mem
    · exact apart mem (List.mem_cons_of_mem _ mem')
    · obtain rfl := List.mem_singleton.mp mem
      exact fresh mem'

theorem entries_foldl_insert {es : List (String × α)} {m : OrderedMap α}
    (fresh : (m.keys ++ Entries.keys es).Nodup) :
    (es.foldl (fun m e => m.insert e.1 e.2) m).entries = m.entries ++ es := by
  induction es generalizing m with
  | nil => exact (List.append_nil _).symm
  | cons e es ih =>
    obtain ⟨entries, fresh⟩ := insert_next (w := e.2) fresh
    rw [List.foldl_cons, ih fresh, entries, List.append_assoc, List.singleton_append]

theorem entries_ofList {es : List (String × α)} (distinct : (Entries.keys es).Nodup) :
    (ofList es).entries = es := entries_foldl_insert (m := ∅) distinct

theorem entries_ofList_keyed {key : α → String} {xs : List α} (distinct : (xs.map key).Nodup) :
    (ofList (xs.map fun x => (key x, x))).entries = xs.map fun x => (key x, x) :=
  entries_ofList (by simpa [Entries.keys, Function.comp_def] using distinct)

theorem keys_ofList_keyed {key : α → String} {xs : List α} (distinct : (xs.map key).Nodup) :
    (ofList (xs.map fun x => (key x, x))).keys = xs.map key := by
  rw [keys, entries_ofList_keyed distinct]
  simp [Entries.keys, Function.comp_def]

/-! ### Many layers -/

theorem keys_foldl_insertAllNew (ms : List (OrderedMap α)) (m : OrderedMap α) :
    (ms.foldl insertAllNew m).keys = addNew m.keys (ms.flatMap keys) := by
  induction ms generalizing m with
  | nil => rfl
  | cons n ms ih =>
    rw [List.foldl_cons, ih, keys_insertAllNew, List.flatMap_cons, addNew_append]

theorem get?_foldl_insertAllNew (ms : List (OrderedMap α)) (m : OrderedMap α) (k : String) :
    (ms.foldl insertAllNew m).get? k = (m.get? k).or (ms.findSome? (·.get? k)) := by
  induction ms generalizing m with
  | nil => exact (Option.or_none).symm
  | cons n ms ih =>
    rw [List.foldl_cons, ih, get?_insertAllNew, List.findSome?_cons, Option.or_assoc]
    cases n.get? k <;> rfl

/-- A key has its own value, or else that of the first layer below that has one; keys stand where
they first appear, counted from the lowest layer. -/
structure Overrides (m : OrderedMap α) (own : List (String × α)) (below : List (OrderedMap α)) :
    Prop where
  get? : ∀ k, m.get? k = (Entries.get? k own).or (below.findSome? (·.get? k))
  keys : m.keys = (below.flatMap (·.keys) ++ own.map (·.1)).eraseDups

theorem overrides_insertAll (ms : List (OrderedMap α)) (own : OrderedMap α) :
    ((ms.foldl insertAllNew ∅).insertAll own).Overrides own.entries ms where
  get? := fun k => by
    rw [get?_insertAll, get?_foldl_insertAllNew]
    rfl
  keys := by
    rw [keys_insertAll, keys_foldl_insertAllNew, ← addNew_append]
    exact addNew_nil _

end OrderedMap

end Blueprint
