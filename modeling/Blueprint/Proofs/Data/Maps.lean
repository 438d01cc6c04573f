import Blueprint.Data.OrderedMap
import Blueprint.Proofs.Except
import Mathlib.Data.List.Nodup

/-!
# Maps and what is made of them

Maps whose values are all replaced, and maps that a computation fills entry by entry.
-/

namespace Blueprint

/-- Where keys differ, an item is the first one of its key. -/
theorem find?_of_nodup {α κ : Type} [BEq κ] [LawfulBEq κ] {key : α → κ} {xs : List α}
    (distinct : (xs.map key).Nodup) {x : α} (mem : x ∈ xs) {k : κ} (at_ : key x = k) :
    (xs.find? fun y => key y == k) = some x := by
  cases first : xs.find? fun y => key y == k with
  | none => exact (List.find?_eq_none.mp first x mem (by simp [at_])).elim
  | some y =>
    have same : key y = key x := by
      rw [at_]
      simpa using List.find?_some first
    rw [List.inj_on_of_nodup_map distinct (List.mem_of_find?_eq_some first) mem same]

/-- Where keys differ, an item is the only one of its key. -/
theorem filter_of_nodup {α κ : Type} [BEq κ] [LawfulBEq κ] {key : α → κ} {xs : List α}
    (distinct : (xs.map key).Nodup) {x : α} (mem : x ∈ xs) {k : κ} (at_ : key x = k) :
    (xs.filter fun y => key y == k) = [x] := by
  induction xs with
  | nil => cases mem
  | cons y ys ih =>
    obtain ⟨fresh, distinct⟩ := List.nodup_cons.mp distinct
    rcases List.mem_cons.mp mem with rfl | mem
    · rw [List.filter_cons_of_pos (by simpa using at_)]
      refine congrArg _ (List.filter_eq_nil_iff.mpr fun z inside same => fresh ?_)
      rw [at_, ← eq_of_beq same]
      exact List.mem_map_of_mem inside
    · have other : key y ≠ k := by
        rintro rfl
        exact fresh (at_ ▸ List.mem_map_of_mem mem)
      rw [List.filter_cons_of_neg (by simpa using other), ih distinct mem]

namespace Entries

variable {α β : Type} {k : String} {v : α} {es : List (String × α)}

theorem mem_of_get? (h : get? k es = some v) : (k, v) ∈ es := by
  induction es with
  | nil => cases h
  | cons e es ih =>
    rw [get?] at h
    split at h
    · rename_i same
      exact same ▸ Option.some.inj h ▸ List.mem_cons_self
    · exact List.mem_cons_of_mem _ (ih h)

theorem get?_of_mem (distinct : (keys es).Nodup) (mem : (k, v) ∈ es) : get? k es = some v := by
  induction es with
  | nil => cases mem
  | cons e es ih =>
    obtain ⟨fresh, distinct⟩ := List.nodup_cons.mp distinct
    rw [get?]
    rcases List.mem_cons.mp mem with rfl | mem
    · exact if_pos rfl
    · have other : e.1 ≠ k := by
        rintro rfl
        exact fresh (List.mem_map.mpr ⟨_, mem, rfl⟩)
      rw [if_neg other, ih distinct mem]

theorem put_fresh (fresh : k ∉ keys es) : put k v es = es ++ [(k, v)] := by
  induction es with
  | nil => rfl
  | cons e es ih =>
    have apart := List.ne_of_not_mem_cons fresh
    rw [put, if_neg fun same => apart same.symm, ih (List.not_mem_of_not_mem_cons fresh)]
    rfl

theorem get?_map_of_fst {f : String × α → String × β} (keeps : ∀ e, (f e).1 = e.1)
    (es : List (String × α)) : get? k (es.map f) = (get? k es).map fun v => (f (k, v)).2 := by
  induction es with
  | nil => rfl
  | cons e es ih =>
    obtain ⟨k', v⟩ := e
    have same : f (k', v) = (k', (f (k', v)).2) := Prod.ext (keeps (k', v)) rfl
    rw [List.map_cons, same, get?, get?, ih]
    split
    · rename_i here
      rw [here]
      rfl
    · rfl

theorem get?_map (f : α → β) (k : String) (es : List (String × α)) :
    get? k (es.map fun e => (e.1, f e.2)) = (get? k es).map f :=
  get?_map_of_fst (f := fun e => (e.1, f e.2)) (fun _ => rfl) es

end Entries

namespace OrderedMap

variable {ε α β : Type} {f : α → Except ε β}

theorem ext {m n : OrderedMap α} (h : m.entries = n.entries) : m = n := by
  cases m
  cases n
  cases h
  rfl

/-! ### Replacing the values -/

theorem get?_mapValues (f : α → β) (m : OrderedMap α) (k : String) :
    (m.mapValues f).get? k = (m.get? k).map f :=
  Entries.get?_map f k m.entries

theorem keys_mapValues (f : α → β) (m : OrderedMap α) : (m.mapValues f).keys = m.keys := by
  simp [keys, Entries.keys, mapValues, Function.comp_def]

theorem values_mapValues (f : α → β) (m : OrderedMap α) :
    (m.mapValues f).values = m.values.map f := by
  simp [values, mapValues, Function.comp_def]

theorem contains_mapValues (f : α → β) (m : OrderedMap α) (k : String) :
    (m.mapValues f).contains k = m.contains k := by
  simp [contains, get?_mapValues]

/-! ### Filling a map -/

/-- Inserts every value after a computation. -/
def fill (f : α → Except ε β) (es : List (String × α)) (m : OrderedMap β) :
    Except ε (OrderedMap β) :=
  es.foldlM (fun m (k, v) => do return m.insert k (← f v)) m

theorem fill_all {es : List (String × α)} {m m' : OrderedMap β} (h : fill f es m = .ok m') :
    ∀ e ∈ es, ∃ v, f e.2 = .ok v := by
  induction es generalizing m with
  | nil => simp
  | cons e es ih =>
    obtain ⟨next, first, rest⟩ := bind_ok h
    obtain ⟨v, computed, -⟩ := bind_ok first
    exact List.forall_mem_cons.mpr ⟨⟨v, computed⟩, ih rest⟩

theorem insert_next {k : String} {v : α} {w : β} {es : List (String × α)} {m : OrderedMap β}
    (fresh : (m.keys ++ Entries.keys ((k, v) :: es)).Nodup) :
    (m.insert k w).entries = m.entries ++ [(k, w)] ∧
      ((m.insert k w).keys ++ Entries.keys es).Nodup := by
  have shift : m.keys ++ Entries.keys ((k, v) :: es) = m.keys ++ [k] ++ Entries.keys es := by
    simp [Entries.keys]
  rw [shift] at fresh
  have new : k ∉ m.keys := fun mem =>
    (List.nodup_append.mp fresh.of_append_left).2.2 k mem k (by simp) rfl
  have keys : (m.insert k w).keys = m.keys ++ [k] := by rw [OrderedMap.keys_insert, if_neg new]
  exact ⟨Entries.put_fresh new, keys ▸ fresh⟩

theorem fill_ok {g : α → β} {es : List (String × α)} {m : OrderedMap β}
    (each : ∀ e ∈ es, f e.2 = .ok (g e.2)) (fresh : (m.keys ++ Entries.keys es).Nodup) :
    ∃ m', fill f es m = .ok m' ∧ m'.entries = m.entries ++ es.map fun e => (e.1, g e.2) := by
  induction es generalizing m with
  | nil => exact ⟨m, rfl, by simp⟩
  | cons e es ih =>
    obtain ⟨k, v⟩ := e
    obtain ⟨first, rest⟩ := List.forall_mem_cons.mp each
    obtain ⟨entries, fresh⟩ := insert_next (w := g v) fresh
    obtain ⟨m', filled, same⟩ := ih (m := m.insert k (g v)) rest fresh
    refine ⟨m', ?_, ?_⟩
    · rw [fill, List.foldlM_cons]
      dsimp only at first ⊢
      rw [first]
      exact filled
    · rw [same, entries]
      simp

theorem fill_mapValues {g : α → β} {m : OrderedMap α}
    (each : ∀ e ∈ m.entries, f e.2 = .ok (g e.2)) :
    fill f m.entries ∅ = .ok (m.mapValues g) := by
  obtain ⟨m', filled, same⟩ := fill_ok (m := ∅) each m.nodup
  rw [filled, ext (m := m') (n := m.mapValues g) same]

end OrderedMap

end Blueprint
