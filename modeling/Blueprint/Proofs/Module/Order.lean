import Blueprint.Proofs.Data.Partners
import Blueprint.Proofs.Except
import Blueprint.Proofs.Module.Search
import Mathlib.Data.List.Perm.Subperm

/-!
# Bases and the order of building

Every name that a declaration extends means one other declaration. Declarations are built after
their bases, and each of them once.
-/

namespace Blueprint.Inheritance

variable {ds : List Declaration} {bs : List (List Nat)} {before : List Nat}

/-! ### Bases -/

theorem base_place {i j : Nat} {d : Declaration} {name : String} (h : base ds i d name = .ok j) :
    j < ds.length := by
  unfold base at h
  dsimp only at h
  split at h
  · cases h
  · split at h
    · rename_i single
      obtain rfl := Except.ok.inj h
      have candidate := (List.mem_filter.mp (single ▸ List.mem_singleton_self _)).1
      exact List.mem_range.mp (List.mem_filter.mp candidate).1
    · cases h

theorem bases_ok (h : bases ds = .ok bs) :
    bs.length = ds.length ∧ ∀ i d, ds[i]? = some d →
      List.Forall₂ (fun name j => base ds i d name = .ok j) d.source.bases ((bs[i]?).getD []) := by
  have each := mapM_ok h
  refine ⟨by simpa using each.length_eq.symm, fun i d here => ?_⟩
  have at_ : ds.zipIdx[i]? = some (d, i) := by simp [here]
  obtain ⟨js, there, found⟩ := getElem?_of_forall₂ each at_
  rw [there]
  exact mapM_ok found

/-! ### The order -/

/-- A declaration may be built after others. -/
structure Ready (bs : List (List Nat)) (before : List Nat) (i : Nat) : Prop where
  place : i < bs.length
  fresh : i ∉ before
  bases : ∀ j ∈ (bs[i]?).getD [], j ∈ before

/-- Declarations may be built one after another. -/
def Follows (bs : List (List Nat)) (before : List Nat) : List Nat → Prop
  | [] => True
  | i :: rest => Ready bs before i ∧ Follows bs (before ++ [i]) rest

theorem follows_append {xs ys : List Nat} :
    Follows bs before (xs ++ ys) ↔ Follows bs before xs ∧ Follows bs (before ++ xs) ys := by
  induction xs generalizing before with
  | nil => simp [Follows]
  | cons x xs ih =>
    rw [List.cons_append, Follows, ih, Follows, and_assoc, List.append_assoc,
      List.singleton_append]

theorem ready_of_next? {placed : List Nat} {i : Nat} (h : next? bs placed = some i) :
    Ready bs placed i := by
  have place := List.mem_range.mp (List.mem_of_find?_eq_some h)
  have ready := List.find?_some h
  simp only [Bool.and_eq_true, Bool.not_eq_true', List.contains_eq_mem, decide_eq_false_iff_not,
    List.all_eq_true, decide_eq_true_eq] at ready
  exact ⟨place, ready.1, ready.2⟩

theorem extend_follows {placed : List Nat} (h : Follows bs [] placed) (n : Nat) :
    Follows bs [] (extend bs n placed) := by
  induction n generalizing placed with
  | zero => exact h
  | succ n ih =>
    rw [extend]
    split
    · rename_i found
      exact ih (follows_append.mpr ⟨h, ready_of_next? found, trivial⟩)
    · exact h

theorem Follows.nodup {xs : List Nat} (h : Follows bs before xs) :
    xs.Nodup ∧ before.Disjoint xs := by
  induction xs generalizing before with
  | nil => exact ⟨.nil, List.disjoint_nil_right _⟩
  | cons x xs ih =>
    obtain ⟨ready, rest⟩ := h
    obtain ⟨distinct, apart⟩ := ih rest
    obtain ⟨apart, new⟩ := List.disjoint_append_left.mp apart
    exact ⟨List.nodup_cons.mpr ⟨List.singleton_disjoint.mp new, distinct⟩,
      List.disjoint_cons_right.mpr ⟨ready.fresh, apart⟩⟩

theorem Follows.places {xs : List Nat} (h : Follows bs before xs) : ∀ i ∈ xs, i < bs.length := by
  induction xs generalizing before with
  | nil => exact List.forall_mem_nil _
  | cons x xs ih => exact List.forall_mem_cons.mpr ⟨h.1.place, ih h.2⟩

/-- What holds of a declaration whenever it holds of its bases holds of all in an order. -/
theorem Follows.each {P : Nat → Prop} {xs : List Nat} (h : Follows bs before xs)
    (start : ∀ j ∈ before, P j)
    (step : ∀ i < bs.length, (∀ j ∈ (bs[i]?).getD [], P j) → P i) : ∀ i ∈ xs, P i := by
  induction xs generalizing before with
  | nil => exact List.forall_mem_nil _
  | cons x xs ih =>
    obtain ⟨ready, rest⟩ := h
    have here : P x := step x ready.place fun j mem => start j (ready.bases j mem)
    refine List.forall_mem_cons.mpr ⟨here, ih rest ?_⟩
    exact List.forall_mem_append.mpr ⟨start, List.forall_mem_singleton.mpr here⟩

theorem order_eq (ds : List Declaration) (bs : List (List Nat)) : order ds bs =
    if (extend bs bs.length []).length = bs.length then .ok (extend bs bs.length [])
    else .error (.validation "module" (.inheritanceCycle
      ((ds.zipIdx.filter fun (_, i) => !(extend bs bs.length []).contains i).map fun (d, _) =>
        d.key))) := by
  rw [order, search_placed]

/-- An order lists all declarations, each after its bases. -/
theorem order_ok {placed : List Nat} (h : order ds bs = .ok placed) :
    Follows bs [] placed ∧ placed.Perm (List.range bs.length) := by
  rw [order_eq] at h
  split at h
  · rename_i all
    obtain rfl := Except.ok.inj h
    have start : Follows bs [] [] := trivial
    have follows := extend_follows start bs.length
    have inside : extend bs bs.length [] ⊆ List.range bs.length :=
      fun i mem => List.mem_range.mpr (follows.places i mem)
    refine ⟨follows, (follows.nodup.1.subperm inside).perm_of_length_le ?_⟩
    exact Nat.le_of_eq (List.length_range.trans all.symm)
  · cases h

end Blueprint.Inheritance
