import Blueprint.Proofs.Module.Order
import Mathlib.Data.List.Nodup
import Mathlib.Logic.Equiv.Defs

/-!
# Declarations in other places

The places of declarations break no tie: a name means the same declaration wherever declarations
stand, and if they can be built in some order, an order is found for them in all places.
-/

namespace Blueprint.Inheritance

variable {π : Equiv.Perm Nat} {ds ds' : List Declaration} {bs bs' : List (List Nat)}

/-! ### Bases -/

theorem mem_candidates {i j : Nat} {kind : EntityKind} {name : String} :
    j ∈ candidates ds i kind name ↔ j ≠ i ∧ ∃ d, ds[j]? = some d ∧ offers d kind name = true := by
  rw [candidates, List.mem_filter, Bool.and_eq_true, decide_eq_true_eq, Option.any_eq_true,
    List.mem_range]
  constructor
  · rintro ⟨-, apart, d, here, offered⟩
    exact ⟨apart, d, here, offered⟩
  · rintro ⟨apart, d, here, offered⟩
    exact ⟨(List.getElem?_eq_some_iff.mp here).1, apart, d, here, offered⟩

theorem candidates_nodup (ds : List Declaration) (i : Nat) (kind : EntityKind) (name : String) :
    (candidates ds i kind name).Nodup :=
  List.nodup_range.filter _

theorem min?_perm {xs ys : List Nat} (h : xs.Perm ys) : xs.min? = ys.min? :=
  Option.ext fun a => by simp only [List.min?_eq_some_iff, h.mem_iff]

section Places

variable (places : ∀ i, ds'[π i]? = ds[i]?)

include places

theorem candidates_moved (i : Nat) (kind : EntityKind) (name : String) :
    (candidates ds' (π i) kind name).Perm ((candidates ds i kind name).map π) := by
  refine (List.perm_ext_iff_of_nodup (candidates_nodup ..)
    ((candidates_nodup ds i kind name).map π.injective)).mpr fun j' => ?_
  obtain ⟨j, rfl⟩ := π.surjective j'
  rw [List.mem_map_of_injective π.injective, mem_candidates, mem_candidates, places,
    π.injective.ne_iff]

theorem depthAt?_moved (i : Nat) : depthAt? ds' (π i) = depthAt? ds i := by
  rw [depthAt?, places, depthAt?]

theorem base_moved (i : Nat) (d : Declaration) (name : String) :
    base ds' (π i) d name = (base ds i d name).map π := by
  have candidates := candidates_moved places i d.kind name
  unfold base
  dsimp only
  generalize Inheritance.candidates ds i d.kind name = found at candidates ⊢
  have depths : (depthAt? ds' ∘ π) = depthAt? ds := funext (depthAt?_moved places)
  have nearest : (found.map π |>.filterMap (depthAt? ds')).min? =
      (found.filterMap (depthAt? ds)).min? := by rw [List.filterMap_map, depths]
  rw [min?_perm (candidates.filterMap _), nearest]
  split
  · rfl
  · rename_i depth least
    have same : (found.map π).filter (fun j => depthAt? ds' j = some depth) =
        (found.filter fun j => depthAt? ds j = some depth).map π := by
      simp only [List.filter_map, Function.comp_def, depthAt?_moved places]
    have perm := candidates.filter fun j => depthAt? ds' j = some depth
    rw [same] at perm
    generalize (found.filter fun j => depthAt? ds j = some depth) = near at perm ⊢
    generalize (Inheritance.candidates ds' (π i) d.kind name).filter
      (fun j => depthAt? ds' j = some depth) = near' at perm ⊢
    rcases near with _ | ⟨j, _ | ⟨k, rest⟩⟩
    · rw [perm.eq_nil]
      rfl
    · rw [List.perm_singleton.mp perm]
      rfl
    · rcases near' with _ | ⟨j', _ | ⟨k', rest'⟩⟩
      · cases perm.symm.eq_nil
      · cases perm.length_eq
      · dsimp only
        rw [perm.length_eq, List.length_map]
        rfl

theorem inside_moved (i : Nat) : π i < ds'.length ↔ i < ds.length := by
  rw [← Nat.not_le, ← List.getElem?_eq_none_iff, places, List.getElem?_eq_none_iff, Nat.not_le]

/-- The bases of all declarations, which are in other places now. -/
theorem bases_moved (h : bases ds = .ok bs) :
    ∃ bs', bases ds' = .ok bs' ∧ ∀ i, (bs'[π i]?).getD [] = ((bs[i]?).getD []).map π := by
  obtain ⟨length, found⟩ := bases_ok h
  let moved := fun i => ((bs[π.symm i]?).getD []).map π
  refine ⟨(List.range ds'.length).map moved, mapM_of_forall₂ (List.forall₂_iff_get.mpr
    ⟨by simp, fun j here there => ?_⟩), fun i => ?_⟩
  · obtain ⟨i, rfl⟩ := π.surjective j
    have inside : π i < ds'.length := by simpa using here
    have at_ : ds[i]? = some ds'[π i] := (places i).symm.trans (List.getElem?_eq_getElem inside)
    have each := mapM_of_forall₂ (List.forall₂_map_right_iff.mpr ((found i _ at_).imp
      (fun name k ok => show base ds' (π i) ds'[π i] name = .ok (π k) by
        rw [base_moved places, ok]; rfl)))
    simpa [moved] using each
  · by_cases inside : i < ds.length
    · simp [moved, (inside_moved places i).mpr inside]
    · have outside := mt (inside_moved places i).mp inside
      rw [List.getElem?_eq_none (by simpa using outside),
        List.getElem?_eq_none (by rw [length]; exact Nat.le_of_not_lt inside)]
      rfl

end Places

/-! ### The order -/

section Bases

variable (bases : ∀ i, (bs'[π i]?).getD [] = ((bs[i]?).getD []).map π)
  (inside : ∀ i, π i < bs'.length ↔ i < bs.length)

include bases inside

theorem Ready.moved {before : List Nat} {i : Nat} (h : Ready bs before i) :
    Ready bs' (before.map π) (π i) where
  place := (inside i).mpr h.place
  fresh := mt (List.mem_map_of_injective π.injective).mp h.fresh
  bases := by
    rw [bases]
    exact List.forall_mem_map.mpr fun j mem => List.mem_map_of_mem (h.bases j mem)

theorem Follows.moved {before order : List Nat} (h : Follows bs before order) :
    Follows bs' (before.map π) (order.map π) := by
  induction order generalizing before with
  | nil => trivial
  | cons i order ih =>
    refine ⟨h.1.moved bases inside, ?_⟩
    have rest := ih h.2
    rwa [List.map_append] at rest

end Bases

/-- As long as declarations are missing of an order that there is, one of them can be placed. -/
theorem next?_of_follows {before rest placed : List Nat} (all : Follows bs before rest)
    (done : ∀ j ∈ before, j ∈ placed) (missing : ∃ i ∈ rest, i ∉ placed) :
    ∃ i, next? bs placed = some i := by
  induction rest generalizing before with
  | nil =>
    obtain ⟨_, mem, -⟩ := missing
    cases mem
  | cons x rest ih =>
    obtain ⟨ready, all⟩ := all
    by_cases here : x ∈ placed
    · refine ih all (List.forall_mem_append.mpr ⟨done, List.forall_mem_singleton.mpr here⟩) ?_
      obtain ⟨i, mem, fresh⟩ := missing
      rcases List.mem_cons.mp mem with rfl | mem
      · exact absurd here fresh
      · exact ⟨i, mem, fresh⟩
    · refine Option.isSome_iff_exists.mp (List.find?_isSome.mpr
        ⟨x, List.mem_range.mpr ready.place, ?_⟩)
      simp only [Bool.and_eq_true, Bool.not_eq_true', List.contains_eq_mem, decide_eq_false_iff_not,
        List.all_eq_true, decide_eq_true_eq]
      exact ⟨here, fun j mem => done j (ready.bases j mem)⟩

theorem extend_length {order placed : List Nat} (all : Follows bs [] order)
    (whole : order.Perm (List.range bs.length)) (follows : Follows bs [] placed) {n : Nat}
    (room : placed.length + n ≤ bs.length) :
    (extend bs n placed).length = placed.length + n := by
  induction n generalizing placed with
  | zero => rfl
  | succ n ih =>
    have missing : ∃ i ∈ order, i ∉ placed := by
      by_contra complete
      have inside : order ⊆ placed := fun i mem => by
        by_contra fresh
        exact complete ⟨i, mem, fresh⟩
      have few := (all.nodup.1.subperm inside).length_le
      rw [whole.length_eq, List.length_range] at few
      omega
    obtain ⟨i, found⟩ := next?_of_follows all (List.forall_mem_nil _) missing
    have next : Follows bs [] (placed ++ [i]) :=
      follows_append.mpr ⟨follows, ready_of_next? found, trivial⟩
    have longer := ih next (by rw [List.length_append, List.length_singleton]; omega)
    rw [extend, found]
    dsimp only
    rw [longer, List.length_append, List.length_singleton]
    omega

/-- If declarations can be built in some order, an order is found. -/
theorem order_of_follows {order : List Nat} (all : Follows bs [] order)
    (whole : order.Perm (List.range bs.length)) (ds : List Declaration) :
    ∃ placed, Inheritance.order ds bs = .ok placed := by
  have start : Follows bs [] [] := trivial
  have full := extend_length all whole start (Nat.le_of_eq (Nat.zero_add bs.length))
  rw [List.length_nil, Nat.zero_add] at full
  rw [order_eq]
  exact ⟨_, if_pos full⟩

end Blueprint.Inheritance
