import Blueprint.Proofs.Module.Load
import Blueprint.Proofs.Module.Nearest
import Mathlib.Data.Fintype.Pigeonhole
import Mathlib.Logic.Relation

/-!
# Inheritance without cycles

Declarations can be ordered exactly if none of them extends itself, through any number of others.
`order_exact` says which order is taken then, what is named otherwise, and that whatever is built in
that order finds all its bases.
-/

namespace Blueprint

open Relation

namespace Inheritance

def Acyclic (ds : List Declaration) : Prop := ∀ i, ¬TransGen (Extends ds) i i

/-- From the declaration at `i`, one that extends itself can be reached. -/
def ReachesCycle (ds : List Declaration) (i : Nat) : Prop :=
  ∃ j, ReflTransGen (Extends ds) i j ∧ TransGen (Extends ds) j j

/-- All places, each after those of the declarations that the one there extends. -/
structure Ordered (ds : List Declaration) (xs : List Nat) : Prop where
  all : xs.Perm (List.range ds.length)
  after : ∀ before i rest, xs = before ++ i :: rest → ∀ j, Extends ds i j → j ∈ before

variable {ds : List Declaration} {bs : List (List Nat)} {before placed rest : List Nat} {i : Nat}

/-! ### Orders -/

theorem follows_iff {xs : List Nat} : Follows bs before xs ↔
    ∀ mid i rest, xs = mid ++ i :: rest → Ready bs (before ++ mid) i := by
  induction xs generalizing before with
  | nil => simp [Follows]
  | cons x xs ih =>
    rw [Follows, ih]
    constructor
    · rintro ⟨first, others⟩ mid i rest split
      cases mid with
      | nil =>
        obtain ⟨rfl, -⟩ := List.cons.inj split
        simpa using first
      | cons y mid =>
        obtain ⟨rfl, behind⟩ := List.cons.inj split
        simpa using others mid i rest behind
    · intro each
      refine ⟨by simpa using each [] x xs rfl, fun mid i rest split => ?_⟩
      simpa using each (x :: mid) i rest (by rw [split, List.cons_append])

theorem ordered_iff (h : bases ds = .ok bs) {xs : List Nat} :
    Ordered ds xs ↔ Follows bs [] xs ∧ xs.Perm (List.range bs.length) := by
  obtain ⟨length, -⟩ := bases_ok h
  rw [length]
  constructor
  · rintro ⟨all, after⟩
    refine ⟨follows_iff.mpr fun mid i rest split => ?_, all⟩
    have distinct : (mid ++ i :: rest).Nodup := split ▸ all.nodup_iff.mpr List.nodup_range
    refine ⟨?_, ?_, fun j mem => after mid i rest split j ((mem_bases_iff h).mp mem)⟩
    · rw [length]
      exact List.mem_range.mp (all.mem_iff.mp (split ▸ by simp))
    · intro earlier
      exact (List.nodup_append.mp distinct).2.2 i earlier i List.mem_cons_self rfl
  · rintro ⟨follows, all⟩
    refine ⟨all, fun mid i rest split j extended => ?_⟩
    exact (follows_iff.mp follows mid i rest split).bases j ((mem_bases_iff h).mpr extended)

/-! ### The least order -/

theorem extend_append (bs : List (List Nat)) (n : Nat) (placed : List Nat) :
    ∃ more, extend bs n placed = placed ++ more := by
  induction n generalizing placed with
  | zero => exact ⟨[], (List.append_nil placed).symm⟩
  | succ n ih =>
    rw [extend]
    split
    · rename_i i _
      obtain ⟨more, same⟩ := ih (placed ++ [i])
      exact ⟨i :: more, by rw [same, List.append_assoc, List.singleton_append]⟩
    · exact ⟨[], (List.append_nil placed).symm⟩

theorem next?_least (ready : Ready bs placed i) : ∃ j ≤ i, next? bs placed = some j := by
  have accepted : (!placed.contains i && ((bs[i]?).getD []).all placed.contains) = true := by
    simpa using ⟨ready.fresh, ready.bases⟩
  cases found : next? bs placed with
  | none =>
    exact (List.find?_eq_none.mp found i (List.mem_range.mpr ready.place) accepted).elim
  | some j =>
    refine ⟨j, ?_, rfl⟩
    obtain ⟨-, -, first⟩ := List.find?_range_eq_some.mp found
    by_contra later
    have refused := first i (by omega)
    rw [accepted] at refused
    cases refused

/-- At the first place where another order differs, it takes a later declaration. -/
theorem extend_least (follows : Follows bs before rest) :
    ∃ mine, extend bs rest.length before = before ++ mine ∧
      (mine = rest ∨ List.Lex (· < ·) mine rest) := by
  induction rest generalizing before with
  | nil => exact ⟨[], (List.append_nil before).symm, .inl rfl⟩
  | cons x rest ih =>
    obtain ⟨ready, follows⟩ := follows
    obtain ⟨i, least, found⟩ := next?_least ready
    rw [List.length_cons, extend, found]
    dsimp only
    rcases Nat.lt_or_eq_of_le least with smaller | rfl
    · obtain ⟨more, same⟩ := extend_append bs rest.length (before ++ [i])
      exact ⟨i :: more, by rw [same, List.append_assoc, List.singleton_append], .inr (.rel smaller)⟩
    · obtain ⟨mine, same, compared⟩ := ih follows
      refine ⟨i :: mine, by rw [same, List.append_assoc, List.singleton_append], ?_⟩
      exact compared.imp (congrArg _) .cons

/-! ### What is left -/

/-- The search goes on until no declaration is ready. -/
theorem extend_stuck (follows : Follows bs [] placed) {n : Nat}
    (room : bs.length ≤ placed.length + n) : next? bs (extend bs n placed) = none := by
  induction n generalizing placed with
  | zero =>
    cases found : next? bs placed with
    | none => exact found
    | some i =>
      have ready := ready_of_next? found
      have longer : Follows bs [] (placed ++ [i]) := follows_append.mpr ⟨follows, ready, trivial⟩
      have inside : placed ++ [i] ⊆ List.range bs.length :=
        fun j mem => List.mem_range.mpr (longer.places j mem)
      have few := (longer.nodup.1.subperm inside).length_le
      rw [List.length_range, List.length_append, List.length_singleton] at few
      omega
  | succ n ih =>
    rw [extend]
    split
    · rename_i i found
      refine ih (follows_append.mpr ⟨follows, ready_of_next? found, trivial⟩) ?_
      rw [List.length_append, List.length_singleton]
      omega
    · assumption

/-- Where everything that is left goes on to something that is left, it goes round in the end. -/
theorem reaches_cycle {R : Nat → Nat → Prop} {P : Nat → Prop} {n : Nat}
    (bound : ∀ i, P i → i < n) (next : ∀ i, P i → ∃ j, P j ∧ R i j) (here : P i) :
    ∃ j, ReflTransGen R i j ∧ TransGen R j j := by
  choose! f inside step using next
  have left : ∀ k, P (f^[k] i) := by
    intro k
    induction k with
    | zero => exact here
    | succ k ih =>
      rw [Function.iterate_succ_apply']
      exact inside _ ih
  have walk : ∀ k m, ReflTransGen R (f^[k] i) (f^[k + m] i) := by
    intro k m
    induction m with
    | zero => exact .refl
    | succ m ih =>
      rw [← Nat.add_assoc, Function.iterate_succ_apply']
      exact ih.tail (step _ (left _))
  obtain ⟨a, b, apart, same⟩ : ∃ a b, a ≠ b ∧ f^[a] i = f^[b] i := by
    obtain ⟨a, b, apart, same⟩ := Finite.exists_ne_map_eq_of_infinite fun k =>
      (⟨f^[k] i, bound _ (left k)⟩ : Fin n)
    exact ⟨a, b, apart, congrArg Fin.val same⟩
  wlog before : a < b generalizing a b
  · exact this b a apart.symm same.symm (by omega)
  obtain ⟨m, rfl⟩ := Nat.exists_eq_add_of_lt before
  refine ⟨f^[a] i, by simpa using walk 0 a, ?_⟩
  have round := TransGen.tail' (walk a m) (step _ (left _))
  rw [← Function.iterate_succ_apply' f, ← same] at round
  exact round

theorem unplaced_reaches (h : bases ds = .ok bs) (stuck : next? bs placed = none)
    (inside : i < ds.length) (fresh : i ∉ placed) : ReachesCycle ds i := by
  obtain ⟨length, -⟩ := bases_ok h
  refine reaches_cycle (P := fun i => i < ds.length ∧ i ∉ placed) (fun _ left => left.1)
    (fun k left => ?_) ⟨inside, fresh⟩
  have refused := List.find?_eq_none.mp stuck k (List.mem_range.mpr (length ▸ left.1))
  simp only [Bool.and_eq_true, Bool.not_eq_true', List.contains_eq_mem, decide_eq_false_iff_not,
    List.all_eq_true, decide_eq_true_eq, not_and, not_forall] at refused
  obtain ⟨j, mem, missing⟩ := refused left.2
  have extended := (mem_bases_iff h).mp mem
  exact ⟨j, ⟨extended.places.2, missing⟩, extended⟩

theorem placed_reaches_not (h : bases ds = .ok bs) (follows : Follows bs [] placed) :
    ∀ i ∈ placed, ¬ReachesCycle ds i := by
  refine follows.each (List.forall_mem_nil _) fun i _ none => ?_
  rintro ⟨j, reach, round⟩
  rcases reach.cases_head with rfl | ⟨k, first, reach⟩
  · obtain ⟨k, first, back⟩ := TransGen.head'_iff.mp round
    exact none k ((mem_bases_iff h).mpr first) ⟨i, back, round⟩
  · exact none k ((mem_bases_iff h).mpr first) ⟨j, reach, round⟩

theorem mem_extend_iff (h : bases ds = .ok bs) (inside : i < ds.length) :
    i ∈ extend bs bs.length [] ↔ ¬ReachesCycle ds i := by
  have start : Follows bs [] [] := trivial
  have stuck := extend_stuck start (Nat.le_of_eq (Nat.zero_add bs.length).symm)
  constructor
  · exact placed_reaches_not h (extend_follows start _) i
  · intro none
    by_contra fresh
    exact none (unplaced_reaches h stuck inside fresh)

theorem acyclic_iff : Acyclic ds ↔ ∀ i < ds.length, ¬ReachesCycle ds i := by
  constructor
  · rintro acyclic i - ⟨j, -, round⟩
    exact acyclic j round
  · intro none i round
    obtain ⟨k, first, -⟩ := TransGen.head'_iff.mp round
    exact none i first.places.1 ⟨i, .refl, round⟩

theorem order_ok_iff (h : bases ds = .ok bs) :
    (∃ placed, order ds bs = .ok placed) ↔ Acyclic ds := by
  obtain ⟨length, -⟩ := bases_ok h
  rw [acyclic_iff]
  constructor
  · rintro ⟨placed, ordered⟩ i inside
    obtain ⟨follows, all⟩ := order_ok ordered
    exact placed_reaches_not h follows i (all.mem_iff.mpr (List.mem_range.mpr (length ▸ inside)))
  · intro none
    have start : Follows bs [] [] := trivial
    have follows := extend_follows start bs.length
    have inside : extend bs bs.length [] ⊆ List.range bs.length :=
      fun i mem => List.mem_range.mpr (follows.places i mem)
    have all : List.range bs.length ⊆ extend bs bs.length [] := by
      intro i mem
      have place : i < ds.length := length ▸ List.mem_range.mp mem
      exact (mem_extend_iff h place).mpr (none i place)
    have few := (follows.nodup.1.subperm inside).length_le
    have many := (List.nodup_range.subperm all).length_le
    rw [List.length_range] at few many
    rw [order_eq]
    exact ⟨_, if_pos (Nat.le_antisymm few many)⟩

theorem keys_of_places (ds : List Declaration) (p : Nat → Bool) :
    (((List.range ds.length).filter p).filterMap fun i => ds[i]?.map (·.key)) =
      (ds.zipIdx.filter fun (_, i) => p i).map fun (d, _) => d.key := by
  have places : ds.zipIdx.map Prod.snd = List.range ds.length := by
    rw [List.zipIdx_map_snd, List.range_eq_range']
  rw [← places, List.filter_map, List.filterMap_map]
  have found : ∀ x ∈ ds.zipIdx.filter (p ∘ Prod.snd),
      ((fun i => ds[i]?.map (·.key)) ∘ Prod.snd) x = some x.1.key := by
    intro x mem
    have here := List.mem_zipIdx_iff_getElem?.mp (List.mem_filter.mp mem).1
    simp [here]
  rw [List.filterMap_congr found, List.filterMap_eq_map']
  rfl

theorem order_error {e : CompileError} (h : bases ds = .ok bs) (failed : order ds bs = .error e) :
    ∃ left : List Nat, left.Pairwise (· < ·) ∧
      (∀ i, i ∈ left ↔ i < ds.length ∧ ReachesCycle ds i) ∧
      e = .validation "module" (.inheritanceCycle (left.filterMap fun i => ds[i]?.map (·.key))) := by
  rw [order_eq] at failed
  split at failed
  · cases failed
  · refine ⟨(List.range ds.length).filter fun i => !(extend bs bs.length []).contains i,
      List.pairwise_lt_range.filter _, fun i => ?_, ?_⟩
    · rw [List.mem_filter, List.mem_range]
      refine and_congr_right fun inside => ?_
      have placed := mem_extend_iff h inside
      simpa using not_congr placed
    · rw [← Except.error.inj failed, keys_of_places]

end Inheritance

/-! ### Building -/

/-- Builds the declaration at a place; its bases are looked up among those that were built. -/
def declareStep (files : Files) (ds : List Declaration) (bs : List (List Nat))
    (state : List (Nat × Entity) × EntityGraph) (i : Nat) :
    Except CompileError (List (Nat × Entity) × EntityGraph) :=
  match ds[i]? with
  | none => .ok state
  | some d => do
    let parents := ((bs[i]?).getD []).filterMap fun j => List.lookup j state.1
    let (g, e) ← declareBuilt files d parents state.2
    return ((i, e) :: state.1, g)

variable {files : Files} {ds : List Declaration} {bs : List (List Nat)}

theorem declareAll_eq (built : List (Nat × Entity)) (g : EntityGraph) (order : List Nat) :
    declareAll files ds bs built g order =
      (order.foldlM (declareStep files ds bs) (built, g)).map (·.2) := by
  induction order generalizing built g with
  | nil => rfl
  | cons i order ih =>
    rw [declareAll, List.foldlM_cons, declareStep]
    cases ds[i]? with
    | none => exact ih built g
    | some d =>
      dsimp only
      cases made : declareBuilt files d (((bs[i]?).getD []).filterMap (List.lookup · built)) g with
      | error e => rfl
      | ok result => exact ih _ _

theorem declareStep_built {state state' : List (Nat × Entity) × EntityGraph} {i : Nat}
    (inside : i < ds.length) (h : declareStep files ds bs state i = .ok state') :
    ∃ e, state'.1 = (i, e) :: state.1 := by
  rw [declareStep, List.getElem?_eq_getElem inside] at h
  obtain ⟨⟨g, e⟩, -, h⟩ := bind_ok h
  exact ⟨e, congrArg Prod.fst (pure_ok h)⟩

/-- After a part of an order, the declarations of that part have been built. -/
theorem declareStep_run {before : List Nat} {state state' : List (Nat × Entity) × EntityGraph}
    (inside : ∀ i ∈ before, i < ds.length)
    (h : before.foldlM (declareStep files ds bs) state = .ok state') (j : Nat)
    (known : j ∈ before ∨ ∃ e, state.1.lookup j = some e) : ∃ e, state'.1.lookup j = some e := by
  induction before generalizing state with
  | nil =>
    obtain rfl := pure_ok h
    exact known.resolve_left List.not_mem_nil
  | cons i before ih =>
    obtain ⟨first, rest⟩ := List.forall_mem_cons.mp inside
    obtain ⟨next, made, h⟩ := bind_ok h
    obtain ⟨e, built⟩ := declareStep_built first made
    refine ih rest h ?_
    by_cases same : j = i
    · exact .inr ⟨e, by rw [built, same, List.lookup_cons_self]⟩
    · refine known.imp (fun mem => (List.mem_cons.mp mem).resolve_left same) ?_
      rintro ⟨e', earlier⟩
      exact ⟨e', by rw [built, List.lookup_cons, beq_eq_false_iff_ne.mpr same]; exact earlier⟩

/-- What is found of the bases, when all of them are there. -/
theorem forall₂_lookup {built : List (Nat × Entity)} {js : List Nat}
    (all : ∀ j ∈ js, ∃ e, built.lookup j = some e) :
    List.Forall₂ (fun j e => built.lookup j = some e) js (js.filterMap (List.lookup · built)) := by
  induction js with
  | nil => exact .nil
  | cons j js ih =>
    obtain ⟨first, rest⟩ := List.forall_mem_cons.mp all
    obtain ⟨e, found⟩ := first
    rw [List.filterMap_cons_some (f := (List.lookup · built)) found]
    exact .cons found (ih rest)

/-! ### The law -/

namespace Inheritance

/-- What is known of declarations that have bases and an order. -/
structure InOrder (ds : List Declaration) (bs : List (List Nat)) (placed : List Nat) : Prop where
  bases : ∀ i d, ds[i]? = some d →
    List.Forall₂ (Nearest ds i) d.source.bases ((bs[i]?).getD [])
  ordered : Ordered ds placed
  least : ∀ other, Ordered ds other → placed = other ∨ List.Lex (· < ·) placed other
  steps : ∀ files, declareAll files ds bs [] .empty placed =
    (placed.foldlM (declareStep files ds bs) ([], .empty)).map (·.2)
  /-- No base is missing when a declaration is built. -/
  found : ∀ files before i rest built g, placed = before ++ i :: rest →
    before.foldlM (declareStep files ds bs) ([], .empty) = .ok (built, g) →
    List.Forall₂ (fun j e => built.lookup j = some e) ((bs[i]?).getD [])
      (((bs[i]?).getD []).filterMap (List.lookup · built))

theorem inOrder {placed : List Nat} (based : bases ds = .ok bs) (h : order ds bs = .ok placed) :
    InOrder ds bs placed := by
  have own : Ordered ds placed := (ordered_iff based).mpr (order_ok h)
  refine ⟨fun i d => bases_nearest based, own, fun other orders => ?_,
    fun files => declareAll_eq [] {} placed, fun files before i rest built g split run => ?_⟩
  · obtain ⟨follows, all⟩ := (ordered_iff based).mp orders
    obtain ⟨mine, same, least⟩ := extend_least follows
    rw [all.length_eq, List.length_range, List.nil_append] at same
    rw [order_eq] at h
    split at h
    · obtain rfl := Except.ok.inj h
      rw [same]
      exact least
    · cases h
  · have inside : ∀ j ∈ before, j < ds.length := by
      intro j mem
      exact List.mem_range.mp (own.all.mem_iff.mp (split ▸ List.mem_append_left _ mem))
    refine forall₂_lookup fun j mem => declareStep_run inside run j (.inl ?_)
    exact own.after before i rest split j ((mem_bases_iff based).mp mem)

theorem order_exact (ds : List Declaration) :
    ((∃ bs placed, bases ds = .ok bs ∧ order ds bs = .ok placed) ↔ Resolves ds ∧ Acyclic ds) ∧
      (∀ bs placed, bases ds = .ok bs → order ds bs = .ok placed → InOrder ds bs placed) ∧
      ∀ bs e, bases ds = .ok bs → order ds bs = .error e →
        ∃ left : List Nat, left.Pairwise (· < ·) ∧
          (∀ i, i ∈ left ↔ i < ds.length ∧ ReachesCycle ds i) ∧
          e = .validation "module"
            (.inheritanceCycle (left.filterMap fun i => ds[i]?.map (·.key))) := by
  refine ⟨?_, fun bs placed => inOrder, fun bs e => order_error⟩
  constructor
  · rintro ⟨bs, placed, based, ordered⟩
    exact ⟨bases_iff.mp ⟨bs, based⟩, (order_ok_iff based).mp ⟨placed, ordered⟩⟩
  · rintro ⟨resolves, acyclic⟩
    obtain ⟨bs, based⟩ := bases_iff.mpr resolves
    obtain ⟨placed, ordered⟩ := (order_ok_iff based).mpr acyclic
    exact ⟨bs, placed, based, ordered⟩

/-- A mixin that extends other ones. -/
def mixin (name : String) (bases : List String) : Declaration :=
  { kind := .mixin, label := name, depth := 1, file := ⟨"m.yaml"⟩, source := { bases } }

/-- The second mixin is named twice by the first one; `d` is not on the cycle that it reaches. -/
theorem order_exact_mixins :
    (let ds := [mixin "a" ["b", "b"], mixin "b" ["c"], mixin "c" [], mixin "d" ["b"]];
      (Resolves ds ∧ Acyclic ds) ∧ InOrder ds [[1, 1], [2], [], [1]] [2, 1, 0, 3]) ∧
    (let ds := [mixin "d" ["a"], mixin "a" ["b"], mixin "e" [], mixin "b" ["a", "e"]];
      ∃ left : List Nat, (∀ i, i ∈ left ↔ i < ds.length ∧ ReachesCycle ds i) ∧
        (left.filterMap fun i => ds[i]?.map (·.key.name)) = ["d", "a", "b"]) := by
  constructor
  · intro ds
    have based : bases ds = .ok [[1, 1], [2], [], [1]] := by rfl
    have ordered : order ds [[1, 1], [2], [], [1]] = .ok [2, 1, 0, 3] := by rfl
    obtain ⟨exact_, known, -⟩ := order_exact ds
    exact ⟨exact_.mp ⟨_, _, based, ordered⟩, known _ _ based ordered⟩
  · intro ds
    have based : bases ds = .ok [[1], [3], [], [1, 2]] := by rfl
    have cyclic : order ds [[1], [3], [], [1, 2]] = .error (.validation "module"
      (.inheritanceCycle [⟨.mixin, "d"⟩, ⟨.mixin, "a"⟩, ⟨.mixin, "b"⟩])) := by rfl
    obtain ⟨-, -, error⟩ := order_exact ds
    obtain ⟨left, -, reach, named⟩ := error _ _ based cyclic
    refine ⟨left, reach, ?_⟩
    simp only [CompileError.validation.injEq, ValidationFault.inheritanceCycle.injEq, true_and] at named
    have names := congrArg (List.map EntityKey.name) named
    rw [List.map_filterMap] at names
    simpa [Function.comp_def] using names.symm

end Inheritance

end Blueprint
