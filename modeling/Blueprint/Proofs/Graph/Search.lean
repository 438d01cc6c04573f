import Blueprint.Proofs.Data.Partners
import Blueprint.Proofs.Graph.Neighbours
import Blueprint.Proofs.Graph.Resolve
import Mathlib.Data.List.Perm.Subperm
import Mathlib.Data.Nat.Find

/-!
# The search of a graph

`resolveGraph` visits what it has reached, in order, until nothing is left. `Searched` is what every
visit keeps; with it `resolveGraph_breadthFirst` says that the search ends, and that its list is
that of a breadth first search along the references of the graph.
-/

namespace Blueprint

open Relation (ReflTransGen)

namespace EntityGraph

variable {g : EntityGraph} {root a b id : EntityId}

/-! ### The root -/

/-- The root is one of the declared entities. -/
def Rooted (g : EntityGraph) : Prop := ∀ root, g.root = some root → root < g.size

/-! ### Distances -/

/-- An entity is this many references away from the root, on some way. -/
inductive Hops (g : EntityGraph) (root : EntityId) : Nat → EntityId → Prop where
  | start : Hops g root 0 root
  | step {n : Nat} {a b : EntityId} (hops : Hops g root n a) (refers : g.Refers a b) :
      Hops g root (n + 1) b

/-- The number of references on the shortest ways from the root. -/
structure Distance (g : EntityGraph) (root : EntityId) (n : Nat) (id : EntityId) : Prop where
  hops : g.Hops root n id
  least : ∀ m, g.Hops root m id → n ≤ m

/-- For every way to the one there is one to the other that is not longer. -/
def Nearer (g : EntityGraph) (root a b : EntityId) : Prop :=
  ∀ n, g.Hops root n b → ∃ m ≤ n, g.Hops root m a

theorem reaches_iff_hops : ReflTransGen g.Refers root id ↔ ∃ n, g.Hops root n id := by
  constructor
  · intro reaches
    induction reaches with
    | refl => exact ⟨0, .start⟩
    | tail _ refers ih =>
      obtain ⟨n, hops⟩ := ih
      exact ⟨n + 1, hops.step refers⟩
  · rintro ⟨n, hops⟩
    induction hops with
    | start => exact .refl
    | step _ refers ih => exact ih.tail refers

theorem exists_distance {n : Nat} (h : g.Hops root n id) : ∃ m, g.Distance root m id := by
  classical
  have some : ∃ n, g.Hops root n id := ⟨n, h⟩
  exact ⟨Nat.find some, Nat.find_spec some, fun m hops => Nat.find_min' some hops⟩

theorem Nearer.le {m n : Nat} (h : g.Nearer root a b) (first : g.Distance root m a)
    (second : g.Distance root n b) : m ≤ n := by
  obtain ⟨k, short, hops⟩ := h n second.hops
  exact Nat.le_trans (first.least k hops) short

/-- Where nothing is nearer than what stands before it, the distances never decrease. -/
theorem distances_sorted {ids : List EntityId} (reached : ∀ id ∈ ids, ∃ n, g.Hops root n id)
    (sorted : ids.Pairwise (g.Nearer root)) :
    ∃ hops, List.Forall₂ (g.Distance root) hops ids ∧ hops.Pairwise (· ≤ ·) := by
  induction sorted with
  | nil => exact ⟨[], .nil, .nil⟩
  | @cons id ids nearer _ ih =>
    obtain ⟨⟨n, here⟩, rest⟩ := List.forall_mem_cons.mp reached
    obtain ⟨m, first⟩ := exists_distance here
    obtain ⟨hops, each, sorted⟩ := ih rest
    refine ⟨m :: hops, .cons first each, .cons (fun k mem => ?_) sorted⟩
    obtain ⟨other, listed, second⟩ := mem_forall₂ each k mem
    exact (nearer other listed).le first second

end EntityGraph

/-! ### Visits -/

namespace ResolvedGraph

variable {g : EntityGraph} {root id : EntityId} {n : Nat} {r r' : ResolvedGraph}

theorem foldl_meet_eq (ids seen : List EntityId) :
    ids.foldl (fun seen id => if seen.contains id then seen else seen ++ [id]) seen =
      seen ++ (ids.removeAll seen).eraseDups := by
  induction ids generalizing seen with
  | nil => simp
  | cons id ids ih =>
    rw [List.foldl_cons, ih]
    by_cases known : id ∈ seen
    · simp [known, List.removeAll]
    · have next : ids.removeAll (seen ++ [id]) = (ids.removeAll seen).filter (!· == id) := by
        simp only [List.removeAll, List.filter_filter]
        refine List.filter_congr fun x _ => ?_
        by_cases same : x = id <;> simp [same]
      have more : (id :: ids).removeAll seen = id :: ids.removeAll seen := by
        simp [List.removeAll, known]
      simp [known, next, more, List.eraseDups_cons]

/-- A visit of an entity binds its references and meets what they mean. -/
theorem visit_ok_iff (graph : r.graph = g) (here : r.reachable[n]? = some id) :
    r.visit n = .ok r' ↔ ∃ e, g.entity? id = some e ∧ e.Binds g id ∧
      r' = meet { r with bindings := r.bindings ++ [(id, ⟨e.boundSlots g, e.boundTargets g id⟩)] }
        (g.neighbours id) := by
  rw [visit, here, graph]
  constructor
  · intro h
    obtain ⟨e, declared, h⟩ := bind_ok h
    obtain ⟨b, bound, h⟩ := bind_ok h
    have declared := EntityGraph.entity_ok.mp (by rwa [entity, graph] at declared)
    obtain ⟨binds, rfl⟩ := (Entity.bindReferences_iff declared).mp bound
    refine ⟨e, declared, binds, ?_⟩
    rw [pure_ok h, EntityGraph.neighbours_eq declared, Entity.neighbours_bound]
  · rintro ⟨e, declared, binds, rfl⟩
    have bound := (Entity.bindReferences_iff declared).mpr ⟨binds, rfl⟩
    dsimp only
    rw [entity, graph, EntityGraph.entity_ok.mpr declared]
    dsimp only [bind, Except.bind]
    rw [bound]
    dsimp only
    rw [Entity.neighbours_bound, EntityGraph.neighbours_eq declared]
    rfl

theorem visit_none (here : r.reachable[n]? = none) : r.visit n = .ok r := by
  rw [visit, here]

/-- The first `n` of the reached entities have been visited, one after the other. -/
inductive Visited (g : EntityGraph) (root : EntityId) : Nat → ResolvedGraph → Prop where
  | start : Visited g root 0 { graph := g, root, reachable := [root] }
  | step {n : Nat} {r r' : ResolvedGraph} (visited : Visited g root n r)
      (more : n < r.reachable.length) (visit : r.visit n = .ok r') : Visited g root (n + 1) r'

/-- An entity with what its references mean. -/
def Bound (g : EntityGraph) (id : EntityId) (b : EntityId × Binding) : Prop :=
  b.1 = id ∧ ∃ e, g.entity? id = some e ∧ e.Binds g id ∧
    b.2 = ⟨e.boundSlots g, e.boundTargets g id⟩

theorem notMem_take {ids : List EntityId} (distinct : ids.Nodup) (at_ : ids[n]? = some id) :
    id ∉ ids.take n := by
  obtain ⟨inside, rfl⟩ := List.getElem?_eq_some_iff.mp at_
  intro earlier
  obtain ⟨i, before, same⟩ := List.mem_take_iff_getElem.mp earlier
  have place : i = n := distinct.getElem_inj_iff.mp same
  omega

/-- A search that has visited the first `n` of what it has reached. -/
structure Searched (g : EntityGraph) (root : EntityId) (n : Nat) (r : ResolvedGraph) : Prop where
  graph : r.graph = g
  start : r.root = root
  within : n ≤ r.reachable.length
  distinct : r.reachable.Nodup
  met : r.reachable = ((r.reachable.take n).flatMap g.neighbours).foldl
    (fun seen id => if seen.contains id then seen else seen ++ [id]) [root]
  bound : List.Forall₂ (Bound g) (r.reachable.take n) r.bindings
  declared : root < g.size → ∀ id ∈ r.reachable, id < g.size
  reached : ∀ id ∈ r.reachable, ∃ k, g.Hops root k id
  sorted : r.reachable.Pairwise (g.Nearer root)
  /-- Nothing lies more than one reference behind what is visited next. -/
  span : ∀ next, r.reachable[n]? = some next → ∀ id ∈ r.reachable, ∀ k, g.Hops root k next →
    ∃ m ≤ k + 1, g.Hops root m id

namespace Searched

theorem first (h : Searched g root n r) : r.reachable.head? = some root := by
  rw [h.met, foldl_meet_eq]
  rfl

theorem closed (h : Searched g root n r) {a b : EntityId} (visited : a ∈ r.reachable.take n)
    (refers : g.Refers a b) : b ∈ r.reachable := by
  obtain ⟨fresh, same, -, -, all⟩ := foldl_meet ((r.reachable.take n).flatMap g.neighbours) [root]
  rw [h.met, same]
  exact all b (List.mem_flatMap.mpr ⟨a, visited, EntityGraph.mem_neighbours.mpr refers⟩)

variable {next : EntityId}

theorem split (here : r.reachable[n]? = some next) :
    ∃ later, r.reachable = r.reachable.take n ++ next :: later := by
  obtain ⟨more, rfl⟩ := List.getElem?_eq_some_iff.mp here
  exact ⟨r.reachable.drop (n + 1), by rw [List.getElem_cons_drop, List.take_append_drop]⟩

theorem nearer_of_waiting (h : Searched g root n r) (here : r.reachable[n]? = some next)
    (met : id ∈ r.reachable) (waiting : id ∉ r.reachable.take n) : g.Nearer root next id := by
  obtain ⟨later, split⟩ := split here
  rw [split] at met
  rcases List.mem_append.mp met with visited | met
  · exact (waiting visited).elim
  · rcases List.mem_cons.mp met with rfl | later
    · exact fun k hops => ⟨k, Nat.le_refl k, hops⟩
    · have sorted := h.sorted
      rw [split] at sorted
      exact (List.pairwise_cons.mp (List.pairwise_append.mp sorted).2.1).1 id later

/-- Every way to something that has not been visited is at least as long as one to what is visited
next: the way leaves what has been visited at something that waits. -/
theorem next_hops (h : Searched g root n r) (here : r.reachable[n]? = some next) {k : Nat}
    (hops : g.Hops root k id) (waiting : id ∉ r.reachable.take n) : ∃ m ≤ k, g.Hops root m next := by
  induction hops with
  | start =>
    obtain ⟨later, split⟩ := split here
    have first := h.first
    rw [split] at first
    cases visited : r.reachable.take n with
    | nil =>
      rw [visited] at first
      obtain rfl : next = root := Option.some.inj first
      exact ⟨0, Nat.le_refl 0, .start⟩
    | cons id _ =>
      rw [visited] at first waiting
      obtain rfl : id = root := Option.some.inj first
      exact (waiting List.mem_cons_self).elim
  | @step k a b hops refers ih =>
    by_cases visited : a ∈ r.reachable.take n
    · exact h.nearer_of_waiting here (h.closed visited refers) waiting (k + 1) (hops.step refers)
    · obtain ⟨m, short, hops⟩ := ih visited
      exact ⟨m, Nat.le_succ_of_le short, hops⟩

/-- Every way to something that has not been met is longer than one to what is visited next. -/
theorem next_hops_of_new (h : Searched g root n r) (here : r.reachable[n]? = some next) {k : Nat}
    (hops : g.Hops root k id) (new : id ∉ r.reachable) : ∃ m, m + 1 ≤ k ∧ g.Hops root m next := by
  cases hops with
  | start => exact (new (List.mem_of_mem_head? h.first)).elim
  | @step k a b hops refers =>
    obtain ⟨m, short, hops⟩ := h.next_hops here hops fun visited => new (h.closed visited refers)
    exact ⟨m, Nat.succ_le_succ short, hops⟩

theorem visit (h : Searched g root n r) (here : r.reachable[n]? = some next)
    (visited : r.visit n = .ok r') : Searched g root (n + 1) r' := by
  obtain ⟨e, declared, binds, rfl⟩ := (visit_ok_iff h.graph here).mp visited
  obtain ⟨fresh, same, distinct, sub, all⟩ := foldl_meet (g.neighbours next) r.reachable
  have more : n < r.reachable.length := (List.getElem?_eq_some_iff.mp here).1
  have visited : (r.reachable ++ fresh).take (n + 1) = r.reachable.take n ++ [next] := by
    rw [List.take_append_of_le_length more, List.take_add_one, here]
    rfl
  have distinct := distinct h.distinct
  have new : ∀ id ∈ fresh, id ∉ r.reachable := fun id mem met =>
    (List.nodup_append.mp distinct).2.2 id met id mem rfl
  have refers : ∀ id ∈ fresh, g.Refers next id := fun id mem =>
    EntityGraph.mem_neighbours.mp (sub id mem)
  refine
    { graph := h.graph, start := h.start, within := ?within, distinct := ?distinct, met := ?met,
      bound := ?bound, declared := ?declared, reached := ?reached, sorted := ?sorted,
      span := ?span } <;> simp only [meet, same]
  case within =>
    rw [List.length_append]
    exact Nat.le_add_right_of_le more
  case distinct => exact distinct
  case met =>
    rw [visited, List.flatMap_append, List.foldl_append, ← h.met, List.flatMap_singleton, same]
  case bound =>
    rw [visited]
    exact List.rel_append h.bound (.cons ⟨rfl, e, declared, binds, rfl⟩ .nil)
  case declared =>
    intro rooted id met
    rcases List.mem_append.mp met with old | mem
    · exact h.declared rooted id old
    · obtain ⟨e', declared'⟩ := (refers id mem).declared
      exact EntityGraph.lt_size_of_entity? declared'
  case reached =>
    intro id met
    rcases List.mem_append.mp met with old | mem
    · exact h.reached id old
    · obtain ⟨k, hops⟩ := h.reached next (List.mem_of_getElem? here)
      exact ⟨k + 1, hops.step (refers id mem)⟩
  case sorted =>
    refine List.pairwise_append.mpr ⟨h.sorted, ?_, fun a old b mem k hops => ?_⟩
    · refine List.pairwise_of_forall_mem_list fun a first b second k hops => ?_
      obtain ⟨m, short, hops⟩ := h.next_hops_of_new here hops (new b second)
      exact ⟨m + 1, short, hops.step (refers a first)⟩
    · obtain ⟨m, short, hops⟩ := h.next_hops_of_new here hops (new b mem)
      obtain ⟨m', near, hops⟩ := h.span next here a old m hops
      exact ⟨m', Nat.le_trans near short, hops⟩
  case span =>
    intro later there id met k hops
    have waiting : later ∉ r.reachable.take n := by
      have after := notMem_take distinct there
      rw [visited] at after
      exact fun earlier => after (List.mem_append_left _ earlier)
    obtain ⟨m, short, hops⟩ := h.next_hops here hops waiting
    rcases List.mem_append.mp met with old | mem
    · obtain ⟨m', near, hops⟩ := h.span next here id old m hops
      exact ⟨m', Nat.le_trans near (Nat.succ_le_succ short), hops⟩
    · exact ⟨m + 1, Nat.succ_le_succ short, hops.step (refers id mem)⟩

theorem initial : Searched g root 0 { graph := g, root, reachable := [root] } where
  graph := rfl
  start := rfl
  within := Nat.zero_le _
  distinct := List.nodup_singleton root
  met := rfl
  bound := .nil
  declared := by
    intro rooted id met
    exact List.mem_singleton.mp met ▸ rooted
  reached := by
    intro id met
    exact ⟨0, List.mem_singleton.mp met ▸ .start⟩
  sorted := List.pairwise_singleton _ _
  span := by
    intro next _ id met k _
    exact ⟨0, Nat.zero_le _, List.mem_singleton.mp met ▸ .start⟩

end Searched

theorem Visited.searched (h : Visited g root n r) : Searched g root n r := by
  induction h with
  | start => exact .initial
  | step _ more visit ih => exact ih.visit (List.getElem?_eq_getElem more) visit

/-- No more is reached than is declared. -/
theorem Visited.length_le (h : Visited g root n r) (rooted : root < g.size) :
    r.reachable.length ≤ g.size := by
  have inside : r.reachable ⊆ g.ids := fun id met =>
    EntityGraph.mem_ids.mpr (h.searched.declared rooted id met)
  have fits := (List.subperm_of_subset h.searched.distinct inside).length_le
  rwa [EntityGraph.ids, List.length_range] at fits

/-- The search ends. -/
theorem Visited.le_size (h : Visited g root n r) (rooted : root < g.size) : n ≤ g.size :=
  Nat.le_trans h.searched.within (h.length_le rooted)

/-! ### The whole search -/

/-- The fold over a range of places is the search, up to its end. -/
theorem foldlM_visit_iff {k : Nat} :
    (List.range k).foldlM visit { graph := g, root, reachable := [root] } = .ok r ↔
      ∃ n ≤ k, Visited g root n r ∧ (n < k → r.reachable.length = n) := by
  induction k generalizing r with
  | zero =>
    constructor
    · intro h
      exact ⟨0, Nat.le_refl 0, pure_ok h ▸ .start, nofun⟩
    · rintro ⟨n, le, visited, -⟩
      obtain rfl : n = 0 := by omega
      cases visited
      rfl
  | succ k ih =>
    rw [List.range_succ, List.foldlM_append]
    constructor
    · intro h
      obtain ⟨s, before, h⟩ := bind_ok h
      obtain ⟨last, visited, h⟩ := bind_ok h
      obtain rfl := pure_ok h
      obtain ⟨n, le, walked, ended⟩ := ih.mp before
      cases here : s.reachable[k]? with
      | none =>
        rw [visit_none here] at visited
        obtain rfl := Except.ok.inj visited
        have short := List.getElem?_eq_none_iff.mp here
        have within := walked.searched.within
        exact ⟨n, by omega, walked, fun _ => by
          rcases Nat.eq_or_lt_of_le le with rfl | lt
          · omega
          · exact ended lt⟩
      | some id =>
        have more := (List.getElem?_eq_some_iff.mp here).1
        obtain rfl : n = k := by
          rcases Nat.eq_or_lt_of_le le with same | lt
          · exact same
          · have := ended lt
            omega
        exact ⟨n + 1, Nat.le_refl _, walked.step more visited, fun lt => absurd lt (Nat.lt_irrefl _)⟩
    · rintro ⟨n, le, walked, ended⟩
      rcases Nat.eq_or_lt_of_le le with rfl | lt
      · cases walked with
        | @step _ s _ before more visited =>
          rw [ih.mpr ⟨k, Nat.le_refl k, before, fun lt => absurd lt (Nat.lt_irrefl k)⟩]
          dsimp only [bind, Except.bind, List.foldlM]
          rw [visited]
          rfl
      · have short := ended lt
        rw [ih.mpr ⟨n, Nat.le_of_lt_succ lt, walked, fun _ => short⟩]
        dsimp only [bind, Except.bind, List.foldlM]
        rw [visit_none (List.getElem?_eq_none_iff.mpr (by omega))]
        rfl

end ResolvedGraph

open ResolvedGraph

/-- A graph resolves to what the search of its root ends with. -/
theorem resolveGraph_ok_iff {g : EntityGraph} {r : ResolvedGraph} (rooted : g.Rooted) :
    resolveGraph g = .ok r ↔
      ∃ root, g.root = some root ∧ Visited g root r.reachable.length r := by
  unfold resolveGraph
  constructor
  · intro h
    split at h
    · cases h
    · rename_i root start
      obtain ⟨n, le, walked, ended⟩ := foldlM_visit_iff.mp h
      have within := walked.searched.within
      have length := walked.length_le (rooted root start)
      have last : r.reachable.length = n := by
        rcases Nat.eq_or_lt_of_le le with same | lt
        · omega
        · exact ended lt
      exact ⟨root, start, last ▸ walked⟩
  · rintro ⟨root, start, walked⟩
    rw [start]
    exact foldlM_visit_iff.mpr ⟨_, walked.le_size (rooted root start), walked, fun _ => rfl⟩

namespace ResolvedGraph

/-- A graph with its references bound from a root on: all that can be reached from it, each once, in
the order of a breadth first search. -/
structure BreadthFirst (g : EntityGraph) (root : EntityId) (r : ResolvedGraph) : Prop where
  graph : r.graph = g
  start : r.root = root
  first : r.reachable.head? = some root
  distinct : r.reachable.Nodup
  exact : ∀ id, id ∈ r.reachable ↔ ReflTransGen g.Refers root id
  /-- The distances from the root never decrease. -/
  levels : ∃ hops, List.Forall₂ (g.Distance root) hops r.reachable ∧ hops.Pairwise (· ≤ ·)
  /-- After the root stand the neighbours of each entity in turn, where they are met first. -/
  met : r.reachable = (root :: r.reachable.flatMap g.neighbours).eraseDups
  resolved : ∀ id, r.isResolved id = true ↔ id ∈ r.reachable
  bound : ∀ id ∈ r.reachable, ∃ e, g.entity? id = some e ∧ e.Binds g id ∧
    r.binding? id = some ⟨e.boundSlots g, e.boundTargets g id⟩

variable {g : EntityGraph} {root id : EntityId} {r : ResolvedGraph}

theorem binding?_of_bound {ids : List EntityId} {bindings : List (EntityId × Binding)}
    (bound : List.Forall₂ (Bound g) ids bindings) (met : id ∈ ids) :
    ∃ b, (bindings.find? fun b => b.1 == id) = some b ∧ Bound g id b := by
  obtain ⟨b, mem, same, -⟩ := mem_forall₂ bound id met
  cases found : bindings.find? fun b => b.1 == id with
  | none => exact (List.find?_eq_none.mp found b mem (by simp [same])).elim
  | some first =>
    obtain ⟨other, -, of⟩ := mem_forall₂ bound.flip first (List.mem_of_find?_eq_some found)
    have here : first.1 = id := by simpa using List.find?_some found
    obtain rfl : other = id := of.1.symm.trans here
    exact ⟨first, rfl, of⟩

theorem Visited.breadthFirst (h : Visited g root r.reachable.length r) : BreadthFirst g root r := by
  have searched := h.searched
  have closed : ∀ a ∈ r.reachable, ∀ b, g.Refers a b → b ∈ r.reachable := fun a met b refers =>
    searched.closed (by rwa [List.take_length]) refers
  have bound := searched.bound
  have met := searched.met
  rw [List.take_length] at bound met
  refine
    { graph := searched.graph, start := searched.start, first := searched.first,
      distinct := searched.distinct, exact := fun id => ⟨fun met => ?_, fun reaches => ?_⟩,
      levels := EntityGraph.distances_sorted searched.reached searched.sorted, met := ?_,
      resolved := fun id => ⟨fun resolved => ?_, fun met => ?_⟩, bound := fun id met => ?_ }
  · exact EntityGraph.reaches_iff_hops.mpr (searched.reached id met)
  · induction reaches with
    | refl => exact List.mem_of_mem_head? searched.first
    | tail _ refers ih => exact closed _ ih _ refers
  · have others : ∀ ids : List EntityId, ids.removeAll [root] = ids.filter (!· == root) := fun ids =>
      List.filter_congr fun x _ => by by_cases same : x = root <;> simp [same]
    refine met.trans ?_
    rw [foldl_meet_eq, others, List.eraseDups_cons, List.singleton_append]
  · obtain ⟨b, found⟩ := Option.isSome_iff_exists.mp resolved
    obtain ⟨other, met, same, -⟩ := mem_forall₂ bound.flip _ (mem_of_binding? found)
    obtain rfl : id = other := same
    exact met
  · obtain ⟨b, found, -⟩ := binding?_of_bound bound met
    rw [isResolved, binding?, found]
    rfl
  · obtain ⟨b, found, -, e, declared, binds, same⟩ := binding?_of_bound bound met
    refine ⟨e, declared, binds, ?_⟩
    rw [binding?, found, ← same]
    rfl

end ResolvedGraph

/-- The search of a graph ends, whatever refers to what. A graph resolves exactly if its search ends
without a fault, and then to what the root reaches, breadth first. -/
theorem resolveGraph_breadthFirst {g : EntityGraph} (rooted : g.Rooted) :
    (∀ root, g.root = some root → ∀ n r, Visited g root n r → n ≤ g.size) ∧
      (∀ r, resolveGraph g = .ok r ↔
        ∃ root, g.root = some root ∧ Visited g root r.reachable.length r) ∧
      ∀ r, resolveGraph g = .ok r → ∃ root, g.root = some root ∧ BreadthFirst g root r := by
  refine ⟨fun root start n r visited => visited.le_size (rooted root start),
    fun r => resolveGraph_ok_iff rooted, fun r h => ?_⟩
  obtain ⟨root, start, visited⟩ := (resolveGraph_ok_iff rooted).mp h
  exact ⟨root, start, visited.breadthFirst⟩

/-- A runbook with a task on one of two services that depend on each other; a third one is unused. -/
def cyclic : EntityGraph :=
  let onto (name : String) : OrderedMap (List Ref) :=
    (∅ : OrderedMap (List Ref)).insert "depends_on" [.named ⟨.service, name⟩]
  let hello : TaskNode :=
    .leaf { name := "hello", target := some (.named ⟨.service, "web"⟩) } (.exec { text := "ls" })
  let again : TaskNode := .loop { name := "again" } "3" "i" [hello]
  let run : Action := { name := "run", kind := .system, tree := [again] }
  let runbook : Entity :=
    { kind := .runbook, name := "Ops", actions := (∅ : OrderedMap Action).insert "run" run }
  { declared :=
      [⟨{ kind := .service, name := "db", references := onto "web" }, 1⟩,
        ⟨{ kind := .service, name := "cache", references := onto "db" }, 1⟩,
        ⟨{ kind := .service, name := "web", references := onto "db" }, 1⟩, ⟨runbook, 0⟩]
    root := some 3 }

theorem resolveGraph_breadthFirst_cyclic : cyclic.Rooted ∧
    ∃ r, resolveGraph cyclic = .ok r ∧ r.reachable = [3, 2, 0] ∧ BreadthFirst cyclic 3 r := by
  have rooted : cyclic.Rooted := by
    intro root start
    obtain rfl : 3 = root := Option.some.inj start
    decide
  obtain ⟨r, resolved, reachable⟩ := ok_of_test (x := resolveGraph cyclic)
    (P := fun r => r.reachable = [3, 2, 0]) (by decide +kernel)
  obtain ⟨root, start, search⟩ := (resolveGraph_breadthFirst rooted).2.2 r resolved
  obtain rfl : 3 = root := Option.some.inj start
  exact ⟨rooted, r, resolved, reachable, search⟩

end Blueprint
