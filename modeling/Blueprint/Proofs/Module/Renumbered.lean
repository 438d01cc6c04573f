import Blueprint.Proofs.Data.Shuffled
import Blueprint.Proofs.Module.Moved
import Blueprint.Proofs.Module.Plain
import Blueprint.Proofs.Module.Reordered
import Blueprint.Proofs.Module.Texts

/-!
# Declarations in any order

Declarations that can be built and declared in one order can be in every order that follows their
bases. So what loads from declarations in other places is the same graph, renumbered
(`EntityGraph.Made.moved`).
-/

namespace Blueprint

variable {files files' : Files} {ds ds' : List Declaration} {bs bs' : List (List Nat)}
  {order : List Nat} {loaded : Nat → Entity} {g g' : EntityGraph}

/-! ### Roots -/

def rootAt (ds : List Declaration) (i : Nat) : Bool := ds[i]?.any (·.isRoot)

def EntityGraph.roots (g : EntityGraph) : Nat := if g.root.isSome then 1 else 0

theorem declareBuilt_free {d : Declaration} {parents : List Entity} {e : Entity}
    (h : declareBuilt files d parents g = .ok (g', e)) (root : d.isRoot = true) :
    g.root = none ∧ d.kind.isRoot = true := by
  obtain ⟨e', built, h⟩ := bind_ok h
  rw [if_pos root] at h
  obtain ⟨⟨_, handle⟩, declared, -⟩ := bind_ok h
  obtain ⟨⟨kind, free⟩, -, -⟩ := EntityGraph.declareRoot_ok_iff.mp declared
  exact ⟨free, Declaration.build_kind built ▸ kind⟩

theorem declareBuilt_roots {d : Declaration} {parents : List Entity} {e : Entity}
    (h : declareBuilt files d parents g = .ok (g', e)) :
    g'.roots = g.roots + if d.isRoot then 1 else 0 := by
  have after := declareBuilt_root h
  unfold EntityGraph.roots
  cases root : d.isRoot with
  | true =>
    rw [if_pos (after.mpr (.inl root)), (declareBuilt_free h root).1]
    rfl
  | false => simp [after, root]

theorem declareBuilt_of_free {d : Declaration} {parents : List Entity} {e : Entity}
    (built : d.build files parents = .ok e)
    (free : d.isRoot = true → g.root = none ∧ d.kind.isRoot = true) :
    ∃ g', declareBuilt files d parents g = .ok (g', e) := by
  unfold declareBuilt
  rw [built, ok_bind]
  cases root : d.isRoot with
  | true =>
    obtain ⟨none, kind⟩ := free root
    rw [← Declaration.build_kind built] at kind
    rw [if_pos rfl, EntityGraph.declareRoot_ok_iff.mpr ⟨⟨kind, none⟩, rfl, rfl⟩]
    exact ⟨_, rfl⟩
  | false =>
    by_cases mixin : d.kind = .mixin
    · exact ⟨g, by simp [mixin]; rfl⟩
    · exact ⟨(g.declareAt e d.depth).1, by simp [mixin]; rfl⟩

/-- Among the declarations of a run is at most one root, and it is of a kind that may be one. -/
theorem declareAll_roots {built : List (Nat × Entity)}
    (h : declareAll files ds bs built g order = .ok g') :
    g.roots + order.countP (rootAt ds) ≤ 1 ∧
      ∀ i ∈ order, ∀ d, ds[i]? = some d → d.isRoot = true → d.kind.isRoot = true := by
  induction order generalizing built g with
  | nil =>
    refine ⟨?_, List.forall_mem_nil _⟩
    unfold EntityGraph.roots
    split <;> simp
  | cons i order ih =>
    unfold declareAll at h
    split at h
    · rename_i missing
      obtain ⟨once, kinds⟩ := ih h
      refine ⟨?_, List.forall_mem_cons.mpr ⟨fun d here => ?_, kinds⟩⟩
      · rwa [List.countP_cons_of_neg (by simp [rootAt, missing])]
      · cases missing.symm.trans here
    · rename_i d here
      obtain ⟨⟨g₁, e⟩, first, rest⟩ := bind_ok h
      obtain ⟨once, kinds⟩ := ih rest
      refine ⟨?_, List.forall_mem_cons.mpr ⟨fun d' here' root => ?_, kinds⟩⟩
      · rw [declareBuilt_roots first] at once
        have own : rootAt ds i = d.isRoot := by rw [rootAt, here]; rfl
        rw [List.countP_cons, own]
        omega
      · obtain rfl := Option.some.inj (here.symm.trans here')
        exact (declareBuilt_free first root).2

/-! ### Declaring -/

/-- Declarations that can be built over their bases can be declared, in every order that puts the
bases first. -/
theorem declareAll_of_built {before : List Nat} {built : List (Nat × Entity)}
    (follows : Inheritance.Follows bs before order) (places : bs.length = ds.length)
    (known : ∀ j ∈ before, built.lookup j = some (loaded j))
    (each : ∀ (i : Nat) (d : Declaration), ds[i]? = some d →
      d.build files (((bs[i]?).getD []).map loaded) = .ok (loaded i))
    (kinds : ∀ i ∈ order, ∀ d, ds[i]? = some d → d.isRoot = true → d.kind.isRoot = true)
    (once : g.roots + order.countP (rootAt ds) ≤ 1) :
    ∃ g', declareAll files ds bs built g order = .ok g' ∧
      g'.declared = g.declared ++ order.filterMap fun i => ds[i]?.bind (·.shown (loaded i)) := by
  induction order generalizing before built g with
  | nil => exact ⟨g, rfl, (List.append_nil _).symm⟩
  | cons i order ih =>
    obtain ⟨ready, follows⟩ := follows
    obtain ⟨kind, kinds⟩ := List.forall_mem_cons.mp kinds
    have place : i < ds.length := places ▸ ready.place
    have here : ds[i]? = some ds[i] := List.getElem?_eq_getElem place
    generalize ds[i] = d at here
    have own : rootAt ds i = d.isRoot := by rw [rootAt, here]; rfl
    rw [List.countP_cons, own] at once
    have parents : ((bs[i]?).getD []).filterMap (List.lookup · built) =
        ((bs[i]?).getD []).map loaded := by
      rw [List.filterMap_congr fun j mem => known j (ready.bases j mem), List.filterMap_eq_map']
    have free : d.isRoot = true → g.root = none ∧ d.kind.isRoot = true := by
      intro root
      refine ⟨?_, kind d here root⟩
      rw [root, if_pos rfl, EntityGraph.roots] at once
      cases other : g.root with
      | none => rfl
      | some _ =>
        rw [other, Option.isSome_some, if_pos rfl] at once
        omega
    obtain ⟨g₁, first⟩ := declareBuilt_of_free (each i d here) free
    have known' : ∀ j ∈ before ++ [i], List.lookup j ((i, loaded i) :: built) = some (loaded j) := by
      intro j mem
      rw [List.lookup_cons]
      by_cases same : j = i
      · simp [same]
      · rw [beq_eq_false_iff_ne.mpr same]
        exact known j ((List.mem_append.mp mem).resolve_right (by simpa using same))
    obtain ⟨g', rest, declared⟩ := ih follows known' kinds (by rw [declareBuilt_roots first]; omega)
    refine ⟨g', ?_, ?_⟩
    · unfold declareAll
      rw [here]
      dsimp only
      rw [parents, first, ok_bind]
      exact rest
    · rw [declared, (declareBuilt_ok first).2, List.append_assoc, List.filterMap_cons, here,
        Option.bind_some]
      cases d.shown (loaded i) <;> rfl

/-- Declarations in other places load as the same entities, in some order. -/
theorem EntityGraph.Made.moved {π : Equiv.Perm Nat} (made : g.Made files ds bs order loaded)
    (declared : declareAll files ds bs [] .empty order = .ok g) (places : ∀ i, ds'[π i]? = ds[i]?)
    (texts : ∀ d ∈ ds, ∀ p ∈ d.paths, files'.read p = files.read p) :
    ∃ g', loadCollected files' ds' = .ok g' ∧ g.declared.Perm g'.declared := by
  obtain ⟨bs', based, bases⟩ := Inheritance.bases_moved places made.based
  obtain ⟨length, -⟩ := Inheritance.bases_ok made.based
  obtain ⟨length', -⟩ := Inheritance.bases_ok based
  have inside : ∀ i, π i < bs'.length ↔ i < bs.length := fun i => by
    rw [length', length, Inheritance.inside_moved places]
  -- The order of building goes along, so that there is one to be found.
  obtain ⟨follows, all⟩ := Inheritance.order_ok made.ordered
  have whole : (order.map π).Perm (List.range bs'.length) := by
    have distinct : (order.map π).Nodup := follows.nodup.1.map π.injective
    refine (List.perm_ext_iff_of_nodup distinct List.nodup_range).mpr fun j => ?_
    obtain ⟨i, rfl⟩ := π.surjective j
    rw [List.mem_map_of_injective π.injective, all.mem_iff, List.mem_range, List.mem_range, inside]
  obtain ⟨order', ordered⟩ :=
    Inheritance.order_of_follows (follows.moved bases inside) whole ds'
  obtain ⟨follows', all'⟩ := Inheritance.order_ok ordered
  have perm : order'.Perm (order.map π) := all'.trans whole.symm
  have each : ∀ (i : Nat) (d : Declaration), ds'[i]? = some d →
      d.build files' (((bs'[i]?).getD []).map (loaded ∘ π.symm)) = .ok ((loaded ∘ π.symm) i) := by
    intro i d here
    obtain ⟨i, rfl⟩ := π.surjective i
    rw [places] at here
    rw [bases, List.map_map, Declaration.build_same (texts d (List.mem_of_getElem? here))]
    simpa [Function.comp_def] using made.built i d here
  obtain ⟨once, kinds⟩ := declareAll_roots declared
  have kinds' : ∀ i ∈ order', ∀ d, ds'[i]? = some d → d.isRoot = true → d.kind.isRoot = true := by
    intro i met d here
    obtain ⟨i, known, rfl⟩ := List.mem_map.mp (perm.mem_iff.mp met)
    exact kinds i known d (places i ▸ here)
  have roots : order'.countP (rootAt ds') = order.countP (rootAt ds) := by
    have same : rootAt ds' ∘ π = rootAt ds := funext fun i => by
      rw [Function.comp_apply, rootAt, places, rootAt]
    rw [perm.countP_eq, List.countP_map, same]
  obtain ⟨g', declared', shown⟩ := declareAll_of_built follows' length' (List.forall_mem_nil _) each
    kinds' (roots.symm ▸ once)
  refine ⟨g', ?_, ?_⟩
  · rw [loadCollected, based, ok_bind, ordered, ok_bind]
    exact declared'
  · have there := perm.filterMap fun i => ds'[i]?.bind (·.shown ((loaded ∘ π.symm) i))
    rw [List.filterMap_map] at there
    rw [made.declared, shown]
    refine List.Perm.trans (List.Perm.of_eq (List.filterMap_congr fun i _ => ?_)) there.symm
    simp [places]

/-! ### Graphs -/

/-- The same graph, in which the entities have other numbers. -/
structure EntityGraph.Renumbered (g : EntityGraph) (ρ : Equiv.Perm EntityId) (g' : EntityGraph) :
    Prop where
  declared : ∀ id, g'.declared[ρ id]? = g.declared[id]?
  root : g'.root = g.root.map ρ

namespace EntityGraph.Renumbered

variable {ρ : Equiv.Perm EntityId}

theorem symm (h : Renumbered g ρ g') : Renumbered g' ρ.symm g where
  declared id := by rw [← h.declared, ρ.apply_symm_apply]
  root := by simp [h.root]

theorem plain (h : Renumbered g ρ g') (plain : ∀ x ∈ g.declared, x.entity.Plain) :
    ∀ x ∈ g'.declared, x.entity.Plain := by
  intro x mem
  obtain ⟨id, found⟩ := List.mem_iff_getElem?.mp mem
  exact plain x (List.mem_of_getElem? ((h.symm.declared id).trans found))

theorem redeclared (h : Renumbered g ρ g') (plain : ∀ x ∈ g.declared, x.entity.Plain) :
    Redeclared ρ g g' where
  kept id d found := by
    rw [h.declared, found, (plain d (List.mem_of_getElem? found)).rename]
  apart := ρ.injective.injOn
  root := h.root
  others place d found := by
    rw [← ρ.apply_symm_apply place, h.declared] at found
    exact .inl ⟨ρ.symm place, (List.getElem?_eq_some_iff.mp found).1, ρ.apply_symm_apply place⟩

end EntityGraph.Renumbered

theorem EntityGraph.exists_renumbered (perm : g.declared.Perm g'.declared) (alone : g.RootAlone)
    (alone' : g'.RootAlone) : ∃ ρ, Renumbered g ρ g' := by
  obtain ⟨ρ, same⟩ := exists_places perm
  refine ⟨ρ, same, Option.ext fun id => ?_⟩
  obtain ⟨id, rfl⟩ := ρ.surjective id
  have depth : g'.depth? (ρ id) = g.depth? id := by rw [depth?, same, depth?]
  rw [alone', depth, ← alone, Option.map_eq_some_iff]
  simp

/-! ### Loading -/

theorem collectAll_deep {left : Nat} {done : List Path} {found : List Declaration}
    {queue : List Visit} (h : collectAll files left done found queue = .ok ds)
    (deep : ∀ d ∈ found, d.Deep) : ∀ d ∈ ds, d.Deep := by
  fun_induction collectAll files left done found queue with
  | case1 => exact Except.ok.inj h ▸ deep
  | case2 left done found v queue seen ih => exact ih h deep
  | case3 => cases h
  | case4 done found v queue fresh left ih =>
    obtain ⟨⟨declared, imports⟩, first, rest⟩ := bind_ok h
    obtain ⟨here, -, -⟩ := Visit.collects_of_ok first
    refine ih declared imports rest (List.forall_mem_append.mpr ⟨deep, fun d mem other => ?_⟩)
    rw [(Visit.declares_at (here ▸ mem)).1, Visit.depth, other]
    exact Nat.lt_of_lt_of_le Nat.zero_lt_one (Nat.le_add_right _ _)

theorem load_rootAlone {file : Path} (h : load files file = .ok g) : g.RootAlone := by
  obtain ⟨ds, bs, order, loaded, collected, declared, -⟩ := load_made h
  exact declareAll_rootAlone declared (collectAll_deep collected (List.forall_mem_nil _)) fun id => by
    simp [EntityGraph.depth?]

/-- The declarations of all modules name no file with another text. -/
def Files.NamedAlike (files files' : Files) (file : Path) : Prop :=
  ∀ ds, collectAll files files.count [] [] [⟨file, 0, ∅⟩] = .ok ds →
    ∀ d ∈ ds, ∀ p ∈ d.paths, files'.read p = files.read p

theorem Files.NamedAlike.symm {file : Path} (h : files.NamedAlike files' file)
    (reordered : files.Reordered files') : files'.NamedAlike files file := by
  intro ds' collected' d mem p named
  obtain ⟨ds, collected, perm⟩ := reordered.symm.collectAll (.refl []) collected'
  rw [reordered.count] at collected
  exact (h ds collected d (perm.mem_iff.mp mem) p named).symm

/-- What loads from some modules loads from the same with sections in another order. -/
theorem load_moved {file : Path} (h : load files file = .ok g) (reordered : files.Reordered files')
    (named : files.NamedAlike files' file) :
    ∃ g' ρ, load files' file = .ok g' ∧ g.Renumbered ρ g' := by
  obtain ⟨ds, bs, order, loaded, collected, declared, made⟩ := load_made h
  obtain ⟨ds', collected', perm⟩ := reordered.collectAll (.refl []) collected
  obtain ⟨π, places⟩ := exists_places perm
  obtain ⟨g', made', same⟩ := made.moved declared places (named ds collected)
  have loaded' : load files' file = .ok g' := by
    rw [load, reordered.count, collected', ok_bind]
    exact made'
  obtain ⟨ρ, renumbered⟩ :=
    EntityGraph.exists_renumbered same (load_rootAlone h) (load_rootAlone loaded')
  exact ⟨g', ρ, loaded', renumbered⟩

end Blueprint
