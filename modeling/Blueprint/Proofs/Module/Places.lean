import Blueprint.Proofs.Module.Load
import Blueprint.Proofs.Module.Visits

/-!
# Depths of what is loaded

Every entity of a module that is no mixin stands in the graph once, one deeper than the distance of
its module; nothing but the root has depth zero. `load_shortest` says so of every load from files in
memory, whatever imports what.
-/

namespace Blueprint

variable {files : Files} {fs : List (Path × String)} {file : Path} {v : Visit} {d : Declaration}

/-! ### Depths of declarations -/

/-- The depth that a declaration has by the module it stands in. -/
def Visit.depth (v : Visit) (d : Declaration) : Nat :=
  if d.isRoot then 0 else moduleDepth + v.level

theorem Visit.declares_at (mem : d ∈ v.declares files) :
    d.depth = v.depth d ∧ (d.isRoot = true → v.level = 0) := by
  unfold declares at mem
  split at mem
  · rename_i collected
    obtain ⟨_, -, collected⟩ := bind_ok collected
    obtain ⟨⟨m, params⟩, -, collected⟩ := bind_ok collected
    obtain ⟨roots, root, collected⟩ := bind_ok collected
    obtain ⟨rfl, -⟩ := Prod.mk.inj (pure_ok collected)
    rcases List.mem_append.mp mem with mem | mem
    · obtain ⟨_, -, rfl⟩ := List.mem_map.mp mem
      exact ⟨rfl, nofun⟩
    · unfold Visit.root at root
      split at root
      · rename_i level
        split at root
        · cases root
        · cases root
        · obtain rfl := Except.ok.inj root
          obtain rfl := List.mem_singleton.mp mem
          exact ⟨rfl, fun _ => level⟩
      · split at root
        · cases root
        · obtain rfl := Except.ok.inj root
          cases mem
  · cases mem

theorem Visit.declares_root (collects : v.Collects files) (level : v.level = 0) :
    ∃ d ∈ v.declares files, d.isRoot = true := by
  obtain ⟨_, -, collected⟩ := bind_ok collects
  obtain ⟨⟨m, params⟩, -, collected⟩ := bind_ok collected
  obtain ⟨roots, root, collected⟩ := bind_ok collected
  obtain ⟨all, -⟩ := Prod.mk.inj (pure_ok collected)
  rw [all]
  unfold Visit.root at root
  rw [if_pos level] at root
  split at root
  · cases root
  · cases root
  · obtain rfl := Except.ok.inj root
    exact ⟨_, List.mem_append_right _ (List.mem_singleton_self _), rfl⟩

/-! ### The root of a graph -/

namespace EntityGraph

/-- The root alone has depth zero. -/
def RootAlone (g : EntityGraph) : Prop := ∀ id, g.root = some id ↔ g.depth? id = some 0

variable {g g' : EntityGraph} {e : Entity}

theorem depth?_append {x : Declared} (h : g'.declared = g.declared ++ [x]) (id : EntityId) :
    g'.depth? id = if id = g.size then some x.depth else g.depth? id := by
  rw [depth?, depth?, h]
  rcases Nat.lt_trichotomy id g.size with before | rfl | after
  · rw [if_neg (Nat.ne_of_lt before), List.getElem?_append_left before]
  · rw [if_pos rfl, size, List.getElem?_concat_length]
    rfl
  · have outside : (g.declared ++ [x]).length ≤ id := by
      rw [List.length_append]
      exact after
    rw [if_neg (Nat.ne_of_gt after), List.getElem?_eq_none outside,
      List.getElem?_eq_none (Nat.le_of_lt after)]

theorem depth?_size (g : EntityGraph) : g.depth? g.size = none := by
  rw [depth?, size, List.getElem?_eq_none (Nat.le_refl _)]
  rfl

theorem RootAlone.declareAt (h : g.RootAlone) (e : Entity) {depth : Nat} (deep : 0 < depth) :
    (g.declareAt e depth).1.RootAlone := by
  intro id
  rw [depth?_append (x := ⟨e, depth⟩) rfl]
  show g.root = some id ↔ _
  by_cases last : id = g.size
  · rw [if_pos last, h id, last, g.depth?_size]
    simp only [Option.some.injEq]
    constructor
    · nofun
    · omega
  · rw [if_neg last, h id]

theorem RootAlone.declareRoot {handle : Handle} (h : g.RootAlone)
    (declared : g.declareRoot e = .ok (g', handle)) : g'.RootAlone := by
  obtain ⟨⟨-, free⟩, rfl, -⟩ := declareRoot_ok_iff.mp declared
  intro id
  rw [depth?_append (g := g) (x := ⟨e, 0⟩) rfl]
  show some g.size = some id ↔ _
  by_cases last : id = g.size
  · simp [last]
  · rw [if_neg last, ← h id, free]
    simp [Ne.symm last]

end EntityGraph

/-- Only a root may lie as deep as the root. -/
def Declaration.Deep (d : Declaration) : Prop := d.isRoot = false → 0 < d.depth

theorem declareBuilt_rootAlone {parents : List Entity} {g g' : EntityGraph} {e : Entity}
    (h : declareBuilt files d parents g = .ok (g', e)) (deep : d.Deep) (alone : g.RootAlone) :
    g'.RootAlone := by
  obtain ⟨e', -, h⟩ := bind_ok h
  split at h
  · obtain ⟨⟨_, handle⟩, declared, h⟩ := bind_ok h
    obtain ⟨rfl, -⟩ := Prod.mk.inj (Except.ok.inj h)
    exact alone.declareRoot declared
  · rename_i other
    split at h
    · obtain ⟨rfl, -⟩ := Prod.mk.inj (Except.ok.inj h)
      exact alone
    · obtain ⟨rfl, -⟩ := Prod.mk.inj (Except.ok.inj h)
      exact alone.declareAt e' (deep (Bool.eq_false_iff.mpr other))

theorem declareAll_rootAlone {ds : List Declaration} {bs : List (List Nat)}
    {built : List (Nat × Entity)} {g g' : EntityGraph} {order : List Nat}
    (h : declareAll files ds bs built g order = .ok g') (deep : ∀ d ∈ ds, d.Deep)
    (alone : g.RootAlone) : g'.RootAlone := by
  induction order generalizing built g with
  | nil => exact Except.ok.inj h ▸ alone
  | cons i order ih =>
    unfold declareAll at h
    split at h
    · exact ih h alone
    · rename_i d here
      obtain ⟨⟨g₁, e⟩, first, rest⟩ := bind_ok h
      exact ih rest (declareBuilt_rootAlone first (deep d (List.mem_of_getElem? here)) alone)

theorem declareBuilt_root {parents : List Entity} {g g' : EntityGraph} {e : Entity}
    (h : declareBuilt files d parents g = .ok (g', e)) :
    g'.root.isSome ↔ d.isRoot = true ∨ g.root.isSome := by
  obtain ⟨e', -, h⟩ := bind_ok h
  split at h
  · rename_i root
    obtain ⟨⟨_, handle⟩, declared, h⟩ := bind_ok h
    obtain ⟨rfl, -⟩ := Prod.mk.inj (Except.ok.inj h)
    obtain ⟨-, rfl, -⟩ := EntityGraph.declareRoot_ok_iff.mp declared
    simp [root]
  · rename_i other
    split at h <;> obtain ⟨rfl, -⟩ := Prod.mk.inj (Except.ok.inj h) <;>
      simp [other, EntityGraph.declareAt]

/-- A graph gets a root from the first root among the declarations. -/
theorem declareAll_root {ds : List Declaration} {bs : List (List Nat)}
    {built : List (Nat × Entity)} {g g' : EntityGraph} {order : List Nat}
    (h : declareAll files ds bs built g order = .ok g') :
    g'.root.isSome ↔ (∃ i ∈ order, ∃ d, ds[i]? = some d ∧ d.isRoot = true) ∨ g.root.isSome := by
  induction order generalizing built g with
  | nil => simp [← Except.ok.inj h]
  | cons i order ih =>
    unfold declareAll at h
    split at h
    · rename_i missing
      simp [ih h, missing]
    · rename_i d here
      obtain ⟨⟨g₁, e⟩, first, rest⟩ := bind_ok h
      simp [ih rest, declareBuilt_root first, here, or_assoc, or_comm, or_left_comm]

/-! ### Loading -/

/-- What a load makes: every declaration is built over its bases, and shown in the order of
building. -/
structure EntityGraph.Made (g : EntityGraph) (files : Files) (ds : List Declaration)
    (bs : List (List Nat)) (order : List Nat) (loaded : Nat → Entity) : Prop where
  based : Inheritance.bases ds = .ok bs
  ordered : Inheritance.order ds bs = .ok order
  built : ∀ (i : Nat) (d : Declaration), ds[i]? = some d →
    d.build files (((bs[i]?).getD []).map loaded) = .ok (loaded i)
  declared : g.declared = order.filterMap fun i => ds[i]?.bind (·.shown (loaded i))

theorem load_made {g : EntityGraph} (h : load files file = .ok g) :
    ∃ ds bs order loaded, collectAll files files.count [] [] [⟨file, 0, ∅⟩] = .ok ds ∧
      declareAll files ds bs [] .empty order = .ok g ∧ g.Made files ds bs order loaded := by
  obtain ⟨ds, collected, h⟩ := bind_ok h
  obtain ⟨bs, based, h⟩ := bind_ok h
  obtain ⟨order, ordered, h⟩ := bind_ok h
  obtain ⟨follows, all⟩ := Inheritance.order_ok ordered
  obtain ⟨places, -⟩ := Inheritance.bases_ok based
  obtain ⟨loaded, -, each, declared⟩ := declareAll_ok follows places (by simp) h
  refine ⟨ds, bs, order, loaded, collected, h, based, ordered, fun i d here => ?_, declared⟩
  have inside : i < bs.length := places ▸ (List.getElem?_eq_some_iff.mp here).1
  exact each i (all.mem_iff.mpr (List.mem_range.mpr inside)) d here

/-- The entities of all modules that were read: each that is no mixin stands in the graph once, at
the depth of its module, and the root alone has depth zero. -/
structure EntityGraph.Places (g : EntityGraph) (files : Files) (visits : List Visit) : Prop where
  declared : ∃ es, List.Forall₂ (fun d e => ∃ parents, Declaration.build d files parents = .ok e)
      (visits.flatMap (Visit.declares · files)) es ∧
    g.declared.Perm (((visits.flatMap (Visit.declares · files)).zip es).filterMap fun x =>
      if x.1.kind = .mixin then none else some ⟨x.2, x.1.depth⟩)
  depths : ∀ v ∈ visits, ∀ d ∈ v.declares files,
    d.depth = if d.isRoot then 0 else moduleDepth + v.level
  root : ∃ root, g.root = some root ∧ ∀ id, g.depth? id = some 0 ↔ id = root
  concrete : ∀ d ∈ g.declared, d.entity.kind ≠ .mixin

theorem EntityGraph.Made.mem_order {g : EntityGraph} {ds : List Declaration} {bs : List (List Nat)}
    {order : List Nat} {loaded : Nat → Entity} (h : g.Made files ds bs order loaded) {i : Nat}
    (here : ds[i]? = some d) : i ∈ order := by
  obtain ⟨-, all⟩ := Inheritance.order_ok h.ordered
  obtain ⟨places, -⟩ := Inheritance.bases_ok h.based
  exact all.mem_iff.mpr (List.mem_range.mpr (places ▸ (List.getElem?_eq_some_iff.mp here).1))

theorem EntityGraph.Made.perm {g : EntityGraph} {ds : List Declaration} {bs : List (List Nat)}
    {order : List Nat} {loaded : Nat → Entity} (h : g.Made files ds bs order loaded) :
    g.declared.Perm ((ds.zip ((List.range ds.length).map loaded)).filterMap fun x =>
      x.1.shown x.2) := by
  obtain ⟨-, all⟩ := Inheritance.order_ok h.ordered
  obtain ⟨places, -⟩ := Inheritance.bases_ok h.based
  rw [h.declared, ← shown_places, ← places]
  exact all.filterMap _

/-- The first module that is read gives the graph its root, which alone has depth zero. -/
theorem Traversal.root {g : EntityGraph} {bs : List (List Nat)} {order : List Nat}
    {loaded : Nat → Entity} {visits : List Visit} (traversal : Traversal files file visits)
    (made : g.Made files (visits.flatMap (Visit.declares · files)) bs order loaded)
    (declared : declareAll files (visits.flatMap (Visit.declares · files)) bs [] .empty order = .ok g) :
    ∃ root, g.root = some root ∧ ∀ id, g.depth? id = some 0 ↔ id = root := by
  have deep : ∀ d ∈ visits.flatMap (Visit.declares · files), d.Deep := by
    intro d mem other
    obtain ⟨v, met, mem⟩ := List.mem_flatMap.mp mem
    rw [(Visit.declares_at mem).1, Visit.depth, other]
    exact Nat.lt_of_lt_of_le Nat.zero_lt_one (Nat.le_add_right _ _)
  have alone : g.RootAlone := declareAll_rootAlone declared deep (fun id => by
    simp [EntityGraph.depth?])
  have first : ⟨file, 0, ∅⟩ ∈ visits := List.mem_of_mem_head? traversal.first
  obtain ⟨d, mem, root⟩ := Visit.declares_root (traversal.collects _ first) rfl
  have listed : d ∈ visits.flatMap (Visit.declares · files) := List.mem_flatMap.mpr ⟨_, first, mem⟩
  obtain ⟨i, place⟩ := List.mem_iff_getElem?.mp listed
  obtain ⟨root, here⟩ := Option.isSome_iff_exists.mp
    ((declareAll_root declared).mpr (.inl ⟨i, made.mem_order place, d, place, root⟩))
  exact ⟨root, here, fun id => by rw [← alone id, here, Option.some.injEq, eq_comm]⟩

theorem load_places {g : EntityGraph} (h : load (.ofList fs) file = .ok g) :
    ∃ visits, Traversal (.ofList fs) file visits ∧ g.Places (.ofList fs) visits := by
  obtain ⟨ds, bs, order, loaded, collected, declared, made⟩ := load_made h
  obtain ⟨visits, traversal, rfl⟩ := collectAll_traversal collected
  let ds := visits.flatMap (Visit.declares · (.ofList fs))
  let es := (List.range ds.length).map loaded
  have depths : ∀ v ∈ visits, ∀ d ∈ v.declares (.ofList fs), d.depth = v.depth d :=
    fun v _ d mem => (Visit.declares_at mem).1
  have flat : ∀ d ∈ ds, (if d.isRoot then 0 else d.depth) = d.depth := by
    intro d mem
    obtain ⟨v, met, mem⟩ := List.mem_flatMap.mp mem
    rw [depths v met d mem, Visit.depth]
    split <;> rfl
  have built : List.Forall₂ (fun d e => ∃ parents, Declaration.build d (.ofList fs) parents = .ok e)
      ds es := by
    refine List.forall₂_iff_get.mpr ⟨by simp [es], fun i here there => ?_⟩
    have own := made.built i _ (List.getElem?_eq_getElem here)
    exact ⟨_, by simpa [es] using own⟩
  have listed : g.declared.Perm ((ds.zip es).filterMap fun x =>
      if x.1.kind = .mixin then none else some ⟨x.2, x.1.depth⟩) := by
    refine made.perm.trans (List.Perm.of_eq (List.filterMap_congr fun x mem => ?_))
    rw [Declaration.shown, flat x.1 (List.of_mem_zip mem).1]
  refine ⟨visits, traversal, ⟨es, built, listed⟩, depths, traversal.root made declared, ?_⟩
  intro x mem
  obtain ⟨⟨d, e⟩, pair, shown⟩ := List.mem_filterMap.mp (listed.mem_iff.mp mem)
  obtain ⟨parents, made⟩ := List.forall₂_zip built pair
  split at shown
  · cases shown
  · rename_i concrete
    rw [← Option.some.inj shown, Declaration.build_kind made]
    exact concrete

/-- **Loading ends, and takes the shortest ways.** Whatever files import each other, no run of the
worklist goes on for ever, and loading collects what the run from the root module ends with. Where it
succeeds, the modules that imports lead to have been read once each, at their least distances, and
their entities stand in the graph once each, one deeper than that. -/
theorem load_shortest (fs : List (Path × String)) (file : Path) :
    (WellFounded fun t s => Loading.Step (.ofList fs) s t) ∧
      (∀ r, collectAll (.ofList fs) (Files.ofList fs).count [] [] [⟨file, 0, ∅⟩] = r ↔
        (Loading.start file).Runs (.ofList fs) r) ∧
      ∀ g, load (.ofList fs) file = .ok g →
        ∃ visits, Traversal (.ofList fs) file visits ∧ g.Places (.ofList fs) visits :=
  ⟨Loading.step_wellFounded fs, fun _ => collectAll_start_iff, fun _ loaded => load_places loaded⟩

theorem load_of_run? {n : Nat} {ds : List Declaration}
    (h : Loading.run? (.ofList fs) n (.start file) = some (.ok ds)) :
    load (.ofList fs) file = loadCollected (.ofList fs) ds := by
  have collected := collectAll_start_iff.mpr (Loading.runs_of_run? h)
  change (collectAll (.ofList fs) fs.length [] [] [⟨file, 0, ∅⟩] >>= loadCollected (.ofList fs)) = _
  rw [collected, ok_bind]

/-- Modules that import themselves, each other and their root; `d.yaml` is three imports away on one
way and two on another. -/
def ring : List (Path × String) :=
  [(⟨"a.yaml"⟩, "kind: project\nname: P\nimports: [b.yaml, c.yaml, a.yaml]\nmixins:\n  m: \x7b\x7d\n"),
    (⟨"b.yaml"⟩, "imports: [c.yaml, b.yaml]\nendpoints:\n  e: \x7b\x7d\n"),
    (⟨"c.yaml"⟩, "imports: [b.yaml, d.yaml]\ncredentials:\n  e: \x7b\x7d\n"),
    (⟨"d.yaml"⟩, "imports: [a.yaml]\nservices:\n  e: \x7b\x7d\n")]

theorem load_shortest_ring : ∃ g, load (.ofList ring) ⟨"a.yaml"⟩ = .ok g ∧
    (g.declared.map fun x => (x.entity.key, x.depth)) =
      [(⟨.project, "P"⟩, 0), (⟨.endpoint, "e"⟩, 2), (⟨.credential, "e"⟩, 2), (⟨.service, "e"⟩, 3)] ∧
    ∃ visits, Traversal (.ofList ring) ⟨"a.yaml"⟩ visits ∧ g.Places (.ofList ring) visits := by
  have tested : (Loading.run? (.ofList ring) 10 (.start ⟨"a.yaml"⟩)).any (fun r =>
      r.toOption.any fun ds => (loadCollected (.ofList ring) ds).toOption.any fun g => decide (
        (g.declared.map fun x => (x.entity.key, x.depth)) =
          [(⟨.project, "P"⟩, 0), (⟨.endpoint, "e"⟩, 2), (⟨.credential, "e"⟩, 2),
            (⟨.service, "e"⟩, 3)])) = true := by
    decide +kernel
  cases ran : Loading.run? (.ofList ring) 10 (.start ⟨"a.yaml"⟩) with
  | none =>
    rw [ran] at tested
    cases tested
  | some r =>
    rw [ran] at tested
    obtain ⟨ds, rfl, tested⟩ := ok_of_test (P := fun ds => Option.any _ _ = true) (by simpa using tested)
    obtain ⟨g, made, entities⟩ := ok_of_test tested
    have loaded := (load_of_run? ran).trans made
    exact ⟨g, loaded, entities, (load_shortest ring ⟨"a.yaml"⟩).2.2 g loaded⟩

end Blueprint
