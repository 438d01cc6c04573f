import Blueprint.Module.Load
import Blueprint.Proofs.Module.Fields
import Blueprint.Proofs.Module.Order

/-!
# Loaded entities

The entities that the declarations of all modules stand for. Each is what the builder makes of the
fields that its declaration gives, over the entities that it extends; but for its description, which
is never that of a base.
-/

namespace Blueprint

variable {files : Files} {ds : List Declaration} {bs : List (List Nat)}

/-! ### Declarations in the graph -/

/-- What stands in the graph for a declaration. -/
def Declaration.shown (d : Declaration) (e : Entity) : Option Declared :=
  if d.kind = .mixin then none else some ⟨e, if d.isRoot then 0 else d.depth⟩

theorem Declaration.build_ok {d : Declaration} {parents : List Entity} {e : Entity}
    (h : d.build files parents = .ok e) : ∃ draft : EntityDraft,
      d.Gives files (some d.source.description) parents draft ∧ draft.build = .ok e := by
  obtain ⟨draft, drafted, built⟩ := bind_ok h
  exact ⟨draft, draft_gives drafted, built⟩

theorem Declaration.build_kind {d : Declaration} {parents : List Entity} {e : Entity}
    (h : d.build files parents = .ok e) : e.kind = d.kind := by
  obtain ⟨draft, gives, built⟩ := build_ok h
  exact congrArg EntityKey.kind ((EntityDraft.build_key built).trans gives.key)

theorem declareBuilt_ok {d : Declaration} {parents : List Entity} {g g' : EntityGraph} {e : Entity}
    (h : declareBuilt files d parents g = .ok (g', e)) :
    d.build files parents = .ok e ∧ g'.declared = g.declared ++ (d.shown e).toList := by
  obtain ⟨e', built, h⟩ := bind_ok h
  have kind := Declaration.build_kind built
  unfold Declaration.shown
  split at h
  · rename_i root
    obtain ⟨⟨_, handle⟩, declared, h⟩ := bind_ok h
    obtain ⟨rfl, rfl⟩ := Prod.mk.inj (Except.ok.inj h)
    obtain ⟨⟨rooting, -⟩, rfl, -⟩ := EntityGraph.declareRoot_ok_iff.mp declared
    have concrete : e'.kind ≠ .mixin := by
      intro mixin
      rw [mixin] at rooting
      cases rooting
    rw [if_neg (kind ▸ concrete), if_pos root]
    exact ⟨built, rfl⟩
  · rename_i other
    split at h
    · rename_i mixin
      obtain ⟨rfl, rfl⟩ := Prod.mk.inj (Except.ok.inj h)
      rw [if_pos mixin]
      exact ⟨built, (List.append_nil _).symm⟩
    · rename_i concrete
      obtain ⟨rfl, rfl⟩ := Prod.mk.inj (Except.ok.inj h)
      rw [if_neg concrete, if_neg other]
      exact ⟨built, rfl⟩

/-! ### A run over an order -/

/-- When a run is over, every declaration has been built over its bases as they are in the end:
where one is built after its bases, what it finds of them stays. -/
theorem declareAll_ok {before order : List Nat} {built : List (Nat × Entity)} {g g' : EntityGraph}
    (follows : Inheritance.Follows bs before order) (places : bs.length = ds.length)
    (known : ∀ j, (built.lookup j).isSome ↔ j ∈ before)
    (h : declareAll files ds bs built g order = .ok g') :
    ∃ loaded : Nat → Entity, (∀ j e, built.lookup j = some e → loaded j = e) ∧
      (∀ i ∈ order, ∀ d, ds[i]? = some d →
        d.build files (((bs[i]?).getD []).map loaded) = .ok (loaded i)) ∧
      g'.declared = g.declared ++ order.filterMap fun i => ds[i]?.bind (·.shown (loaded i)) := by
  induction order generalizing before built g with
  | nil =>
    obtain rfl := Except.ok.inj h
    refine ⟨fun j => (built.lookup j).getD default, fun j e found => ?_, List.forall_mem_nil _,
      (List.append_nil _).symm⟩
    simp [found]
  | cons i order ih =>
    obtain ⟨ready, follows⟩ := follows
    have inside : i < ds.length := places ▸ ready.place
    have at_ : ds[i]? = some ds[i] := List.getElem?_eq_getElem inside
    rw [declareAll, at_] at h
    dsimp only at h
    obtain ⟨⟨g₁, e⟩, first, rest⟩ := bind_ok h
    obtain ⟨firstBuilt, declared⟩ := declareBuilt_ok first
    -- Nothing is built twice, so an entity that was found is the last word.
    have stays : ∀ j e', built.lookup j = some e' → List.lookup j ((i, e) :: built) = some e' := by
      intro j e' found
      have earlier : j ∈ before := (known j).mp (found ▸ rfl)
      have other : j ≠ i := fun same => ready.fresh (same ▸ earlier)
      rw [List.lookup_cons, beq_eq_false_iff_ne.mpr other]
      exact found
    have known' : ∀ j, (List.lookup j ((i, e) :: built)).isSome ↔ j ∈ before ++ [i] := by
      intro j
      by_cases same : j = i
      · simp [same]
      · rw [List.lookup_cons, beq_eq_false_iff_ne.mpr same]
        simpa [same] using known j
    obtain ⟨loaded, final, each, all⟩ := ih follows known' rest
    have found : ∀ j ∈ (bs[i]?).getD [], built.lookup j = some (loaded j) := by
      intro j mem
      obtain ⟨e', found⟩ := Option.isSome_iff_exists.mp ((known j).mpr (ready.bases j mem))
      rw [found, final j e' (stays j e' found)]
    have parents : ((bs[i]?).getD []).filterMap (List.lookup · built) =
        ((bs[i]?).getD []).map loaded := by
      rw [List.filterMap_congr found, List.filterMap_eq_map']
    have own : loaded i = e := final i e (by simp)
    refine ⟨loaded, fun j e' found => final j e' (stays j e' found), ?_, ?_⟩
    · refine List.forall_mem_cons.mpr ⟨fun d here => ?_, each⟩
      obtain rfl := Option.some.inj (at_.symm.trans here)
      rw [own, ← parents]
      exact firstBuilt
    · have here : (ds[i]?.bind (·.shown (loaded i))) = ds[i].shown e := by rw [at_, own]; rfl
      rw [all, declared, List.append_assoc, List.filterMap_cons, here]
      cases ds[i].shown e <;> rfl

theorem shown_places (loaded : Nat → Entity) :
    ((List.range ds.length).filterMap fun i => ds[i]?.bind (·.shown (loaded i))) =
      (ds.zip ((List.range ds.length).map loaded)).filterMap fun x => x.1.shown x.2 := by
  have places : (ds.zip (List.range ds.length)).map Prod.snd = List.range ds.length :=
    List.map_snd_zip (by simp)
  rw [List.zip_map_right, List.filterMap_map]
  nth_rewrite 1 [← places]
  rw [List.filterMap_map]
  refine List.filterMap_congr fun x mem => ?_
  obtain ⟨k, here⟩ := List.mem_iff_getElem?.mp mem
  obtain ⟨at_, place⟩ := List.getElem?_zip_eq_some.mp here
  obtain ⟨_, same⟩ := List.getElem?_eq_some_iff.mp place
  rw [List.getElem_range] at same
  subst same
  simp [at_]

/-! ### The entities of a graph -/

/-- The entities that a declaration extends, in that order. -/
def Declaration.Over (ds : List Declaration) (es : List Entity) (i : Nat) (d : Declaration)
    (parents : List Entity) : Prop :=
  List.Forall₂ (fun name b => ∃ j, Inheritance.base ds i d name = .ok j ∧ es[j]? = some b)
    d.source.bases parents

/-- An entity is what the builder makes of a declaration over its bases, but for the description:
an omitted one counts as an empty one, and so hides those of the bases. -/
structure Declaration.Loads (d : Declaration) (files : Files) (parents : List Entity)
    (merged e : Entity) : Prop where
  bases : Entity.ofBases d.key parents = .ok merged
  inherits : d.Inherits merged e
  description : e.description = d.source.description
  /-- The declaration may have omitted its description if that is empty. -/
  built : ∀ given : Option String, given.getD "" = d.source.description →
    ∃ draft built, d.Gives files given parents draft ∧ draft.build = .ok built ∧
      e = { built with description := d.source.description } ∧
      (e = built ↔ given.isSome ∨ merged.description = "")

/-- The declarations of all modules with the entities that they stand for. -/
structure EntityGraph.Loaded (g : EntityGraph) (files : Files) (file : Path)
    (ds : List Declaration) (es : List Entity) : Prop where
  collected : collectAll files files.count [] [] [⟨file, 0, ∅⟩] = .ok ds
  each : es.length = ds.length
  declared : g.declared.Perm ((ds.zip es).filterMap fun x => x.1.shown x.2)
  loads : ∀ i (d : Declaration) e, ds[i]? = some d → es[i]? = some e →
    ∃ parents merged, d.Over ds es i parents ∧ d.Loads files parents merged e

theorem Entity.eq_described_iff (e : Entity) (text : String) :
    e = { e with description := text } ↔ e.description = text :=
  ⟨fun same => congrArg Entity.description same, fun same => same ▸ rfl⟩

theorem Declaration.build_loads {d : Declaration} {parents : List Entity} {e : Entity}
    (h : d.build files parents = .ok e) : ∃ merged, d.Loads files parents merged e := by
  obtain ⟨draft, gives, built⟩ := build_ok h
  obtain ⟨merged, based, leaves⟩ := EntityDraft.build_leaves built
  rw [gives.key, gives.bases] at based
  have description : e.description = d.source.description := by
    obtain ⟨merged', -, described⟩ := EntityDraft.build_described built draft.description
    have same := Except.ok.inj (built.symm.trans described)
    rw [same, gives.description]
    rfl
  refine ⟨merged, based, gives.inherits leaves, description, fun given same => ?_⟩
  obtain ⟨merged', based', rebuilt⟩ := EntityDraft.build_described built given
  rw [gives.key, gives.bases] at based'
  obtain rfl := Except.ok.inj (based.symm.trans based')
  refine ⟨_, _, gives.described given, rebuilt, ?_, ?_⟩
  · rw [← description]
  · rw [Entity.eq_described_iff, description, ← same]
    cases given with
    | some text => simp
    | none =>
      simp only [Option.getD_none, Option.isSome_none, Bool.false_eq_true, false_or]
      exact eq_comm

/-! ### A module that is alone -/

/-- What is left of loading when the declarations are collected. -/
def loadCollected (files : Files) (ds : List Declaration) : Except CompileError EntityGraph := do
  let bs ← Inheritance.bases ds
  declareAll files ds bs [] .empty (← Inheritance.order ds bs)

/-- A module that imports nothing is all there is to read. -/
theorem load_alone {file : Path} {n : Nat} (left : files.count = n + 1)
    (h : Visit.collect ⟨file, 0, ∅⟩ files = .ok (ds, [])) :
    load files file = loadCollected files ds := by
  have collected : collectAll files files.count [] [] [⟨file, 0, ∅⟩] = .ok ds := by
    rw [left]
    unfold collectAll
    rw [if_neg (by simp)]
    dsimp only
    rw [h, ok_bind]
    unfold collectAll
    rfl
  rw [load, collected]
  rfl

/-- A root that says nothing over a mixin with a description and a variable. -/
def lab : Files := .ofList
  [(⟨"lab.yaml"⟩,
    "kind: environment\nname: Lab\nroot: \x7bextends: [base]\x7d\nmixins:\n" ++
      "  base: \x7bdescription: shared, variables: \x7bsite: north\x7d\x7d\n")]

theorem lab_loads : ∃ g, load lab ⟨"lab.yaml"⟩ = .ok g ∧
    (g.declared.map fun x => (x.entity.key, x.entity.lineage, x.entity.vars.values)) =
      [(⟨.environment, "Lab"⟩, ["base"], [.plain "site" "north"])] ∧
    (g.declared.map fun x => x.entity.description) = [""] := by
  obtain ⟨⟨ds, imports⟩, collected, alone, tested⟩ := ok_of_test
    (x := Visit.collect ⟨⟨"lab.yaml"⟩, 0, ∅⟩ lab)
    (P := fun r => r.2.isEmpty = true ∧ ((loadCollected lab r.1).toOption.any fun g => decide (
      (g.declared.map fun x => (x.entity.key, x.entity.lineage, x.entity.vars.values)) =
        [(⟨.environment, "Lab"⟩, ["base"], [.plain "site" "north"])] ∧
      (g.declared.map fun x => x.entity.description) = [""])) = true) (by decide +kernel)
  obtain rfl := List.isEmpty_iff.mp alone
  obtain ⟨g, loaded, facts⟩ := ok_of_test tested
  exact ⟨g, (load_alone rfl collected).trans loaded, facts⟩

/-! ### Loading -/

theorem load_inherits {file : Path} {g : EntityGraph} (h : load files file = .ok g) :
    ∃ ds es, g.Loaded files file ds es := by
  obtain ⟨ds, collected, h⟩ := bind_ok h
  obtain ⟨bs, based, h⟩ := bind_ok h
  obtain ⟨order, ordered, h⟩ := bind_ok h
  obtain ⟨follows, all⟩ := Inheritance.order_ok ordered
  obtain ⟨places, bases⟩ := Inheritance.bases_ok based
  obtain ⟨loaded, -, each, declared⟩ := declareAll_ok follows places (by simp) h
  refine ⟨ds, (List.range ds.length).map loaded, collected, by simp, ?_, fun i d e here there => ?_⟩
  · rw [declared, ← shown_places, ← places]
    exact all.filterMap _
  · have inside : i < ds.length := (List.getElem?_eq_some_iff.mp here).1
    obtain rfl : loaded i = e := by simpa [inside] using there
    have met : i ∈ order := all.mem_iff.mpr (List.mem_range.mpr (places ▸ inside))
    obtain ⟨merged, loads⟩ := Declaration.build_loads (each i met d here)
    refine ⟨_, merged, List.forall₂_map_right_iff.mpr ((bases i d here).imp fun name j found => ?_),
      loads⟩
    exact ⟨j, found, by simp [Inheritance.base_place found]⟩

theorem load_inherits_lab : ∃ g, load lab ⟨"lab.yaml"⟩ = .ok g ∧
    (g.declared.map fun x => x.entity.description) = [""] ∧
    ∃ ds es, g.Loaded lab ⟨"lab.yaml"⟩ ds es := by
  obtain ⟨g, loaded, -, description⟩ := lab_loads
  exact ⟨g, loaded, description, load_inherits loaded⟩

/-- The builder lets the root of the same module have the description of the mixin. -/
theorem lab_hides_description : ∃ g base built, load lab ⟨"lab.yaml"⟩ = .ok g ∧
    EntityDraft.build { kind := .mixin, name := "base", description := some "shared"
                        vars := [.plain "site" "north"] } = .ok base ∧
    EntityDraft.build { kind := .environment, name := "Lab", bases := [base] } = .ok built ∧
    (g.declared.map fun x => (x.entity.key, x.entity.lineage, x.entity.vars.values)) =
      [(built.key, built.lineage, built.vars.values)] ∧
    built.description = "shared" ∧ (g.declared.map fun x => x.entity.description) = [""] := by
  obtain ⟨g, loaded, rest, description⟩ := lab_loads
  obtain ⟨base, based, tested⟩ := ok_of_test
    (x := EntityDraft.build { kind := .mixin, name := "base", description := some "shared"
                              vars := [.plain "site" "north"] })
    (P := fun base =>
      ((EntityDraft.build { kind := .environment, name := "Lab", bases := [base] }).toOption.any
        fun built => decide (built.key = ⟨.environment, "Lab"⟩ ∧ built.lineage = ["base"] ∧
          built.vars.values = [.plain "site" "north"] ∧ built.description = "shared")) = true)
    (by decide +kernel)
  obtain ⟨built, made, key, lineage, vars, shared⟩ := ok_of_test tested
  exact ⟨g, base, built, loaded, based, made, by rw [rest, key, lineage, vars], shared, description⟩

end Blueprint
