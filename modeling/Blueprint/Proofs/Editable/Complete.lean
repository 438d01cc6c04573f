import Blueprint.Proofs.Editable.Extract
import Blueprint.Proofs.Entity.Override
import Blueprint.Proofs.Graph.Calls
import Blueprint.Proofs.Macro.Check

/-!
# Everything that is extracted

The fields of an editable tree are, each once, what the reachable entities let be overridden at
launch. `extract_complete` says so together with the grouping into sections; `build_overridables`
says what an entity that was built lets be overridden.
-/

namespace Blueprint

/-! ### What may be overridden -/

/-- Something of an entity that may be overridden at launch. -/
inductive Overridable where
  | own (v : Variable)
  | attribute (path : String)
  | inAction (a : Action) (v : Variable)

/-- A variable below some place of the payload. -/
def EditableField.ofVariable (base : String) (v : Variable) : EditableField where
  name := v.name
  path := base ++ ".variable_list[" ++ v.name ++ "].value"
  value := .str v.wireValue

namespace Entity

/-- The runtime variables, the attributes listed as editable, and the runtime variables of each
action. -/
def overridables (e : Entity) : List Overridable :=
  (e.vars.values.filter (·.isRuntime)).map .own ++
    (e.editables.map .attribute ++
      e.actions.values.flatMap fun a => (a.vars.values.filter (·.isRuntime)).map (.inAction a))

/-- The field for something of this entity, whose object stands at this path. -/
def field (e : Entity) (base : String) : Overridable → EditableField
  | .own v => .ofVariable base v
  | .attribute path => ⟨path, base ++ "." ++ path, (e.attrValue? path).getD .null⟩
  | .inAction a v => .ofVariable (base ++ "." ++ e.kind.actionPath a.name) v

end Entity

namespace EditableTree

open OrderedMap (Each)

variable {r : ResolvedGraph} {t : EditableTree} {base : String} {e : Entity}

theorem variablePath (base name : String) :
    base ++ "." ++ (Selector.mk "variable_list" (some name)).text ++ ".value" =
      base ++ ".variable_list[" ++ name ++ "].value" := by
  have first : "." ++ "variable_list" ++ "[" = ".variable_list[" := rfl
  have last : "]" ++ ".value" = "].value" := rfl
  rw [Selector.text, ← first, ← last]
  simp only [String.append_assoc]

theorem variableFields_eq (base : String) (vs : List Variable) :
    variableFields base vs = (vs.filter (·.isRuntime)).map (.ofVariable base) :=
  List.map_congr_left fun v _ => by rw [EditableField.ofVariable, variablePath]

theorem fields_actionEntries (base : String) (e : Entity) :
    (actionEntries base e).flatMap (·.vars) = e.actions.values.flatMap fun a =>
      variableFields (base ++ "." ++ e.kind.actionPath a.name) a.vars.values := by
  rw [actionEntries]
  induction e.actions.values with
  | nil => rfl
  | cons a as ih =>
    rw [List.filterMap_cons, List.flatMap_cons]
    split
    · rename_i none
      dsimp only at none
      split at none
      · rename_i empty
        rw [ih, List.isEmpty_iff.mp empty, List.nil_append]
      · cases none
    · rename_i entry some
      dsimp only at some
      split at some
      · cases some
      · rw [← Option.some.inj some, List.flatMap_cons, ih]

/-- An entry has one field for each thing that may be overridden. -/
theorem fields_entry (base : String) (e : Entity) :
    (entry base e).fields = e.overridables.map (e.field base) := by
  have actions : (actionEntries base e).flatMap (·.vars) =
      e.actions.values.flatMap fun a => (a.vars.values.filter (·.isRuntime)).map
        fun v => e.field base (.inAction a v) := by
    rw [fields_actionEntries]
    exact List.flatMap_congr fun a _ => variableFields_eq _ _
  rw [EditableEntity.fields, entry, actions]
  simp only [Entity.overridables, List.map_append, List.map_map, List.map_flatMap,
    List.append_assoc, variableFields_eq]
  rfl

theorem actionEntries_filled (base : String) (e : Entity) :
    ∀ a ∈ actionEntries base e, a.vars ≠ [] := by
  intro action mem
  obtain ⟨a, -, shown⟩ := List.mem_filterMap.mp mem
  dsimp only at shown
  split at shown
  · cases shown
  · rename_i some
    exact Option.some.inj shown ▸ fun empty => some (List.isEmpty_iff.mpr empty)

theorem isEmpty_entry (base : String) (e : Entity) :
    (entry base e).isEmpty = e.overridables.isEmpty := by
  have same : (entry base e).isEmpty = (entry base e).fields.isEmpty := by
    rw [EditableEntity.isEmpty, EditableEntity.fields, entry, Bool.eq_iff_iff]
    simp only [Bool.and_eq_true, List.isEmpty_iff, List.append_eq_nil_iff, List.flatMap_eq_nil_iff]
    refine and_congr_right fun _ => ⟨fun none => by simp [none], fun none => ?_⟩
    exact List.eq_nil_iff_forall_not_mem.mpr fun a mem =>
      actionEntries_filled base e a mem (none a mem)
  rw [same, fields_entry, List.isEmpty_map]

/-! ### Grouping into sections -/

theorem flatten_put {α : Type} (k : String) (x : α) (es : List (String × List α)) :
    ((Entries.put k ((Entries.get? k es).getD [] ++ [x]) es).map (·.2)).flatten.Perm
      ((es.map (·.2)).flatten ++ [x]) := by
  induction es with
  | nil => exact .refl _
  | cons e es ih =>
    rw [Entries.put, Entries.get?]
    split
    · simp only [Option.getD_some, List.map_cons, List.flatten_cons, List.append_assoc]
      exact List.perm_append_comm.append_left e.2
    · simp only [List.map_cons, List.flatten_cons, List.append_assoc]
      exact ih.append_left e.2

variable {name : String} {x : EditableEntity}

theorem fields_of_isEmpty (h : x.isEmpty = true) : x.fields = [] := by
  simp only [EditableEntity.isEmpty, Bool.and_eq_true, List.isEmpty_iff] at h
  simp [EditableEntity.fields, h]

theorem fields_add : (t.add name x).fields.Perm (t.fields ++ x.fields) := by
  unfold add
  split
  · rename_i empty
    rw [fields_of_isEmpty empty, List.append_nil]
  · have grouped := (flatten_put name x t.sections.entries).flatMap_right EditableEntity.fields
    rw [List.flatMap_append, List.flatMap_singleton] at grouped
    exact grouped

theorem sectionEntities_add (s : String) : (t.add name x).sectionEntities s =
    t.sectionEntities s ++ if name = s ∧ x.isEmpty = false then [x] else [] := by
  unfold add
  split
  · rename_i empty
    simp [empty]
  · rename_i some
    rw [sectionEntities, OrderedMap.get?_insert]
    by_cases same : name = s
    · simp [same, some]
    · simp [same, sectionEntities]

/-- No section is left empty. -/
theorem nonempty_add (h : t.sections.Each fun _ es => es ≠ []) :
    (t.add name x).sections.Each fun _ es => es ≠ [] := by
  unfold add
  split
  · exact h
  · exact h.insert (by simp)

/-! ### Whole trees -/

variable {items : List (String × EditableEntity)}

theorem fields_foldl : (items.foldl (fun t i => t.add i.1 i.2) t).fields.Perm
    (t.fields ++ items.flatMap (·.2.fields)) := by
  induction items generalizing t with
  | nil => simp
  | cons i items ih =>
    rw [List.foldl_cons, List.flatMap_cons, ← List.append_assoc]
    exact ih.trans (fields_add.append_right _)

theorem sectionEntities_foldl (s : String) :
    (items.foldl (fun t i => t.add i.1 i.2) t).sectionEntities s = t.sectionEntities s ++
      (items.filter fun i => i.1 == s && !i.2.isEmpty).map (·.2) := by
  induction items generalizing t with
  | nil => simp
  | cons i items ih =>
    rw [List.foldl_cons, ih, sectionEntities_add, List.append_assoc, List.filter_cons]
    congr 1
    by_cases here : i.1 = s ∧ i.2.isEmpty = false
    · simp [here]
    · have left : (i.1 == s && !i.2.isEmpty) = false := by
        simpa [Bool.and_eq_false_iff] using here
      rw [if_neg here, left]
      rfl

theorem nonempty_foldl (h : t.sections.Each fun _ es => es ≠ []) :
    (items.foldl (fun t i => t.add i.1 i.2) t).sections.Each fun _ es => es ≠ [] := by
  induction items generalizing t with
  | nil => exact h
  | cons i items ih => exact ih (nonempty_add h)

/-- The section of an entity and its entry there. -/
def placedEntry (r : ResolvedGraph) (id : EntityId) (e : Entity) : String × EditableEntity :=
  ((place e (id == r.root)).1, entry (place e (id == r.root)).2 e)

theorem foldlM_addEntity {ids : List EntityId}
    (declared : ∀ id ∈ ids, ∃ e, r.graph.entity? id = some e) : ids.foldlM (addEntity r) t =
      .ok ((ids.filterMap fun id => (r.graph.entity? id).map (placedEntry r id)).foldl
        (fun t i => t.add i.1 i.2) t) := by
  induction ids generalizing t with
  | nil => rfl
  | cons id ids ih =>
    obtain ⟨⟨e, found⟩, rest⟩ := List.forall_mem_cons.mp declared
    have here : r.entity id = .ok e := EntityGraph.entity_ok.mpr found
    have added : addEntity r t id = .ok (t.add (placedEntry r id e).1 (placedEntry r id e).2) := by
      rw [addEntity, here]
      rfl
    rw [List.foldlM_cons, added, ok_bind, ih rest, List.filterMap_cons, found]
    rfl

/-- The section of an entity, and the path of its object in the payload. -/
inductive Grouped (r : ResolvedGraph) (id : EntityId) (e : Entity) : String → String → Prop where
  | collected {collection : String} (inner : id ≠ r.root)
      (kind : e.kind.collection? = some collection) :
      Grouped r id e collection ("spec.resources" ++ "." ++ (collection ++ "[" ++ e.name ++ "]"))
  | root (outer : id = r.root ∨ e.kind.collection? = none) : Grouped r id e "root" "spec.resources"

theorem grouped_iff {id : EntityId} {s path : String} :
    Grouped r id e s path ↔ place e (id == r.root) = (s, path) := by
  unfold place
  constructor
  · intro grouped
    cases grouped with
    | collected inner kind =>
      rw [kind]
      simp [inner, resourcesPath, Selector.text]
    | root outer =>
      rcases outer with rfl | kind
      · cases e.kind.collection? <;> simp [rootSection, resourcesPath]
      · rw [kind]
        rfl
  · intro same
    split at same
    · rename_i collection kind
      split at same
      · rename_i first
        obtain ⟨rfl, rfl⟩ := Prod.mk.inj same
        exact .root (.inl (by simpa using first))
      · rename_i inner
        obtain ⟨rfl, rfl⟩ := Prod.mk.inj same
        exact .collected (by simpa using inner) kind
    · rename_i none
      obtain ⟨rfl, rfl⟩ := Prod.mk.inj same
      exact .root (.inr none)

/-- The entry of an entity whose object stands at this path. -/
structure Lists (base : String) (e : Entity) (x : EditableEntity) : Prop where
  name : x.name = e.name
  vars : x.vars = (e.vars.values.filter (·.isRuntime)).map (.ofVariable base)
  attrs : x.attrs = e.editables.map fun path => e.field base (.attribute path)
  /-- Actions without runtime variables are left out. -/
  actions : x.actions = (e.actions.values.filter fun a => a.vars.values.any (·.isRuntime)).map
    fun a => ⟨e.kind.actionWireName a.name, (a.vars.values.filter (·.isRuntime)).map
      (.ofVariable (base ++ "." ++ e.kind.actionPath a.name))⟩

theorem lists_entry (base : String) (e : Entity) : Lists base e (entry base e) where
  name := rfl
  vars := variableFields_eq base _
  attrs := rfl
  actions := by
    rw [entry, actionEntries, ← List.filterMap_eq_map, List.filterMap_filter]
    refine List.filterMap_congr fun a _ => ?_
    rw [variableFields_eq]
    cases some : a.vars.values.any (·.isRuntime) with
    | true =>
      obtain ⟨v, mem, runtime⟩ := List.any_eq_true.mp some
      have left : v ∈ a.vars.values.filter (·.isRuntime) := List.mem_filter.mpr ⟨mem, runtime⟩
      simp [List.ne_nil_of_mem left]
    | false =>
      have none : a.vars.values.filter (·.isRuntime) = [] :=
        List.filter_eq_nil_iff.mpr fun v mem runtime =>
          Bool.false_ne_true (some.symm.trans (List.any_eq_true.mpr ⟨v, mem, runtime⟩))
      simp [none]

/-- A tree that holds, each once, everything that a resolved graph lets be overridden. -/
structure Complete (r : ResolvedGraph) (t : EditableTree) : Prop where
  fields : ∃ each, List.Forall₂ (fun id fields => ∃ e s base, r.graph.entity? id = some e ∧
      Grouped r id e s base ∧ fields = e.overridables.map (e.field base)) r.reachable each ∧
    t.fields.Perm each.flatten
  /-- A section lists its entities in the order in which they are reached. -/
  sections : ∀ s, ∃ ids, ids.Sublist r.reachable ∧
    (∀ id, id ∈ ids ↔ id ∈ r.reachable ∧ ∃ e base, r.graph.entity? id = some e ∧
      Grouped r id e s base ∧ e.overridables ≠ []) ∧
    List.Forall₂ (fun id x => ∃ e base, r.graph.entity? id = some e ∧ Grouped r id e s base ∧
      Lists base e x) ids (t.sectionEntities s)
  filled : ∀ s ∈ t.sections.keys, t.sectionEntities s ≠ []
  entries : ∀ s, ∀ x ∈ t.sectionEntities s, x.fields ≠ [] ∧ ∀ a ∈ x.actions, a.vars ≠ []

/-- The entry of a declared entity, with its section. -/
def Placed (r : ResolvedGraph) (id : EntityId) (i : String × EditableEntity) : Prop :=
  ∃ e, r.graph.entity? id = some e ∧ i = placedEntry r id e

theorem forall₂_placed {ids : List EntityId}
    (declared : ∀ id ∈ ids, ∃ e, r.graph.entity? id = some e) : List.Forall₂ (Placed r) ids
      (ids.filterMap fun id => (r.graph.entity? id).map (placedEntry r id)) := by
  induction ids with
  | nil => exact .nil
  | cons id ids ih =>
    obtain ⟨⟨e, found⟩, rest⟩ := List.forall_mem_cons.mp declared
    rw [List.filterMap_cons, found]
    exact .cons ⟨e, found, rfl⟩ (ih rest)

/-- Whether something stands in this section. -/
def standsIn (r : ResolvedGraph) (s : String) (id : EntityId) : Bool :=
  (r.graph.entity? id).any fun e => (place e (id == r.root)).1 == s && !e.overridables.isEmpty

theorem standsIn_iff {s : String} {id : EntityId} : standsIn r s id = true ↔
    ∃ e base, r.graph.entity? id = some e ∧ Grouped r id e s base ∧ e.overridables ≠ [] := by
  cases found : r.graph.entity? id with
  | none => simp [standsIn, found]
  | some e =>
    simp only [standsIn, found, Option.any_some, Bool.and_eq_true, beq_iff_eq, Bool.not_eq_true',
      List.isEmpty_eq_false_iff, Option.some.injEq]
    constructor
    · rintro ⟨rfl, some⟩
      exact ⟨e, _, rfl, grouped_iff.mpr rfl, some⟩
    · rintro ⟨_, base, rfl, grouped, some⟩
      exact ⟨congrArg Prod.fst (grouped_iff.mp grouped), some⟩

theorem Placed.stands {id : EntityId} {i : String × EditableEntity} (h : Placed r id i) (s : String) :
    standsIn r s id = (i.1 == s && !i.2.isEmpty) := by
  obtain ⟨e, found, rfl⟩ := h
  rw [standsIn, found, placedEntry, isEmpty_entry]
  rfl

theorem complete_of_extract (declared : ∀ id ∈ r.reachable, ∃ e, r.graph.entity? id = some e) :
    ∃ t, extract r = .ok t ∧ Complete r t := by
  have placed := forall₂_placed declared
  have extracted : extract r = .ok _ := foldlM_addEntity declared
  generalize r.reachable.filterMap (fun id => (r.graph.entity? id).map (placedEntry r id)) = items
    at placed extracted
  have listed : ∀ s, (items.foldl (fun (t : EditableTree) i => t.add i.1 i.2) {}).sectionEntities s =
      (items.filter fun i => i.1 == s && !i.2.isEmpty).map (·.2) := fun s => sectionEntities_foldl s
  refine ⟨_, extracted, ?_, fun s => ?_, fun s mem => ?_, fun s x mem => ?_⟩
  · have fields : List.Forall₂ (fun id fields => ∃ e s base, r.graph.entity? id = some e ∧
        Grouped r id e s base ∧ fields = e.overridables.map (e.field base)) r.reachable
        (items.map fun i => i.2.fields) := by
      refine List.forall₂_map_right_iff.mpr (placed.imp ?_)
      rintro id i ⟨e, found, rfl⟩
      exact ⟨e, _, _, found, grouped_iff.mpr rfl, fields_entry _ e⟩
    exact ⟨_, fields, fields_foldl⟩
  · refine ⟨r.reachable.filter (standsIn r s), List.filter_sublist, fun id => ?_, ?_⟩
    · rw [List.mem_filter, standsIn_iff]
    · have kept := List.rel_filter (p := standsIn r s) (q := fun i => i.1 == s && !i.2.isEmpty)
        (fun id i (h : Placed r id i) => iff_of_eq (congrArg (· = true) (h.stands s))) placed
      have inside := (List.forall₂_and_left _ _).mpr
        ⟨fun id (mem : id ∈ r.reachable.filter (standsIn r s)) => (List.mem_filter.mp mem).2, kept⟩
      rw [listed]
      refine List.forall₂_map_right_iff.mpr (inside.imp ?_)
      rintro id i ⟨stands, e, found, rfl⟩
      obtain ⟨e', base, found', grouped, -⟩ := standsIn_iff.mp stands
      obtain rfl := Option.some.inj (found.symm.trans found')
      refine ⟨e, base, found, grouped, ?_⟩
      rw [placedEntry, grouped_iff.mp grouped]
      exact lists_entry base e
  · have some : (items.foldl (fun (t : EditableTree) i => t.add i.1 i.2) {}).sections.Each
        fun _ es => es ≠ [] := nonempty_foldl nofun
    obtain ⟨⟨k, es⟩, known, rfl⟩ := List.mem_map.mp mem
    rw [sectionEntities, OrderedMap.get?, Entries.get?_of_mem (OrderedMap.nodup _) known]
    exact some _ known
  · rw [listed] at mem
    obtain ⟨i, kept, rfl⟩ := List.mem_map.mp mem
    obtain ⟨inside, here⟩ := List.mem_filter.mp kept
    obtain ⟨id, -, e, -, rfl⟩ := mem_forall₂ placed.flip i inside
    refine ⟨fun none => ?_, actionEntries_filled _ e⟩
    rw [placedEntry, fields_entry, List.map_eq_nil_iff] at none
    simp [placedEntry, isEmpty_entry, none] at here

end EditableTree

/-! ### Places of actions -/

namespace EntityKind

/-- Where the runbook of an action stands in the object of an entity of this kind. -/
inductive RunbookAt (k : EntityKind) (action : String) : String → Prop where
  | field {sa : SystemAction} {path : String} (known : sa ∈ k.schema.systemActions)
      (named : sa.name = action) (placed : sa.placement = .field path) : RunbookAt k action path
  | hook {sa : SystemAction} (known : sa ∈ k.schema.systemActions) (named : sa.name = action)
      (listed : sa.placement = .actionList) :
      RunbookAt k action ("action_list[" ++ sa.wire ++ "].runbook")
  | user (other : ∀ sa ∈ k.schema.systemActions, sa.name ≠ action) :
      RunbookAt k action ("action_list[" ++ action ++ "].runbook")

theorem systemAction?_eq_some {k : EntityKind} {name : String} {sa : SystemAction} :
    k.schema.systemAction? name = some sa ↔ sa ∈ k.schema.systemActions ∧ sa.name = name := by
  have distinct : ∀ k ∈ all, (k.schema.systemActions.map (·.name)).Nodup := by decide
  constructor
  · intro found
    exact ⟨List.mem_of_find?_eq_some found, by simpa using List.find?_some found⟩
  · rintro ⟨known, named⟩
    exact find?_of_nodup (distinct k (mem_all k)) known named

theorem runbookAt_iff {k : EntityKind} {action path : String} :
    k.RunbookAt action path ↔ path = k.actionPath action := by
  unfold actionPath actionWireName
  constructor
  · intro stands
    cases stands with
    | @field sa path known named placed =>
      rw [systemAction?_eq_some.mpr ⟨known, named⟩]
      obtain ⟨_, _, placement⟩ := sa
      cases placed
      rfl
    | @hook sa known named listed =>
      rw [systemAction?_eq_some.mpr ⟨known, named⟩]
      obtain ⟨_, _, placement⟩ := sa
      cases listed
      rfl
    | user other =>
      have none : k.schema.systemAction? action = none := by
        refine Option.eq_none_iff_forall_ne_some.mpr fun sa found => ?_
        obtain ⟨known, named⟩ := systemAction?_eq_some.mp found
        exact other sa known named
      rw [none]
  · rintro rfl
    cases found : k.schema.systemAction? action with
    | none =>
      refine .user fun sa known named => ?_
      rw [systemAction?_eq_some.mpr ⟨known, named⟩] at found
      cases found
    | some sa =>
      obtain ⟨known, named⟩ := systemAction?_eq_some.mp found
      cases placed : sa.placement with
      | field path =>
        obtain ⟨_, _, placement⟩ := sa
        cases placed
        exact .field known named rfl
      | actionList =>
        obtain ⟨_, _, placement⟩ := sa
        cases placed
        exact .hook known named rfl

end EntityKind

/-! ### Entities that were built -/

theorem OrderedMap.mem_values_iff {α : Type} {m : OrderedMap α} {name : α → String}
    (named : m.Each fun k a => name a = k) {a : α} : a ∈ m.values ↔ m.get? (name a) = some a := by
  constructor
  · intro mem
    obtain ⟨entry, known, rfl⟩ := List.mem_map.mp mem
    exact named entry known ▸ Entries.get?_of_mem m.nodup known
  · exact mem_values_of_get?

/-- What stands under a name: a declaration of one's own, or else that of the first map below that
has one. -/
inductive Offered {α : Type} (own : List (String × α)) (below : List (OrderedMap α)) (name : String)
    (a : α) : Prop where
  | own (declared : (name, a) ∈ own)
  | below {before after : List (OrderedMap α)} {m : OrderedMap α} (free : name ∉ Entries.keys own)
      (first : below = before ++ m :: after) (none : ∀ b ∈ before, name ∉ b.keys)
      (offers : m.get? name = some a)

theorem offered_iff {α : Type} {own : List (String × α)} {below : List (OrderedMap α)}
    {name : String} {a : α} (distinct : (Entries.keys own).Nodup) : Offered own below name a ↔
      (Entries.get? name own).or (below.findSome? (·.get? name)) = some a := by
  constructor
  · intro offered
    cases offered with
    | own declared => rw [Entries.get?_of_mem distinct declared, Option.some_or]
    | below free first none offers =>
      have before := List.findSome?_eq_none_iff.mpr fun b mem =>
        Entries.get?_eq_none.mpr (none b mem)
      rw [Entries.get?_eq_none.mpr free, Option.none_or, first, List.findSome?_append,
        List.findSome?_cons, offers]
      exact congrArg (Option.or · _) before
  · intro found
    cases own : Entries.get? name own with
    | some b =>
      rw [own, Option.some_or] at found
      exact .own (Option.some.inj found ▸ Entries.mem_of_get? own)
    | none =>
      rw [own, Option.none_or] at found
      obtain ⟨before, m, after, first, offers, none⟩ := List.findSome?_eq_some_iff.mp found
      exact .below (Entries.get?_eq_none.mp own) first
        (fun b mem => Entries.get?_eq_none.mp (none b mem)) offers

namespace Entity

variable {e : Entity} {a : Action} {v : Variable} {path : String}

theorem own_mem_overridables :
    .own v ∈ e.overridables ↔ v.isRuntime = true ∧ v ∈ e.vars.values := by
  simp [overridables, and_comm]

theorem attribute_mem_overridables : .attribute path ∈ e.overridables ↔ path ∈ e.editables := by
  simp [overridables]

theorem inAction_mem_overridables : .inAction a v ∈ e.overridables ↔
    v.isRuntime = true ∧ v ∈ a.vars.values ∧ a ∈ e.actions.values := by
  simp only [overridables, List.mem_append, List.mem_map, List.mem_flatMap, List.mem_filter,
    Overridable.inAction.injEq, reduceCtorEq, and_false, exists_false, false_or]
  constructor
  · rintro ⟨_, mem, _, ⟨inside, runtime⟩, rfl, rfl⟩
    exact ⟨runtime, inside, mem⟩
  · rintro ⟨runtime, inside, mem⟩
    exact ⟨a, mem, v, ⟨inside, runtime⟩, rfl, rfl⟩

end Entity

/-- What an entity lets be overridden, in terms of the draft that it was built from and its bases. -/
structure EntityDraft.Lets (d : EntityDraft) (e : Entity) : Prop where
  own : ∀ v, .own v ∈ e.overridables ↔ v.isRuntime = true ∧
    Offered (d.vars.map fun v => (v.name, v)) (d.bases.map (·.vars)) v.name v
  /-- A variable that the draft declares anew may be overridden no more, unless it says so again. -/
  hidden : ∀ w ∈ d.vars, w.isRuntime = false → ∀ v, v.name = w.name → .own v ∉ e.overridables
  listed : ∀ path, .attribute path ∈ e.overridables ↔
    path ∈ d.editables ∨ ∃ b ∈ d.bases, path ∈ b.editables
  inAction : ∀ a v, .inAction a v ∈ e.overridables ↔ v.isRuntime = true ∧ v ∈ a.vars.values ∧
    ∃ a', a = a'.under d.kind a.name ∧
      Offered (d.actions.map fun a => (a.name, a)) (d.bases.map (·.actions)) a.name a'

theorem EntityDraft.build_overridables {d : EntityDraft} {e : Entity}
    (bases : ∀ b ∈ d.bases, b.Made) (actions : ∀ a ∈ d.actions, a.Made) (built : d.build = .ok e) : d.Lets e := by
  have composes := build_composes built
  have named := (Entity.Made.build bases actions built).named
  have varKeys : (Entries.keys (d.vars.map fun v => (v.name, v))).Nodup := by
    simpa [Entries.keys, Function.comp_def] using composes.varsOnce
  have own : ∀ v, .own v ∈ e.overridables ↔ v.isRuntime = true ∧
      Offered (d.vars.map fun v => (v.name, v)) (d.bases.map (·.vars)) v.name v := fun v => by
    rw [Entity.own_mem_overridables, OrderedMap.mem_values_iff named.vars, composes.vars.get?,
      offered_iff varKeys]
  refine ⟨own, fun w declared fixed v same free => ?_, fun path => ?_, fun a v => ?_⟩
  · obtain ⟨runtime, offered⟩ := (own v).mp free
    have here : (v.name, w) ∈ d.vars.map fun v => (v.name, v) :=
      same ▸ List.mem_map.mpr ⟨w, declared, rfl⟩
    have found := (offered_iff varKeys).mp offered
    rw [Entries.get?_of_mem varKeys here, Option.some_or] at found
    obtain rfl := Option.some.inj found
    rw [fixed] at runtime
    cases runtime
  · rw [Entity.attribute_mem_overridables, composes.editables, List.mem_eraseDups, List.mem_append,
      List.mem_flatMap, or_comm]
  · have actionKeys : (Entries.keys (d.actions.map fun a => (a.name, a))).Nodup := by
      simpa [Entries.keys, Function.comp_def] using composes.actionsOnce
    have placed : e.actions.Each fun k a => a.name = k := fun entry known =>
      (named.actions entry known).name
    have offered : ∀ a',
        Offered (d.actions.map fun a => (a.name, a)) (d.bases.map (·.actions)) a.name a' ↔
          (d.actions.find? (·.name == a.name)).or (d.bases.findSome? (·.actions.get? a.name)) =
            some a' := fun a' => by rw [offered_iff actionKeys, Entries.get?_map_find?, List.findSome?_map]; rfl
    rw [Entity.inAction_mem_overridables, OrderedMap.mem_values_iff placed, composes.action,
      Option.map_eq_some_iff]
    simp only [offered, and_comm, eq_comm]

/-! ### The law -/

/-- Extracting succeeds on every resolved graph, and the tree holds, each once, what its entities
let be overridden: each under the path of its action or its attribute, and what bases offer only
where nothing hides it. -/
theorem extract_complete (calls : List EntityGraph.Call) :
    (∀ r, resolveGraph (.ofCalls calls) = .ok r →
      r.reachable.Nodup ∧ ∃ t, EditableTree.extract r = .ok t ∧ EditableTree.Complete r t) ∧
    (∀ (k : EntityKind) action path, k.RunbookAt action path ↔ path = k.actionPath action) ∧
    ∀ (d : EntityDraft) e, (∀ b ∈ d.bases, b.Made) → (∀ a ∈ d.actions, a.Made) → d.build = .ok e →
      d.Lets e := by
  refine ⟨fun r resolved => ?_, fun k action path => EntityKind.runbookAt_iff,
    fun d e bases actions built => d.build_overridables bases actions built⟩
  have rooted := (EntityGraph.rootKind_ofCalls calls).rooted
  obtain ⟨_, -, search⟩ := (resolveGraph_breadthFirst rooted).2.2 r resolved
  exact ⟨search.distinct, EditableTree.complete_of_extract
    (ResolvedGraph.closed_of_resolveGraph rooted resolved).declared⟩

namespace Overriding

/-- A variable that may be changed at launch. -/
def free (name value : String) : Variable := { Variable.plain name value with isRuntime := true }

/-- An endpoint that takes a free port from its base and fixes the user. -/
def web : EntityDraft where
  kind := .endpoint
  name := "web"
  bases := [{ kind := .mixin, name := "Remote",
              vars := .ofList [("user", free "user" "root"), ("port", free "port" "22")] }]
  vars := [.plain "user" "admin"]
  editables := ["addresses"]

def webEntity : Entity where
  kind := .endpoint
  name := "web"
  vars := .ofList [("user", .plain "user" "admin"), ("port", free "port" "22")]
  editables := ["addresses"]
  lineage := ["Remote"]

/-- A runbook with a task on a service, one hook of which may be changed. -/
def calls : List EntityGraph.Call :=
  let start : Action :=
    { name := "start", kind := .system, vars := .ofList [("mode", free "mode" "fast")], tree := [] }
  let app : Entity := { kind := .service, name := "app", actions := .ofList [("start", start)] }
  let task : TaskNode :=
    .leaf { name := "hello", target := some (.named app.key) } (.exec { text := "ls" })
  let run : Action :=
    { name := "run", kind := .system, vars := .ofList [("port", free "port" "80")], tree := [task] }
  let ops : Entity :=
    { kind := .runbook, name := "Ops", actions := .ofList [("run", run)]
      references := .ofList [("endpoints", [.named webEntity.key])] }
  [.declare app, .declareAt webEntity 2, .declareRoot ops]

end Overriding

open Overriding

theorem extract_complete_calls : ∃ r t, resolveGraph (.ofCalls calls) = .ok r ∧
    EditableTree.extract r = .ok t ∧ EditableTree.Complete r t ∧ t.paths =
      ["spec.resources.runbook.variable_list[port].value",
        "spec.resources.endpoint_definition_list[web].variable_list[port].value",
        "spec.resources.endpoint_definition_list[web].addresses",
        "spec.resources.service_definition_list[app].action_list[action_start].runbook" ++
          ".variable_list[mode].value"] ∧
    (∀ b ∈ web.bases, b.Made) ∧ web.build = .ok webEntity ∧ web.Lets webEntity := by
  obtain ⟨r, resolved, shown⟩ := ok_of_test (x := resolveGraph (.ofCalls calls))
    (P := fun r => ((EditableTree.extract r).toOption.any fun t => decide (t.paths =
      ["spec.resources.runbook.variable_list[port].value",
        "spec.resources.endpoint_definition_list[web].variable_list[port].value",
        "spec.resources.endpoint_definition_list[web].addresses",
        "spec.resources.service_definition_list[app].action_list[action_start].runbook" ++
          ".variable_list[mode].value"])) = true) (by decide +kernel)
  obtain ⟨-, t, extracted, complete⟩ := (extract_complete calls).1 r resolved
  rw [extracted] at shown
  have made : ∀ b ∈ web.bases, b.Made := List.forall_mem_singleton.mpr <| .build
    (d := { kind := .mixin, name := "Remote", vars := [free "user" "root", free "port" "22"] })
    nofun nofun rfl
  have built : web.build = .ok webEntity := rfl
  exact ⟨r, t, resolved, extracted, complete, of_decide_eq_true shown, made, built,
    (extract_complete calls).2.2 web webEntity made nofun built⟩

end Blueprint
