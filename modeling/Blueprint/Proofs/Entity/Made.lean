import Blueprint.Entity.Declare
import Blueprint.Proofs.Builder.Run
import Blueprint.Proofs.Except

/-!
# Entities that were built

What `EntityDraft.build` makes stands in maps under its own name.
-/

namespace Blueprint

namespace OrderedMap

variable {α β : Type} {P : String → α → Prop}

def Each (P : String → α → Prop) (m : OrderedMap α) : Prop := ∀ e ∈ m.entries, P e.1 e.2

theorem each_empty : (∅ : OrderedMap α).Each P := fun _ mem => nomatch mem

theorem mem_put {k : String} {v : α} {es : List (String × α)} {e : String × α}
    (h : e ∈ Entries.put k v es) : e = (k, v) ∨ e ∈ es := by
  induction es with
  | nil => exact Or.inl (List.mem_singleton.mp h)
  | cons e' es ih =>
    rw [Entries.put] at h
    split at h <;> rcases List.mem_cons.mp h with rfl | h
    · exact Or.inl rfl
    · exact Or.inr (List.mem_cons_of_mem _ h)
    · exact Or.inr List.mem_cons_self
    · exact (ih h).imp_right (List.mem_cons_of_mem _)

theorem Each.insert {m : OrderedMap α} (h : m.Each P) {k : String} {v : α} (new : P k v) :
    (m.insert k v).Each P := by
  intro e mem
  rcases mem_put mem with rfl | old
  · exact new
  · exact h e old

theorem Each.insertNew {m : OrderedMap α} (h : m.Each P) {k : String} {v : α} (new : P k v) :
    (m.insertNew k v).Each P := by
  unfold OrderedMap.insertNew
  split
  · exact h
  · exact h.insert new

theorem each_foldl {f : OrderedMap α → String × α → OrderedMap α} {es : List (String × α)}
    (step : ∀ m e, Each P m → P e.1 e.2 → Each P (f m e)) (new : ∀ e ∈ es, P e.1 e.2)
    {m : OrderedMap α} (h : m.Each P) : (es.foldl f m).Each P := by
  induction es generalizing m with
  | nil => exact h
  | cons e es ih =>
    obtain ⟨first, rest⟩ := List.forall_mem_cons.mp new
    exact ih rest (step m e h first)

theorem Each.insertAll {m n : OrderedMap α} (h : m.Each P) (new : n.Each P) :
    (m.insertAll n).Each P :=
  each_foldl (fun _ _ old => old.insert) new h

theorem Each.insertAllNew {m n : OrderedMap α} (h : m.Each P) (new : n.Each P) :
    (m.insertAllNew n).Each P :=
  each_foldl (fun _ _ old => old.insertNew) new h

theorem each_ofList {es : List (String × α)} (new : ∀ e ∈ es, P e.1 e.2) : (ofList es).Each P :=
  each_foldl (fun _ _ old => old.insert) new each_empty

theorem Each.mapValues {Q : String → β → Prop} {f : α → β} {m : OrderedMap α} (h : m.Each P)
    (map : ∀ k v, P k v → Q k (f v)) : (m.mapValues f).Each Q := by
  intro e mem
  obtain ⟨e', mem', rfl⟩ := List.mem_map.mp mem
  exact map _ _ (h e' mem')

end OrderedMap

def NamedVars (vars : OrderedMap Variable) : Prop := vars.Each fun k v => v.name = k

theorem namedVars_ofList (vs : List Variable) : NamedVars (.ofList (vs.map fun v => (v.name, v))) :=
  OrderedMap.each_ofList (List.forall_mem_map.mpr fun _ _ => rfl)

namespace Action

/-- An action as a draft takes it: a built tree, and variables that were added one by one. -/
structure Made (a : Action) : Prop where
  vars : ∃ vs : List Variable, a.vars = .ofList (vs.map fun v => (v.name, v))
  tree : ∃ declared, a.tree.Built declared

structure Named (key : String) (a : Action) : Prop where
  name : a.name = key
  identifier : Text.isIdentifier key = true
  vars : NamedVars a.vars
  tree : ∃ declared, a.tree.Built declared

end Action

namespace Entity

/-- An entity that was built from a draft over bases that were built. -/
inductive Made : Entity → Prop where
  | build {d : EntityDraft} {e : Entity} (bases : ∀ b ∈ d.bases, Made b)
      (actions : ∀ a ∈ d.actions, a.Made) (built : d.build = .ok e) : Made e

structure Named (e : Entity) : Prop where
  vars : NamedVars e.vars
  actions : e.actions.Each Action.Named

end Entity

theorem Composition.add_named {c c' : Composition} {base : Entity} (named : c.merged.Named)
    (other : base.Named) (h : c.add base = .ok c') : c'.merged.Named := by
  obtain ⟨concrete, -, h⟩ := bind_ok h
  dsimp only at h
  split at h
  · cases h
  · obtain ⟨_, -, h⟩ := bind_ok h
    split at h
    · cases h
    · obtain ⟨_, -, h⟩ := bind_ok h
      rw [pure_ok h]
      exact ⟨named.vars.insertAllNew other.vars, named.actions.insertAll other.actions⟩

theorem Entity.ofBases_named {key : EntityKey} {bases : List Entity} {e : Entity}
    (others : ∀ b ∈ bases, b.Named) (h : Entity.ofBases key bases = .ok e) : e.Named := by
  obtain ⟨c, merged, rfl⟩ := map_ok h
  have start : Entity.Named { kind := key.kind, name := key.name } :=
    ⟨fun _ mem => (nomatch mem), fun _ mem => (nomatch mem)⟩
  exact foldlM_ok (P := fun c : Composition => c.merged.Named)
    (fun c b mem c' named added => Composition.add_named named (others b mem) added) start merged

namespace EntityDraft

theorem checkActions_ok {seen : List String} {as : List Action}
    (h : checkActions seen as = .ok ()) : ∀ a ∈ as, Text.isIdentifier a.name = true := by
  induction as generalizing seen with
  | nil => simp
  | cons a as ih =>
    rw [checkActions] at h
    split at h
    · cases h
    · rename_i identifier
      split at h
      · cases h
      · exact List.forall_mem_cons.mpr ⟨by simpa using identifier, ih h⟩

theorem overlay_named {d : EntityDraft} {base : Entity} (named : base.Named)
    (actions : ∀ a ∈ d.actions, a.Made)
    (identifiers : ∀ a ∈ d.actions, Text.isIdentifier a.name = true) : (d.overlay base).Named := by
  refine ⟨named.vars.insertAll (namedVars_ofList d.vars), named.actions.insertAll ?_⟩
  refine OrderedMap.each_ofList (List.forall_mem_map.mpr fun a mem => ?_)
  obtain ⟨⟨vs, vars⟩, tree⟩ := actions a mem
  exact ⟨rfl, identifiers a mem, vars ▸ namedVars_ofList vs, tree⟩

end EntityDraft

theorem Entity.finalize_named {e e' : Entity} (named : e.Named) (h : e.finalize = .ok e') :
    e'.Named := by
  unfold Entity.finalize at h
  split at h
  · exact Except.ok.inj h ▸ named
  · obtain ⟨_, -, rfl⟩ := map_ok h
    exact ⟨named.vars, named.actions.mapValues fun k a h => ⟨h.name, h.identifier, h.vars, h.tree⟩⟩

theorem Entity.Made.named {e : Entity} (h : e.Made) : e.Named := by
  induction h with
  | @build d e _ actions built ih =>
    unfold EntityDraft.build at built
    dsimp only at built
    split at built
    · cases built
    · obtain ⟨base, based, built⟩ := bind_ok built
      obtain ⟨_, -, built⟩ := bind_ok built
      obtain ⟨_, checked, built⟩ := bind_ok built
      have identifiers := EntityDraft.checkActions_ok (mapError_ok checked)
      have named := Entity.ofBases_named ih (mapError_ok based)
      exact Entity.finalize_named (EntityDraft.overlay_named named actions identifiers) built

end Blueprint
