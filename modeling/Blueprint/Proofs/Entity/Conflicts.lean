import Blueprint.Proofs.Entity.Override

/-!
# Bases in conflict

Bases are merged one after the other, each against what the ones before it have left.
`ofBases_conflicts` says that this finds a conflict exactly where two bases, or a base and the kind
of the composed entity, do not go together, and that the composed entity has no say in it.
-/

namespace Blueprint

namespace Entity

/-- Why a base cannot follow the bases before it. -/
inductive Clash (kind : EntityKind) (before : List Entity) (b : Entity) : MergeFault → Prop where
  | foreign (concrete : b.kind ≠ .mixin) (other : b.kind ≠ kind) :
      Clash kind before b (.foreignKind b.key)
  | concrete {a : Entity} (earlier : a ∈ before) (first : a.kind ≠ .mixin)
      (second : b.kind ≠ .mixin) : Clash kind before b (.twoConcrete a.name b.name kind)
  | action {a : Entity} {name : String} (earlier : a ∈ before) (first : name ∈ a.actions.keys)
      (second : name ∈ b.actions.keys) : Clash kind before b (.actionTwice name)
  | slot {a : Entity} {name : String} (earlier : a ∈ before) (first : name ∈ a.references.keys)
      (second : name ∈ b.references.keys) : Clash kind before b (.slotTwice name)

/-- Why a list of bases cannot be composed into an entity of a kind. -/
inductive Conflict (kind : EntityKind) (bases : List Entity) : MergeFault → Prop where
  | foreign {b : Entity} (listed : b ∈ bases) (concrete : b.kind ≠ .mixin) (other : b.kind ≠ kind) :
      Conflict kind bases (.foreignKind b.key)
  | concrete {i j : Nat} {a b : Entity} (before : i < j) (left : bases[i]? = some a)
      (right : bases[j]? = some b) (first : a.kind ≠ .mixin) (second : b.kind ≠ .mixin) :
      Conflict kind bases (.twoConcrete a.name b.name kind)
  | action {i j : Nat} {a b : Entity} {name : String} (before : i < j) (left : bases[i]? = some a)
      (right : bases[j]? = some b) (first : name ∈ a.actions.keys)
      (second : name ∈ b.actions.keys) : Conflict kind bases (.actionTwice name)
  | slot {i j : Nat} {a b : Entity} {name : String} (before : i < j) (left : bases[i]? = some a)
      (right : bases[j]? = some b) (first : name ∈ a.references.keys)
      (second : name ∈ b.references.keys) : Conflict kind bases (.slotTwice name)

/-- The first entity inherits from the second one, through any number of bases, or is that one. -/
inductive Descends : Entity → Entity → Prop where
  | self (e : Entity) : Descends e e
  | base {d : EntityDraft} {e b origin : Entity} (listed : b ∈ d.bases) (built : d.build = .ok e)
      (above : Descends b origin) : Descends e origin

end Entity

open Entity

variable {kind : EntityKind} {before bases : List Entity} {b : Entity} {c c' : Composition}
  {fault : MergeFault}

/-! ### One more base -/

/-- What is known of a merge: where its actions and slots come from, and which base is no mixin. -/
structure Composition.Merges (kind : EntityKind) (before : List Entity) (c : Composition) :
    Prop where
  kind : c.merged.kind = kind
  concrete : ∀ name, c.concrete = some name ↔ ∃ a ∈ before, a.kind ≠ .mixin ∧ a.name = name
  actions : ∀ name, name ∈ c.merged.actions.keys ↔ ∃ a ∈ before, name ∈ a.actions.keys
  slots : ∀ name, name ∈ c.merged.references.keys ↔ ∃ a ∈ before, name ∈ a.references.keys

theorem OrderedMap.shared?_eq_some {α : Type} {m n : OrderedMap α} {k : String}
    (h : m.shared? n = some k) : k ∈ m.keys ∧ k ∈ n.keys :=
  ⟨(contains_iff m k).mp (List.find?_some h), List.mem_of_find?_eq_some h⟩

namespace Composition

theorem Merges.new (key : EntityKey) :
    Merges key.kind [] { merged := { kind := key.kind, name := key.name } } where
  kind := rfl
  concrete := by simp
  actions := by simp [OrderedMap.keys, Entries.keys, EmptyCollection.emptyCollection, OrderedMap.empty]
  slots := by simp [OrderedMap.keys, Entries.keys, EmptyCollection.emptyCollection, OrderedMap.empty]

theorem joining_ok {concrete : Option String} (h : Merges kind before c)
    (joined : c.joining b = .ok concrete) :
    (∀ name, concrete = some name ↔ ∃ a ∈ before ++ [b], a.kind ≠ .mixin ∧ a.name = name) ∧
      (b.kind ≠ .mixin → b.kind = kind ∧ ∀ a ∈ before, a.kind = .mixin) := by
  unfold joining at joined
  split at joined
  · rename_i mixin
    obtain rfl := Except.ok.inj joined
    refine ⟨fun name => ?_, fun concrete => (concrete mixin).elim⟩
    rw [h.concrete]
    simp [mixin]
  · rename_i concrete
    split at joined
    · cases joined
    · rename_i own
      split at joined
      · cases joined
      · rename_i none
        obtain rfl := Except.ok.inj joined
        have mixins : ∀ a ∈ before, a.kind = .mixin := by
          intro a mem
          by_contra other
          cases none.symm.trans ((h.concrete a.name).mpr ⟨a, mem, other, rfl⟩)
        refine ⟨fun name => ?_, fun _ => ⟨h.kind ▸ not_not.mp own, mixins⟩⟩
        constructor
        · intro same
          exact ⟨b, by simp, concrete, Option.some.inj same⟩
        · rintro ⟨a, mem, other, rfl⟩
          rcases List.mem_append.mp mem with mem | mem
          · exact (other (mixins a mem)).elim
          · rw [List.mem_singleton.mp mem]

theorem joining_error (h : Merges kind before c) (refused : c.joining b = .error fault) :
    Clash kind before b fault := by
  unfold joining at refused
  split at refused
  · cases refused
  · rename_i concrete
    split at refused
    · rename_i other
      obtain rfl := Except.error.inj refused
      exact .foreign concrete (h.kind ▸ other)
    · split at refused
      · rename_i first known
        obtain rfl := Except.error.inj refused
        obtain ⟨a, earlier, other, rfl⟩ := (h.concrete first).mp known
        exact h.kind ▸ .concrete earlier other concrete
      · cases refused

theorem add_error (h : Merges kind before c) (refused : c.add b = .error fault) :
    Clash kind before b fault := by
  rcases bind_error refused with joined | ⟨concrete, -, refused⟩
  · exact joining_error h joined
  · dsimp only at refused
    split at refused
    · rename_i name shared
      obtain ⟨merged, second⟩ := OrderedMap.shared?_eq_some shared
      obtain ⟨a, earlier, first⟩ := (h.actions name).mp merged
      obtain rfl := Except.error.inj refused
      exact .action earlier first second
    · rcases bind_error refused with none | ⟨_, -, refused⟩
      · cases none
      · split at refused
        · rename_i name shared
          obtain ⟨merged, second⟩ := OrderedMap.shared?_eq_some shared
          obtain ⟨a, earlier, first⟩ := (h.slots name).mp merged
          obtain rfl := Except.error.inj refused
          exact .slot earlier first second
        · rcases bind_error refused with none | ⟨_, -, refused⟩
          · cases none
          · cases refused

theorem add_joins (added : c.add b = .ok c') : c.joining b = .ok c'.concrete := by
  obtain ⟨concrete, joined, rest⟩ := bind_ok added
  dsimp only at rest
  split at rest
  · cases rest
  · obtain ⟨_, -, rest⟩ := bind_ok rest
    split at rest
    · cases rest
    · obtain ⟨_, -, rest⟩ := bind_ok rest
      rw [joined, pure_ok rest]

theorem add_merges (h : Merges kind before c) (added : c.add b = .ok c') :
    Merges kind (before ++ [b]) c' ∧ ∀ fault, ¬Clash kind before b fault := by
  obtain ⟨apart, merged⟩ := add_ok added
  obtain ⟨concrete, single⟩ := joining_ok h (add_joins added)
  constructor
  · refine ⟨?_, concrete, fun name => ?_, fun name => ?_⟩
    · rw [merged]
      exact h.kind
    · rw [merged, absorb, OrderedMap.keys_insertAllNew, mem_addNew, h.actions]
      simp [or_and_right, exists_or]
    · rw [merged, absorb, OrderedMap.keys_insertAllNew, mem_addNew, h.slots]
      simp [or_and_right, exists_or]
  · intro fault clash
    cases clash with
    | foreign concrete other => exact other (single concrete).1
    | concrete earlier first second => exact first ((single second).2 _ earlier)
    | action earlier first second =>
      exact apart.actions ((h.actions _).mpr ⟨_, earlier, first⟩) second
    | slot earlier first second =>
      exact apart.references ((h.slots _).mpr ⟨_, earlier, first⟩) second

/-! ### All bases -/

theorem foldlM_error_clash (h : Merges kind before c)
    (refused : bases.foldlM Composition.add c = .error fault) :
    ∃ mid b rest, bases = mid ++ b :: rest ∧ Clash kind (before ++ mid) b fault := by
  induction bases generalizing before c with
  | nil => cases refused
  | cons b bases ih =>
    rcases bind_error refused with first | ⟨next, added, refused⟩
    · exact ⟨[], b, bases, rfl, by simpa using add_error h first⟩
    · obtain ⟨mid, b', rest, rfl, clash⟩ := ih (add_merges h added).1 refused
      exact ⟨b :: mid, b', rest, rfl, by simpa using clash⟩

theorem foldlM_merges (h : Merges kind before c)
    (merged : bases.foldlM Composition.add c = .ok c') :
    Merges kind (before ++ bases) c' ∧
      ∀ mid b rest fault, bases = mid ++ b :: rest → ¬Clash kind (before ++ mid) b fault := by
  induction bases generalizing before c with
  | nil =>
    obtain rfl := pure_ok merged
    exact ⟨by simpa using h, by simp⟩
  | cons b bases ih =>
    obtain ⟨next, added, rest⟩ := bind_ok merged
    obtain ⟨joined, free⟩ := add_merges h added
    obtain ⟨all, others⟩ := ih joined rest
    refine ⟨by simpa using all, fun mid b' rest fault split => ?_⟩
    cases mid with
    | nil =>
      obtain ⟨rfl, -⟩ := List.cons.inj split
      simpa using free fault
    | cons a mid =>
      obtain ⟨rfl, behind⟩ := List.cons.inj split
      simpa using others mid b' rest fault behind

end Composition

namespace Entity

/-- Two places of a list, the second of which a walk comes to after the first. -/
theorem before_of_places {α : Type} {xs : List α} {i j : Nat} {a b : α} (lt : i < j)
    (left : xs[i]? = some a) (right : xs[j]? = some b) :
    ∃ mid rest, xs = mid ++ b :: rest ∧ a ∈ mid := by
  obtain ⟨inside, rfl⟩ := List.getElem?_eq_some_iff.mp right
  refine ⟨xs.take j, xs.drop (j + 1), ?_, ?_⟩
  · rw [← List.drop_eq_getElem_cons inside, List.take_append_drop]
  · refine List.mem_of_getElem? (i := i) ?_
    rw [List.getElem?_take_of_lt lt, left]

theorem places_of_before {α : Type} {mid rest : List α} {a b : α} (earlier : a ∈ mid) :
    ∃ i j : Nat, i < j ∧ (mid ++ b :: rest)[i]? = some a ∧ (mid ++ b :: rest)[j]? = some b := by
  obtain ⟨i, inside, rfl⟩ := List.getElem_of_mem earlier
  refine ⟨i, mid.length, inside, ?_, by simp⟩
  rw [List.getElem?_append_left inside, List.getElem?_eq_getElem inside]

/-- A conflict is a clash of one base with the bases before it. -/
theorem conflict_iff_clash : Conflict kind bases fault ↔
    ∃ mid b rest, bases = mid ++ b :: rest ∧ Clash kind mid b fault := by
  constructor
  · intro conflict
    cases conflict with
    | foreign listed concrete other =>
      obtain ⟨mid, rest, split⟩ := List.append_of_mem listed
      exact ⟨mid, _, rest, split, .foreign concrete other⟩
    | concrete lt left right first second =>
      obtain ⟨mid, rest, split, earlier⟩ := before_of_places lt left right
      exact ⟨mid, _, rest, split, .concrete earlier first second⟩
    | action lt left right first second =>
      obtain ⟨mid, rest, split, earlier⟩ := before_of_places lt left right
      exact ⟨mid, _, rest, split, .action earlier first second⟩
    | slot lt left right first second =>
      obtain ⟨mid, rest, split, earlier⟩ := before_of_places lt left right
      exact ⟨mid, _, rest, split, .slot earlier first second⟩
  · rintro ⟨mid, b, rest, rfl, clash⟩
    cases clash with
    | foreign concrete other => exact .foreign (by simp) concrete other
    | concrete earlier first second =>
      obtain ⟨i, j, lt, left, right⟩ := places_of_before earlier
      exact .concrete lt left right first second
    | action earlier first second =>
      obtain ⟨i, j, lt, left, right⟩ := places_of_before earlier
      exact .action lt left right first second
    | slot earlier first second =>
      obtain ⟨i, j, lt, left, right⟩ := places_of_before earlier
      exact .slot lt left right first second

theorem conflict_of_error {key : EntityKey} (h : ofBases key bases = .error fault) :
    Conflict key.kind bases fault := by
  obtain ⟨mid, b, rest, split, clash⟩ :=
    Composition.foldlM_error_clash (.new key) (map_error h)
  exact conflict_iff_clash.mpr ⟨mid, b, rest, split, clash⟩

theorem no_conflict_of_ok {key : EntityKey} {e : Entity} (h : ofBases key bases = .ok e) :
    ¬Conflict key.kind bases fault := by
  obtain ⟨c, merged, -⟩ := map_ok h
  intro conflict
  obtain ⟨mid, b, rest, split, clash⟩ := conflict_iff_clash.mp conflict
  exact (Composition.foldlM_merges (.new key) merged).2 mid b rest fault split clash

theorem ofBases_error_iff (key : EntityKey) (bases : List Entity) :
    (∃ fault, ofBases key bases = .error fault) ↔ ∃ fault, Conflict key.kind bases fault := by
  constructor
  · rintro ⟨fault, failed⟩
    exact ⟨fault, conflict_of_error failed⟩
  · rintro ⟨fault, conflict⟩
    cases composed : ofBases key bases with
    | error fault' => exact ⟨fault', rfl⟩
    | ok e => exact (no_conflict_of_ok composed conflict).elim

/-! ### What a base hands on -/

theorem Descends.offers {e origin : Entity} (h : e.Descends origin) :
    origin.actions.keys ⊆ e.actions.keys ∧ origin.references.keys ⊆ e.references.keys := by
  induction h with
  | self e => exact ⟨List.Subset.refl _, List.Subset.refl _⟩
  | @base d e b origin listed built above ih =>
    obtain ⟨merged, checked, built⟩ := bind_ok (d.build_eq ▸ built)
    obtain ⟨based, -, -⟩ := EntityDraft.checked_ok checked
    obtain ⟨c, composed, rfl⟩ := map_ok based
    obtain ⟨same, keys, -⟩ := finalize_ok built
    have all := (Composition.foldlM_merges (.new d.key) composed).1
    constructor
    · intro name mem
      rw [keys]
      have offered := (all.actions name).mpr ⟨b, listed, ih.1 mem⟩
      exact OrderedMap.keys_insertAll _ _ ▸ mem_addNew.mpr (.inl offered)
    · intro name mem
      rw [same]
      have offered := (all.slots name).mpr ⟨b, listed, ih.2 mem⟩
      exact OrderedMap.keys_insertAll _ _ ▸ mem_addNew.mpr (.inl offered)

/-! ### What the composed entity says -/

theorem inScope_error {ε : Type} {place : ε → CompileError} {r : Except ε Unit} {e : CompileError}
    (h : inScope place r = .error e) : ∃ fault, e = place fault := by
  obtain ⟨fault, -, same⟩ := mapError_error h
  exact ⟨fault, same⟩

theorem checkAction_error {e : Entity} {name : String} {a : Action} {err : CompileError}
    (h : e.checkAction name a = .error err) :
    (∃ subject fault, err = .validation subject fault) ∨
      ∃ action fault, err = .structural action fault := by
  unfold checkAction at h
  rcases bind_error h with kind | ⟨_, -, h⟩
  · exact .inl ⟨_, inScope_error kind⟩
  · rcases bind_error h with vars | ⟨_, -, h⟩
    · obtain ⟨v, -, refused⟩ := forM_error vars
      split at refused
      · cases refused
      · exact .inl ⟨_, _, (Except.error.inj refused).symm⟩
    · obtain ⟨n, -, refused⟩ := forM_error h
      exact .inr ⟨_, inScope_error refused⟩

theorem validate_error {e : Entity} {err : CompileError} (h : e.validate = .error err) :
    (∃ subject fault, err = .validation subject fault) ∨
      ∃ action fault, err = .structural action fault := by
  unfold validate at h
  split at h
  · cases h
  · rcases bind_error h with content | ⟨_, -, h⟩
    · exact .inl ⟨_, inScope_error content⟩
    · rcases bind_error h with actions | ⟨_, -, attributes⟩
      · obtain ⟨entry, -, refused⟩ := forM_error actions
        exact checkAction_error refused
      · exact .inl ⟨_, inScope_error attributes⟩

theorem finalize_ne_merge (e : Entity) (key : EntityKey) (fault : MergeFault) :
    e.finalize ≠ .error (.merge key fault) := by
  intro h
  unfold finalize at h
  split at h
  · cases h
  · rcases validate_error (map_error h) with ⟨_, _, other⟩ | ⟨_, _, other⟩ <;> cases other

end Entity

/-- Building fails for its bases as the bases alone do, whatever else the draft says. -/
theorem EntityDraft.build_merge_iff {d : EntityDraft} (named : Text.blankText d.name = false)
    {key : EntityKey} : d.build = .error (.merge key fault) ↔
      key = d.key ∧ ofBases d.key d.bases = .error fault := by
  rw [build_eq]
  unfold checked
  rw [named]
  cases based : ofBases d.key d.bases with
  | error fault' =>
    constructor
    · intro h
      cases h
      exact ⟨rfl, rfl⟩
    · rintro ⟨rfl, same⟩
      cases same
      rfl
  | ok merged =>
    refine ⟨fun h => ?_, fun ⟨_, same⟩ => nomatch same⟩
    rcases bind_error h with early | ⟨_, -, late⟩
    · rcases bind_error (x := Except.ok merged) early with none | ⟨_, -, rest⟩
      · cases none
      · rcases bind_error rest with vars | ⟨_, -, rest⟩
        · obtain ⟨_, -, other⟩ := mapError_error vars
          cases other
        · rcases bind_error rest with actions | ⟨_, -, done⟩
          · obtain ⟨_, -, other⟩ := mapError_error actions
            cases other
          · cases done
    · exact (finalize_ne_merge _ _ _ late).elim

namespace Entity

theorem ofBases_conflicts (key : EntityKey) (bases : List Entity) :
    ((∃ fault, ofBases key bases = .error fault) ↔ ∃ fault, Conflict key.kind bases fault) ∧
      (∀ fault, ofBases key bases = .error fault → Conflict key.kind bases fault) ∧
      (∀ d : EntityDraft, d.key = key → d.bases = bases → Text.blankText d.name = false →
        ∀ key' fault, d.build = .error (.merge key' fault) ↔
          key' = key ∧ ofBases key bases = .error fault) ∧
      ∀ (i j : Nat) a b origin, i < j → bases[i]? = some a → bases[j]? = some b →
        a.Descends origin → b.Descends origin →
        origin.actions.keys ≠ [] ∨ origin.references.keys ≠ [] →
        ∃ fault, ofBases key bases = .error fault := by
  refine ⟨ofBases_error_iff key bases, fun _ => conflict_of_error, ?_, ?_⟩
  · rintro d rfl rfl named key' fault
    exact EntityDraft.build_merge_iff named
  · intro i j a b origin lt left right first second offers
    refine (ofBases_error_iff key bases).mpr ?_
    rcases offers with actions | slots
    · obtain ⟨name, mem⟩ := List.exists_mem_of_ne_nil _ actions
      exact ⟨_, .action lt left right (first.offers.1 mem) (second.offers.1 mem)⟩
    · obtain ⟨name, mem⟩ := List.exists_mem_of_ne_nil _ slots
      exact ⟨_, .slot lt left right (first.offers.2 mem) (second.offers.2 mem)⟩

/-- Two mixins over a third one cannot be composed once that one has an action, and declaring the
action anew does not help. -/
theorem ofBases_conflicts_diamond :
    ∃ common left right : Entity,
      { kind := .mixin, name := "Common", actions := [{ name := "start", tree := [] }]
        : EntityDraft }.build = .ok common ∧
      { kind := .mixin, name := "Left", bases := [common] : EntityDraft }.build = .ok left ∧
      { kind := .mixin, name := "Right", bases := [common] : EntityDraft }.build = .ok right ∧
      Conflict .service [left, right] (.actionTwice "start") ∧
      ∀ d : EntityDraft, d.key = ⟨.service, "Shop"⟩ → d.bases = [left, right] →
        ∃ fault, d.build = .error (.merge ⟨.service, "Shop"⟩ fault) := by
  let built (d : EntityDraft) : Entity := d.build.toOption.getD default
  have builds {d : EntityDraft} (h : d.build.toOption.isSome = true) : d.build = .ok (built d) := by
    cases made : d.build with
    | error e =>
      rw [made] at h
      cases h
    | ok e =>
      simp only [built, made]
      rfl
  let common := built
    { kind := .mixin, name := "Common", actions := [{ name := "start", tree := [] }] }
  let left := built { kind := .mixin, name := "Left", bases := [common] }
  let right := built { kind := .mixin, name := "Right", bases := [common] }
  have builtLeft := builds (d := { kind := .mixin, name := "Left", bases := [common] })
    (by decide +kernel)
  have builtRight := builds (d := { kind := .mixin, name := "Right", bases := [common] })
    (by decide +kernel)
  obtain ⟨-, -, declared, descend⟩ := ofBases_conflicts ⟨.service, "Shop"⟩ [left, right]
  obtain ⟨fault, failed⟩ := descend 0 1 left right common (by decide) rfl rfl
    (.base List.mem_cons_self builtLeft (.self common))
    (.base List.mem_cons_self builtRight (.self common)) (.inl (by decide +kernel))
  refine ⟨common, left, right, builds (by decide +kernel), builtLeft, builtRight,
    .action (i := 0) (j := 1) (by decide) rfl rfl (by decide +kernel) (by decide +kernel),
    fun d key bases => ⟨fault, ?_⟩⟩
  have named : Text.blankText d.name = false := by
    rw [show d.name = "Shop" from congrArg EntityKey.name key]
    rfl
  exact (declared d key bases named _ fault).mpr ⟨rfl, failed⟩

end Entity

end Blueprint
