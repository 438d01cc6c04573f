import Blueprint.Proofs.Data.Shuffled
import Blueprint.Proofs.Graph.Calls
import Mathlib.Data.List.Induction

/-!
# How references are answered

A named reference is answered by the entities that are declared under its key, whatever the order of
their declarations is: by the only one at the least depth, or by how many there are at that depth. A
call takes up its entity and its key together, and a receipt stays good under all further
declarations. `resolve_declared` says so of every graph that was declared call by call, refused calls
included.
-/

namespace Blueprint

/-! ### Places of a list -/

theorem length_filter_places {α : Type} (p : α → Bool) (xs : List α) :
    ((List.range xs.length).filter fun i => xs[i]?.any p).length = xs.countP p := by
  induction xs using List.reverseRecOn with
  | nil => rfl
  | append_singleton xs x ih =>
    have old : (List.range xs.length).filter (fun i => (xs ++ [x])[i]?.any p) =
        (List.range xs.length).filter fun i => xs[i]?.any p :=
      List.filter_congr fun i mem => by rw [List.getElem?_append_left (List.mem_range.mp mem)]
    rw [List.length_append, List.length_singleton, List.range_succ, List.filter_append, old,
      List.length_append, ih, List.countP_append, List.filter_singleton,
      List.getElem?_concat_length, List.countP_singleton]
    by_cases holds : p x <;> simp [holds]

namespace EntityGraph

variable {g g' : EntityGraph} {key : EntityKey} {id : EntityId} {depth : Nat} {e : Entity}

/-- How many entities of a key are declared at a depth. -/
def countAt (g : EntityGraph) (key : EntityKey) (depth : Nat) : Nat :=
  g.declared.countP fun d => d.entity.key == key && d.depth == depth

theorem length_atDepth : (g.atDepth depth (g.candidates key)).length = g.countAt key depth := by
  rw [countAt, ← length_filter_places, atDepth, candidates_eq, List.filter_filter, ids, size]
  refine congrArg List.length (List.filter_congr fun i mem => ?_)
  rw [entity?, depth?]
  cases g.declared[i]? with
  | none => rfl
  | some d => simp [Bool.and_comm, beq_eq_decide]

theorem countAt_pos (here : g.Declares key id depth) : 0 < g.countAt key depth := by
  rw [← length_atDepth]
  exact List.length_pos_of_mem (mem_atDepth.mpr here)

theorem exists_of_countAt (some : 0 < g.countAt key depth) : ∃ id, g.Declares key id depth := by
  rw [← length_atDepth] at some
  obtain ⟨id, mem⟩ := List.exists_mem_of_length_pos some
  exact ⟨id, mem_atDepth.mp mem⟩

theorem countAt_eq_one (here : g.Declares key id depth)
    (only : ∀ other, g.Declares key other depth → other = id) : g.countAt key depth = 1 := by
  rw [← length_atDepth, atDepth_eq_singleton here only]
  rfl

end EntityGraph

/-! ### Answers -/

/-- What a reference is answered with. -/
inductive Ref.Answers (g : EntityGraph) (source : String) :
    Ref → Except CompileError EntityId → Prop where
  /-- No other entity of the key lies as near to the root. -/
  | nearest {key : EntityKey} {id : EntityId} {depth : Nat} (here : g.Declares key id depth)
      (alone : ∀ other depth', g.Declares key other depth' → other = id ∨ depth < depth') :
      Answers g source (.named key) (.ok id)
  /-- Several entities of the key lie nearest to the root. -/
  | tied {key : EntityKey} {depth : Nat} (several : 2 ≤ g.countAt key depth)
      (least : ∀ other depth', g.Declares key other depth' → depth ≤ depth') :
      Answers g source (.named key)
        (.error (.ambiguous source key.kind.name key.name (g.countAt key depth) depth))
  | missing {key : EntityKey} (none : ∀ id depth, ¬g.Declares key id depth) :
      Answers g source (.named key) (.error (.unresolved source key.kind.name key.name))
  | bound {key : EntityKey} {id : EntityId} {depth : Nat} (here : g.Declares key id depth) :
      Answers g source (.bound id key) (.ok id)
  /-- No entity of the key has this id. -/
  | stale {key : EntityKey} {id : EntityId} (none : ∀ depth, ¬g.Declares key id depth) :
      Answers g source (.bound id key) (.error (.unresolved source key.kind.name key.name))

namespace Ref

variable {g g' : EntityGraph} {source : String} {key : EntityKey} {id : EntityId} {r : Ref}
  {a b : Except CompileError EntityId}

theorem answers_named (g : EntityGraph) (source : String) (key : EntityKey) :
    Answers g source (.named key) ((Ref.named key).resolve g source) := by
  cases run : (Ref.named key).resolve g source with
  | ok id =>
    obtain ⟨depth, here, alone⟩ := resolve_named_iff.mp run
    exact .nearest here alone
  | error fault =>
    unfold resolve at run
    cases least : g.leastDepth? (g.candidates key) with
    | none =>
      simp only [least] at run
      obtain rfl := Except.error.inj run
      exact .missing fun id depth => EntityGraph.leastDepth?_none least
    | some depth =>
      obtain ⟨⟨nearest, here⟩, minimal⟩ := EntityGraph.leastDepth?_some least
      simp only [least] at run
      split at run
      · cases run
      · rename_i many
        obtain rfl := Except.error.inj run
        rw [EntityGraph.length_atDepth]
        -- There is one at the least depth, and there is not exactly one.
        have positive := EntityGraph.countAt_pos here
        have other : g.countAt key depth ≠ 1 := fun one => by
          obtain ⟨only, single⟩ := List.length_eq_one_iff.mp (EntityGraph.length_atDepth.trans one)
          exact many only single
        exact .tied (by omega) minimal

theorem answers_bound (g : EntityGraph) (source : String) (id : EntityId) (key : EntityKey) :
    Answers g source (.bound id key) ((Ref.bound id key).resolve g source) := by
  rw [resolve]
  split
  · rename_i declared
    obtain ⟨depth, here⟩ := EntityGraph.any_key_iff.mp declared
    exact .bound here
  · rename_i absent
    exact .stale fun depth here => absent (EntityGraph.any_key_iff.mpr ⟨depth, here⟩)

theorem answers_resolve (g : EntityGraph) (source : String) (r : Ref) :
    Answers g source r (r.resolve g source) := by
  cases r with
  | named key => exact answers_named g source key
  | bound id key => exact answers_bound g source id key

/-- Several entities at the least depth leave none that lies nearest. -/
theorem not_alone {depth least : Nat} (several : 2 ≤ g.countAt key least)
    (minimal : ∀ other depth', g.Declares key other depth' → least ≤ depth')
    (here : g.Declares key id depth) :
    ¬∀ other depth', g.Declares key other depth' → other = id ∨ depth < depth' := by
  intro alone
  obtain ⟨other, there⟩ := EntityGraph.exists_of_countAt (Nat.lt_of_lt_of_le Nat.two_pos several)
  have below := minimal id depth here
  have same : depth = least := by
    rcases alone other least there with rfl | deeper
    · exact here.unique there
    · omega
  subst same
  have one := EntityGraph.countAt_eq_one here fun other there =>
    (alone other depth there).resolve_right (Nat.lt_irrefl depth)
  omega

/-- A reference has one answer. -/
theorem Answers.unique (h : Answers g source r a) (h' : Answers g source r b) : a = b := by
  cases h with
  | nearest here alone =>
    cases h' with
    | nearest here' alone' =>
      exact congrArg Except.ok (Means.unique (r := .named _) ⟨_, here, alone⟩ ⟨_, here', alone'⟩)
    | tied several least => exact absurd alone (not_alone several least here)
    | missing none => exact absurd here (none _ _)
  | @tied key depth several least =>
    obtain ⟨id, there⟩ := EntityGraph.exists_of_countAt (Nat.lt_of_lt_of_le Nat.two_pos several)
    cases h' with
    | nearest here alone => exact absurd alone (not_alone several least here)
    | @tied _ depth' several' least' =>
      obtain ⟨id', there'⟩ := EntityGraph.exists_of_countAt (Nat.lt_of_lt_of_le Nat.two_pos several')
      obtain rfl : depth = depth' := Nat.le_antisymm (least id' depth' there') (least' id depth there)
      rfl
    | missing none => exact absurd there (none _ _)
  | missing none =>
    cases h' with
    | nearest here => exact absurd here (none _ _)
    | @tied _ depth several =>
      obtain ⟨id, there⟩ := EntityGraph.exists_of_countAt (Nat.lt_of_lt_of_le Nat.two_pos several)
      exact absurd there (none _ _)
    | missing => rfl
  | bound here =>
    cases h' with
    | bound => rfl
    | stale none => exact absurd here (none _)
  | stale none =>
    cases h' with
    | bound here => exact absurd here (none _)
    | stale => rfl

theorem resolve_eq_iff : r.resolve g source = a ↔ Answers g source r a := by
  constructor
  · rintro rfl
    exact answers_resolve g source r
  · exact (answers_resolve g source r).unique

end Ref

/-! ### Declarations in another order -/

/-- Two graphs of the same keys at the same depths, with the places renumbered. -/
def EntityGraph.Renumbers (π : Equiv.Perm EntityId) (g g' : EntityGraph) : Prop :=
  ∀ key id depth, g'.Declares key (π id) depth ↔ g.Declares key id depth

/-- What a name looks at. -/
def Declared.place (d : Declared) : EntityKey × Nat := (d.entity.key, d.depth)

namespace EntityGraph

variable {g g' : EntityGraph}

theorem declares_iff_place {key : EntityKey} {id : EntityId} {depth : Nat} :
    g.Declares key id depth ↔ (g.declared.map Declared.place)[id]? = some (key, depth) := by
  rw [List.getElem?_map, Option.map_eq_some_iff]
  simp only [Declares, Declared.place, Prod.mk.injEq]

theorem exists_renumbers
    (perm : (g.declared.map Declared.place).Perm (g'.declared.map Declared.place)) :
    ∃ π, g.Renumbers π g' := by
  obtain ⟨π, same⟩ := exists_places perm
  exact ⟨π, fun key id depth => by rw [declares_iff_place, same, ← declares_iff_place]⟩

end EntityGraph

namespace EntityGraph.Renumbers

variable {g g' : EntityGraph} {π : Equiv.Perm EntityId}

theorem declares_iff (h : g.Renumbers π g') {key : EntityKey} {id : EntityId} {depth : Nat} :
    g'.Declares key id depth ↔ g.Declares key (π.symm id) depth := by
  rw [← h, Equiv.apply_symm_apply]

theorem countAt (h : g.Renumbers π g') (key : EntityKey) (depth : Nat) :
    g'.countAt key depth = g.countAt key depth := by
  have perm : (g'.atDepth depth (g'.candidates key)).Perm
      ((g.atDepth depth (g.candidates key)).map π) := by
    refine (List.perm_ext_iff_of_nodup nodup_atDepth (nodup_atDepth.map π.injective)).mpr fun id => ?_
    rw [mem_atDepth, h.declares_iff, List.mem_map]
    constructor
    · intro here
      exact ⟨π.symm id, mem_atDepth.mpr here, π.apply_symm_apply id⟩
    · rintro ⟨old, here, rfl⟩
      rw [Equiv.symm_apply_apply]
      exact mem_atDepth.mp here
  rw [← length_atDepth, ← length_atDepth, perm.length_eq, List.length_map]

/-- A name means the same entity, in whatever order the entities are declared. -/
theorem resolve_named (h : g.Renumbers π g') (key : EntityKey) (source : String) :
    (Ref.named key).resolve g' source = ((Ref.named key).resolve g source).map π := by
  have answer := Ref.answers_named g source key
  rw [Ref.resolve_eq_iff]
  generalize (Ref.named key).resolve g source = a at answer ⊢
  cases answer with
  | nearest here alone =>
    refine .nearest ((h _ _ _).mpr here) fun other depth' declared => ?_
    rw [← Equiv.symm_apply_eq]
    exact alone _ depth' (h.declares_iff.mp declared)
  | tied several least =>
    rw [← h.countAt] at several ⊢
    exact .tied several fun other depth' declared => least _ depth' (h.declares_iff.mp declared)
  | missing none =>
    exact .missing fun id depth declared => none _ depth (h.declares_iff.mp declared)

end EntityGraph.Renumbers

namespace EntityGraph

variable {g : EntityGraph} {handle : Handle} {c : Call}

/-! ### Receipts -/

/-- What a call declares. -/
def Call.declared : Call → Declared
  | .declare e => ⟨e, moduleDepth⟩
  | .declareAt e depth => ⟨e, depth⟩
  | .declareRoot e => ⟨e, 0⟩

/-- What is declared goes to the end, the receipt names its place, and the index takes it up. -/
theorem answer_ok (h : g.answer c = .ok handle) :
    (g.call c).declared = g.declared ++ [c.declared] ∧
      handle = ⟨g.size, c.declared.entity.key⟩ ∧
      (g.call c).index = g.index.add handle.key handle.id := by
  cases c with
  | declare | declareAt =>
    obtain rfl := Except.ok.inj h
    exact ⟨rfl, rfl, rfl⟩
  | declareRoot e =>
    change (g.takeRoot e).2 = _ at h
    change (g.takeRoot e).1.declared = _ ∧ _ ∧ (g.takeRoot e).1.index = _
    rcases takeRoot_cases g e with ⟨kind, free⟩ | ⟨fault, refused⟩
    · rw [takeRoot_free kind free] at h ⊢
      obtain rfl := Except.ok.inj h
      exact ⟨rfl, rfl, rfl⟩
    · rw [refused] at h
      cases h

/-- Only a root is refused, and before anything is declared. -/
theorem call_of_refused {fault : CompileError} (h : g.answer c = .error fault) : g.call c = g := by
  cases c with
  | declare | declareAt => cases h
  | declareRoot e =>
    change (g.takeRoot e).2 = _ at h
    change (g.takeRoot e).1 = g
    rcases takeRoot_cases g e with ⟨kind, free⟩ | ⟨fault, refused⟩
    · rw [takeRoot_free kind free] at h
      cases h
    · rw [refused]

/-- No call takes back what is declared. -/
theorem declared_call (g : EntityGraph) (c : Call) : g.declared <+: (g.call c).declared := by
  cases run : g.answer c with
  | error fault =>
    exact ⟨[], by rw [List.append_nil, call_of_refused run]⟩
  | ok handle =>
    rw [(answer_ok run).1]
    exact List.prefix_append _ _

theorem declared_calls (g : EntityGraph) (calls : List Call) :
    g.declared <+: (calls.foldl call g).declared := by
  induction calls generalizing g with
  | nil => exact List.prefix_refl _
  | cons c calls ih => exact (declared_call g c).trans (ih (g.call c))

theorem ofCalls_append (calls later : List Call) :
    ofCalls (calls ++ later) = later.foldl call (ofCalls calls) :=
  List.foldl_append

/-- An entity keeps the place of its receipt, whatever is declared after it. -/
theorem declared_kept (h : g.answer c = .ok handle) (later : List Call) :
    (later.foldl call (g.call c)).declared[handle.id]? = some c.declared := by
  obtain ⟨all, rfl, -⟩ := answer_ok h
  obtain ⟨rest, kept⟩ := declared_calls (g.call c) later
  rw [← kept, all, List.append_assoc, size, List.getElem?_append_right (Nat.le_refl _),
    Nat.sub_self]
  rfl

/-! ### The entities of a key -/

/-- What a call leaves: its entity behind the others and its key in the index, or all as it was. -/
inductive Leaves (g : EntityGraph) (c : Call) : EntityGraph → Prop where
  | declared {g' : EntityGraph} {handle : Handle} (answer : g.answer c = .ok handle)
      (receipt : handle = ⟨g.size, c.declared.entity.key⟩)
      (entities : g'.declared = g.declared ++ [c.declared])
      (index : g'.index = g.index.add handle.key handle.id) : Leaves g c g'
  | refused {fault : CompileError} (answer : g.answer c = .error fault) : Leaves g c g

theorem call_leaves (g : EntityGraph) (c : Call) : g.Leaves c (g.call c) := by
  cases run : g.answer c with
  | error fault =>
    rw [call_of_refused run]
    exact .refused run
  | ok handle =>
    obtain ⟨entities, receipt, index⟩ := answer_ok run
    exact .declared run receipt entities index

/-- A call adds its entity to those of its key, and to no others; a refused one adds nothing. -/
theorem candidates_call (g : EntityGraph) (c : Call) (key : EntityKey) :
    (g.call c).candidates key = g.candidates key ++
      match g.answer c with
      | .ok handle => if handle.key = key then [handle.id] else []
      | .error _ => [] := by
  cases run : g.answer c with
  | error fault => rw [call_of_refused run, List.append_nil]
  | ok handle =>
    obtain ⟨-, -, index⟩ := answer_ok run
    rw [candidates, index, KeyIndex.ids_add]
    rfl

end EntityGraph

/-! ### Graphs that were declared -/

open EntityGraph (ofCalls) in
/-- **References are answered by what is declared.** After any calls, refused ones included, the index
lists under each key the entities of that key: a call adds its entity and its key together, or neither
of them. A reference has the answer that `Ref.Answers` describes. A name is answered alike by every
graph of the same keys at the same depths, in whatever order they were declared. A call adds its entity
to those of its key alone, and a receipt is answered by its own entity after all further calls. -/
theorem resolve_declared (calls : List EntityGraph.Call) :
    (∀ key : EntityKey, (ofCalls calls).index.ids key =
      (List.range (ofCalls calls).size).filter fun id =>
        ((ofCalls calls).entity? id).any fun e => e.key == key) ∧
    (∀ c : EntityGraph.Call, (ofCalls calls).Leaves c (ofCalls (calls ++ [c]))) ∧
    (∀ (r : Ref) (source : String) (a : Except CompileError EntityId),
      r.resolve (ofCalls calls) source = a ↔ r.Answers (ofCalls calls) source a) ∧
    (∀ others : List EntityGraph.Call,
      ((ofCalls calls).declared.map Declared.place).Perm
        ((ofCalls others).declared.map Declared.place) →
      ∃ π, (ofCalls calls).Renumbers π (ofCalls others) ∧
        ∀ (key : EntityKey) (source : String), (Ref.named key).resolve (ofCalls others) source =
          ((Ref.named key).resolve (ofCalls calls) source).map π) ∧
    (∀ (c : EntityGraph.Call) (key : EntityKey), (ofCalls (calls ++ [c])).candidates key =
      (ofCalls calls).candidates key ++
        match (ofCalls calls).answer c with
        | .ok handle => if handle.key = key then [handle.id] else []
        | .error _ => []) ∧
    ∀ (c : EntityGraph.Call) (handle : Handle), (ofCalls calls).answer c = .ok handle →
      handle.key = c.declared.entity.key ∧ ∀ (later : List EntityGraph.Call) (source : String),
        (ofCalls (calls ++ c :: later)).declared[handle.id]? = some c.declared ∧
          handle.ref.resolve (ofCalls (calls ++ c :: later)) source = .ok handle.id := by
  refine ⟨fun key => (ofCalls calls).candidates_eq key, fun c => ?_,
    fun r source a => Ref.resolve_eq_iff, fun others perm => ?_, fun c key => ?_,
    fun c handle answered => ?_⟩
  · rw [EntityGraph.ofCalls_append]
    exact EntityGraph.call_leaves _ c
  · obtain ⟨π, same⟩ := EntityGraph.exists_renumbers perm
    exact ⟨π, same, same.resolve_named⟩
  · rw [EntityGraph.ofCalls_append]
    exact EntityGraph.candidates_call _ c key
  · have key : handle.key = c.declared.entity.key := by
      rw [(EntityGraph.answer_ok answered).2.1]
    refine ⟨key, fun later source => ?_⟩
    have after : ofCalls (calls ++ c :: later) =
        later.foldl EntityGraph.call ((ofCalls calls).call c) := by
      rw [EntityGraph.ofCalls_append, List.foldl_cons]
    have kept := EntityGraph.declared_kept answered later
    rw [after]
    exact ⟨kept, Ref.resolve_eq_iff.mpr (.bound ⟨_, kept, key.symm, rfl⟩)⟩

/-- Calls of which two are refused: a service is no root, and the second root comes too late. -/
def shopCalls : List EntityGraph.Call :=
  [.declareRoot { kind := .service, name := "web" }, .declareAt { kind := .service, name := "web" } 3,
    .declare { kind := .service, name := "db" }, .declareRoot { kind := .runbook, name := "Ops" },
    .declareRoot { kind := .project, name := "P" }, .declareAt { kind := .service, name := "web" } 2,
    .declare { kind := .service, name := "db" }]

open EntityGraph (ofCalls) in
theorem resolve_declared_shop :
    (ofCalls shopCalls).index.ids ⟨.service, "web"⟩ = [0, 3] ∧
    (Ref.named ⟨.service, "db"⟩).Answers (ofCalls shopCalls) "runbook 'Ops'"
      (.error (.ambiguous "runbook 'Ops'" "service" "db" 2 1)) ∧
    (∃ π, (ofCalls shopCalls).Renumbers π
        (ofCalls (.declareRoot { kind := .runbook, name := "Ops" } :: shopCalls)) ∧
      (Ref.named ⟨.service, "web"⟩).resolve
          (ofCalls (.declareRoot { kind := .runbook, name := "Ops" } :: shopCalls)) "" =
        .ok (π 3)) ∧
    (Ref.bound 0 ⟨.service, "web"⟩).resolve (ofCalls shopCalls) "" = .ok 0 := by
  obtain ⟨listed, -, answers, alike, -⟩ := resolve_declared shopCalls
  refine ⟨(listed _).trans (by decide +kernel), (answers _ _ _).mp (by decide +kernel), ?_, ?_⟩
  · obtain ⟨π, renumbers, same⟩ :=
      alike (.declareRoot { kind := .runbook, name := "Ops" } :: shopCalls) (by decide +kernel)
    have nearest : (Ref.named ⟨.service, "web"⟩).resolve (ofCalls shopCalls) "" = .ok 3 := by
      decide +kernel
    exact ⟨π, renumbers, by rw [same, nearest]; rfl⟩
  · have received := (resolve_declared (shopCalls.take 1)).2.2.2.2.2
      (.declareAt { kind := .service, name := "web" } 3) ⟨0, ⟨.service, "web"⟩⟩ rfl
    exact (received.2 (shopCalls.drop 2) "").2

end Blueprint
