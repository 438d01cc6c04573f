import Blueprint.Proofs.Outline.Order

/-!
# Levels of a tree

A tree holds a level for the body and for every branch and loop body. `layout_faithful` shows that
each level of a layout depends on its scopes as `Orders` says.
-/

namespace Blueprint.Outline

open Relation (TransGen)

/-- The node that a declaration became. -/
inductive Declares : Outline → TaskNode → Prop where
  | step (s : Step) (predecessors : List String) : Declares (.step s) (s.node predecessors)
  | decision (d : DecisionHeader) (first : Branch) (s f : List Outline) (predecessors : List String)
      (success failure : TaskTree) :
      Declares (.decision d first s f) (d.node predecessors success failure)
  | loop (l : LoopHeader) (b : List Outline) (predecessors : List String) (body : TaskTree) :
      Declares (.loop l b) (l.node predecessors body)

/-- The levels of a tree, each with what was written there. -/
inductive LevelOf (body : List Outline) (t : TaskTree) : List Outline → TaskTree → Prop where
  | top : LevelOf body t body t
  | success {level : List Outline} {sub : TaskTree} {k : Nat} {d : DecisionHeader} {first : Branch}
      {s f : List Outline} {head : TaskHead} {script : Script} {success failure : TaskTree}
      (outer : LevelOf body t level sub) (item : (tasksOf level)[k]? = some (.decision d first s f))
      (node : sub[k]? = some (.decision head script success failure)) : LevelOf body t s success
  | failure {level : List Outline} {sub : TaskTree} {k : Nat} {d : DecisionHeader} {first : Branch}
      {s f : List Outline} {head : TaskHead} {script : Script} {success failure : TaskTree}
      (outer : LevelOf body t level sub) (item : (tasksOf level)[k]? = some (.decision d first s f))
      (node : sub[k]? = some (.decision head script success failure)) : LevelOf body t f failure
  | loop {level : List Outline} {sub : TaskTree} {k : Nat} {l : LoopHeader} {b : List Outline}
      {head : TaskHead} {iterations loopVariable : String} {inner : TaskTree}
      (outer : LevelOf body t level sub) (item : (tasksOf level)[k]? = some (.loop l b))
      (node : sub[k]? = some (.loop head iterations loopVariable inner)) : LevelOf body t b inner

/-- A scope of a level, or one of its tasks. -/
inductive Inside (o : Outline) : Outline → Prop where
  | here : Inside o o
  | serial {ms : List Outline} {m : Outline} (mem : m ∈ ms) (inner : Inside o m) :
      Inside o (serial ms)
  | parallel {ms : List Outline} {m : Outline} (mem : m ∈ ms) (inner : Inside o m) :
      Inside o (parallel ms)

mutual

/-- An outline without the scopes on its level that received no task. -/
def pruned : Outline → Outline
  | serial ms => serial (prunedOf ms)
  | parallel ms => parallel (prunedOf ms)
  | o => o

def prunedOf : List Outline → List Outline
  | [] => []
  | m :: ms => if m.tasks.isEmpty then prunedOf ms else pruned m :: prunedOf ms

end

/-- `y` waits for `x`, directly or through others. -/
def Depends (t : TaskTree) (x y : String) : Prop := TransGen (fun a b => (a, b) ∈ t.edges) x y

/-- A level that holds what was written there and waits for exactly what comes before. -/
structure Faithful (level : List Outline) (t : TaskTree) : Prop where
  declared : List.Forall₂ Declares (tasksOf level) t
  distinct : (t.map TaskNode.name).Nodup
  predecessors : ∀ n ∈ t, ∀ x, x ∈ n.predecessors ↔ Immediate (Orders · · (.serial level)) x n.name
  placed : ∀ n ∈ t, n.predecessors.Sublist (t.map TaskNode.name)
  depends : ∀ x y, Depends t x y ↔ (serial level).Orders x y
  independent : ∀ ms a b, Inside (.parallel ms) (.serial level) → [a, b].Sublist ms →
    ∀ x ∈ a.names, ∀ y ∈ b.names, ¬Depends t x y ∧ ¬Depends t y x
  transparent : tasksOf (prunedOf level) = tasksOf level ∧
    ∀ x y, (serial (prunedOf level)).Orders x y ↔ (serial level).Orders x y
  irredundant : ∀ x y, (x, y) ∈ t.edges → ∀ z, Depends t x z → ¬Depends t z y

/-! ### Scopes of a level -/

variable {x y : String} {ms : List Outline}

theorem names_sublist_of_mem {m : Outline} (mem : m ∈ ms) : m.names.Sublist (namesOf ms) := by
  obtain ⟨before, rest, rfl⟩ := List.append_of_mem mem
  rw [namesOf_append, namesOf]
  exact (List.sublist_append_left _ _).trans (List.sublist_append_right _ _)

theorem orders_member {m : Outline} (mem : m ∈ ms) (distinct : (namesOf ms).Nodup)
    (second : y ∈ m.names) (first : x ∈ m.names) :
    ((serial ms).Orders x y ↔ m.Orders x y) ∧ ((parallel ms).Orders x y ↔ m.Orders x y) := by
  induction ms with
  | nil => cases mem
  | cons m' ms ih =>
    rcases List.mem_cons.mp mem with rfl | mem
    · exact ⟨orders_serial_head distinct second, orders_parallel_head distinct second⟩
    · obtain ⟨serial, parallel⟩ := ih mem (nodup_tail distinct)
      have later := (names_sublist_of_mem mem).subset
      rw [orders_serial_tail distinct (later second), orders_parallel_tail distinct (later second),
        or_iff_right fun h => not_mem_both distinct h (later first)]
      exact ⟨serial, parallel⟩

theorem inside_names {p o : Outline} (h : Inside p o) : p.names.Sublist o.names := by
  induction h with
  | here => exact List.Sublist.refl _
  | serial mem _ ih => exact ih.trans (names_sublist_of_mem mem)
  | parallel mem _ ih => exact ih.trans (names_sublist_of_mem mem)

theorem orders_inside {p o : Outline} (h : Inside p o) (distinct : o.names.Nodup)
    (first : x ∈ p.names) (second : y ∈ p.names) : o.Orders x y ↔ p.Orders x y := by
  induction h with
  | here => exact Iff.rfl
  | serial mem inner ih =>
    have names := (inside_names inner).subset
    rw [(orders_member mem distinct (names second) (names first)).1]
    exact ih (distinct.sublist (names_sublist_of_mem mem))
  | parallel mem inner ih =>
    have names := (inside_names inner).subset
    rw [(orders_member mem distinct (names second) (names first)).2]
    exact ih (distinct.sublist (names_sublist_of_mem mem))

theorem not_orders_parallel {a b : Outline} (distinct : (namesOf ms).Nodup)
    (sub : [a, b].Sublist ms) (first : x ∈ a.names) (second : y ∈ b.names) :
    ¬(parallel ms).Orders x y ∧ ¬(parallel ms).Orders y x := by
  induction ms with
  | nil => cases sub
  | cons m ms ih =>
    cases sub with
    | cons _ sub =>
      have mem : ∀ {c : Outline} {z : String}, c ∈ [a, b] → z ∈ c.names → z ∈ namesOf ms :=
        fun mem h => (names_sublist_of_mem (sub.subset mem)).subset h
      have hx := mem List.mem_cons_self first
      have hy := mem (List.mem_cons_of_mem _ List.mem_cons_self) second
      rw [orders_parallel_tail distinct hy, orders_parallel_tail distinct hx]
      exact ih (nodup_tail distinct) sub
    | cons_cons _ sub =>
      have hy := (names_sublist_of_mem (List.singleton_sublist.mp sub)).subset second
      rw [orders_parallel_tail distinct hy, orders_parallel_head distinct first]
      exact ⟨fun h => not_mem_both distinct first (orders_left h),
        fun h => not_mem_both distinct (orders_left h) hy⟩

/-! ### Scopes without tasks -/

mutual

theorem tasks_eq_nil_iff : ∀ o : Outline, o.tasks = [] ↔ o.names = []
  | step _ => by simp [tasks, names]
  | serial ms => tasksOf_eq_nil_iff ms
  | parallel ms => tasksOf_eq_nil_iff ms
  | decision _ _ _ _ => by simp [tasks, names]
  | loop _ _ => by simp [tasks, names]

theorem tasksOf_eq_nil_iff : ∀ ms : List Outline, tasksOf ms = [] ↔ namesOf ms = []
  | [] => by simp [tasksOf, namesOf]
  | m :: ms => by
    rw [tasksOf, namesOf, List.append_eq_nil_iff, tasks_eq_nil_iff m, tasksOf_eq_nil_iff ms,
      List.append_eq_nil_iff]

end

mutual

theorem pruned_tasks : ∀ o : Outline, o.pruned.tasks = o.tasks
  | step _ => rfl
  | serial ms => prunedOf_tasks ms
  | parallel ms => prunedOf_tasks ms
  | decision _ _ _ _ => rfl
  | loop _ _ => rfl

theorem prunedOf_tasks : ∀ ms : List Outline, tasksOf (prunedOf ms) = tasksOf ms
  | [] => rfl
  | m :: ms => by
    rw [prunedOf, tasksOf]
    split
    · rename_i none
      rw [List.isEmpty_iff.mp none, List.nil_append, prunedOf_tasks ms]
    · rw [tasksOf, pruned_tasks m, prunedOf_tasks ms]

end

mutual

theorem pruned_names : ∀ o : Outline, o.pruned.names = o.names
  | step _ => rfl
  | serial ms => prunedOf_names ms
  | parallel ms => prunedOf_names ms
  | decision _ _ _ _ => rfl
  | loop _ _ => rfl

theorem prunedOf_names : ∀ ms : List Outline, namesOf (prunedOf ms) = namesOf ms
  | [] => rfl
  | m :: ms => by
    rw [prunedOf, namesOf]
    split
    · rename_i none
      rw [(tasks_eq_nil_iff m).mp (List.isEmpty_iff.mp none), List.nil_append, prunedOf_names ms]
    · rw [namesOf, pruned_names m, prunedOf_names ms]

end

mutual

theorem pruned_orders : ∀ (o : Outline) (x y : String), o.pruned.Orders x y ↔ o.Orders x y
  | step _, _, _ => Iff.rfl
  | serial ms, x, y => prunedOf_orders_serial ms x y
  | parallel ms, x, y => prunedOf_orders_parallel ms x y
  | decision _ _ _ _, _, _ => Iff.rfl
  | loop _ _, _, _ => Iff.rfl

theorem prunedOf_orders_serial : ∀ (ms : List Outline) (x y : String),
    (serial (prunedOf ms)).Orders x y ↔ (serial ms).Orders x y
  | [], _, _ => Iff.rfl
  | m :: ms, x, y => by
    rw [orders_serial_cons, prunedOf]
    split
    · rename_i empty
      have none : m.names = [] := (tasks_eq_nil_iff m).mp (List.isEmpty_iff.mp empty)
      rw [prunedOf_orders_serial ms x y, none]
      refine ⟨fun h => Or.inr (Or.inr h), ?_⟩
      rintro (h | ⟨mem, _⟩ | h)
      · exact absurd (orders_left h) (none ▸ List.not_mem_nil)
      · cases mem
      · exact h
    · rw [orders_serial_cons, pruned_orders m x y, pruned_names, prunedOf_names,
        prunedOf_orders_serial ms x y]

theorem prunedOf_orders_parallel : ∀ (ms : List Outline) (x y : String),
    (parallel (prunedOf ms)).Orders x y ↔ (parallel ms).Orders x y
  | [], _, _ => Iff.rfl
  | m :: ms, x, y => by
    rw [orders_parallel_cons, prunedOf]
    split
    · rename_i empty
      have none : m.names = [] := (tasks_eq_nil_iff m).mp (List.isEmpty_iff.mp empty)
      rw [prunedOf_orders_parallel ms x y]
      exact (or_iff_right fun h => absurd (orders_left h) (none ▸ List.not_mem_nil)).symm
    · rw [orders_parallel_cons, pruned_orders m x y, prunedOf_orders_parallel ms x y]

end

/-! ### Dependence -/

theorem mem_edges {t : TaskTree} : (x, y) ∈ t.edges ↔ ∃ n ∈ t, x ∈ n.predecessors ∧ n.name = y := by
  simp [TaskTree.edges]

theorem idxOf_lt {l : List String} (distinct : l.Nodup) (sub : [x, y].Sublist l) :
    l.idxOf x < l.idxOf y := by
  induction l with
  | nil => cases sub
  | cons a l ih =>
    obtain ⟨fresh, distinct⟩ := List.nodup_cons.mp distinct
    cases sub with
    | cons _ sub =>
      have notHead : ∀ z ∈ [x, y], z ≠ a := fun z mem same => fresh (same ▸ sub.subset mem)
      rw [List.idxOf_cons_ne _ (notHead x (by simp)).symm, List.idxOf_cons_ne _ (notHead y (by simp)).symm]
      exact Nat.succ_lt_succ (ih distinct sub)
    | cons_cons _ sub =>
      have notHead : y ≠ x := fun same => fresh (same ▸ List.singleton_sublist.mp sub)
      rw [List.idxOf_cons_self, List.idxOf_cons_ne _ notHead.symm]
      exact Nat.succ_pos _

/-- Every pair of the order is a chain of pairs with nothing between. -/
theorem transGen_immediate {o : Outline} (distinct : o.names.Nodup) (h : o.Orders x y) :
    TransGen (Immediate (Orders · · o)) x y := by
  -- By induction on the distance of the two on the level.
  induction gap : o.names.idxOf y - o.names.idxOf x using Nat.strongRecOn
    generalizing x y with
  | ind n ih =>
    by_cases direct : Immediate (Orders · · o) x y
    · exact .single direct
    · obtain ⟨z, hx, hz⟩ : ∃ z, o.Orders x z ∧ o.Orders z y := by
        by_contra none
        exact direct ⟨h, fun z hx hz => none ⟨z, hx, hz⟩⟩
      have xz := idxOf_lt distinct (orders_sublist hx)
      have zy := idxOf_lt distinct (orders_sublist hz)
      exact (ih _ (by omega) hx rfl).trans (ih _ (by omega) hz rfl)

theorem transGen_immediate_iff {o : Outline} (distinct : o.names.Nodup) :
    TransGen (Immediate (Orders · · o)) x y ↔ o.Orders x y := by
  refine ⟨fun chain => ?_, transGen_immediate distinct⟩
  induction chain with
  | single h => exact h.1
  | tail _ h ih => exact orders_trans distinct ih h.1

/-! ### Layouts -/

mutual

theorem layout_placed : ∀ {o : Outline} {entry : List String} {n : TaskNode}, n ∈ o.layout entry →
    n.predecessors = entry ∨ n.predecessors.Sublist o.names
  | step _, _, _, h => Or.inl (by rw [List.mem_singleton.mp h]; rfl)
  | serial _, _, _, h => layoutSerial_placed h
  | parallel _, _, _, h => layoutParallel_placed h
  | decision _ _ _ _, _, _, h => Or.inl (by rw [List.mem_singleton.mp h]; rfl)
  | loop _ _, _, _, h => Or.inl (by rw [List.mem_singleton.mp h]; rfl)

theorem layoutSerial_placed : ∀ {ms : List Outline} {entry : List String} {n : TaskNode},
    n ∈ layoutSerial entry ms → n.predecessors = entry ∨ n.predecessors.Sublist (namesOf ms)
  | m :: ms, entry, n, h => by
    rw [namesOf]
    rcases List.mem_append.mp h with h | h
    · exact (layout_placed h).imp_right fun sub => sub.trans (List.sublist_append_left _ _)
    · rcases layoutSerial_placed h with same | sub
      · rw [same]
        cases exits : m.exits with
        | nil => exact Or.inl rfl
        | cons x xs =>
          exact Or.inr ((exits ▸ exits_sublist m).trans (List.sublist_append_left _ _))
      · exact Or.inr (sub.trans (List.sublist_append_right _ _))

theorem layoutParallel_placed : ∀ {ms : List Outline} {entry : List String} {n : TaskNode},
    n ∈ layoutParallel entry ms → n.predecessors = entry ∨ n.predecessors.Sublist (namesOf ms)
  | m :: ms, entry, n, h => by
    rw [namesOf]
    rcases List.mem_append.mp h with h | h
    · exact (layout_placed h).imp_right fun sub => sub.trans (List.sublist_append_left _ _)
    · exact (layoutParallel_placed h).imp_right fun sub => sub.trans (List.sublist_append_right _ _)

end

theorem levelOf_layout {body level : List Outline} {t sub : TaskTree}
    (h : LevelOf body t level sub) (top : t = layoutSerial [] body)
    (distinct : (allNamesOf body).Nodup) :
    sub = layoutSerial [] level ∧ (allNamesOf level).Nodup := by
  have lays : ∀ {level : List Outline} {sub : TaskTree} {k : Nat} {o : Outline} {n : TaskNode},
      sub = layoutSerial [] level → (tasksOf level)[k]? = some o → sub[k]? = some n → Lays o n := by
    intro level sub k o n same item node
    have rel := same ▸ layoutSerial_tasks level []
    obtain ⟨bound, rfl⟩ := List.getElem?_eq_some_iff.mp item
    obtain ⟨bound', rfl⟩ := List.getElem?_eq_some_iff.mp node
    exact rel.get bound bound'
  have nested : ∀ {level : List Outline} {k : Nat} {o : Outline}, (allNamesOf level).Nodup →
      (tasksOf level)[k]? = some o → o.allNames.Nodup := fun distinct item =>
    distinct.sublist (allNames_sublist_of_mem_tasksOf (List.mem_of_getElem? item))
  induction h with
  | top => exact ⟨top, distinct⟩
  | success _ item node ih =>
    have distinct := (List.nodup_cons.mp (nested ih.2 item)).2
    cases lays ih.1 item node
    exact ⟨rfl, (List.nodup_append.mp distinct).1⟩
  | failure _ item node ih =>
    have distinct := (List.nodup_cons.mp (nested ih.2 item)).2
    cases lays ih.1 item node
    exact ⟨rfl, (List.nodup_append.mp distinct).2.1⟩
  | loop _ item node ih =>
    have distinct := (List.nodup_cons.mp (nested ih.2 item)).2
    cases lays ih.1 item node
    exact ⟨rfl, distinct⟩

theorem layout_predecessors {level : List Outline} {n : TaskNode} (distinct : (namesOf level).Nodup)
    (mem : n ∈ layoutSerial [] level) (x : String) :
    x ∈ n.predecessors ↔ Immediate (Orders · · (serial level)) x n.name := by
  rcases layoutSerial_waits distinct mem with ⟨_, right⟩ | ⟨none, first⟩
  · exact right x
  · rw [none]
    exact ⟨fun h => (List.not_mem_nil h).elim, fun h => (first x h.1).elim⟩

theorem layout_edges {level : List Outline} (distinct : (namesOf level).Nodup) :
    (x, y) ∈ TaskTree.edges (layoutSerial [] level) ↔ Immediate (Orders · · (serial level)) x y := by
  rw [mem_edges]
  constructor
  · rintro ⟨n, mem, before, rfl⟩
    exact (layout_predecessors distinct mem x).mp before
  · intro h
    have named : y ∈ (layoutSerial [] level).map TaskNode.name :=
      layoutSerial_names level [] ▸ orders_right h.1
    obtain ⟨n, mem, rfl⟩ := List.mem_map.mp named
    exact ⟨n, mem, (layout_predecessors distinct mem x).mpr h, rfl⟩

theorem layout_depends {level : List Outline} (distinct : (namesOf level).Nodup) :
    Depends (layoutSerial [] level) x y ↔ (serial level).Orders x y := by
  have edges : (fun a b => (a, b) ∈ TaskTree.edges (layoutSerial [] level)) =
      Immediate (Orders · · (serial level)) := by
    funext a b
    exact propext (layout_edges distinct)
  rw [Depends, edges]
  exact transGen_immediate_iff distinct

theorem layout_faithful {level : List Outline} (distinct : (namesOf level).Nodup) :
    Faithful level (layoutSerial [] level) where
  declared := (layoutSerial_tasks level []).imp fun o n lays => by
    cases lays with
    | step s entry => exact .step s entry
    | decision d first s f entry => exact .decision d first s f entry _ _
    | loop l b entry => exact .loop l b entry _
  distinct := (layoutSerial_names level []).symm ▸ distinct
  predecessors := fun n mem => layout_predecessors distinct mem
  placed := fun n mem => by
    rw [layoutSerial_names]
    rcases layoutSerial_placed mem with none | sub
    · rw [none]
      exact List.nil_sublist _
    · exact sub
  depends := fun x y => layout_depends distinct
  independent := fun ms a b inside sub x hx y hy => by
    have members := fun {c : Outline} (mem : c ∈ [a, b]) => names_sublist_of_mem (sub.subset mem)
    have first : x ∈ (parallel ms).names := (members List.mem_cons_self).subset hx
    have second : y ∈ (parallel ms).names :=
      (members (List.mem_cons_of_mem _ List.mem_cons_self)).subset hy
    rw [layout_depends distinct, layout_depends distinct, orders_inside inside distinct first second,
      orders_inside inside distinct second first]
    exact not_orders_parallel (distinct.sublist (inside_names inside)) sub hx hy
  transparent := ⟨prunedOf_tasks level, prunedOf_orders_serial level⟩
  irredundant := fun x y edge z hx hz => by
    rw [layout_depends distinct] at hx hz
    exact ((layout_edges distinct).mp edge).2 z hx hz

end Blueprint.Outline
