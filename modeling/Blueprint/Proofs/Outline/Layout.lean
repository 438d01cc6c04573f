import Blueprint.Proofs.Outline.Basic
import Mathlib.Data.List.Forall2

/-!
# Laying out outlines

`layout` is the level of task nodes that an outline stands for, when what comes before it is over
with `entry`. `exits` is what has to be over for the outline to be over.
-/

namespace Blueprint.Outline

/-- What the next member waits for: these exits, or where there are none what came before them. -/
def after (entry : List String) : List String → List String
  | [] => entry
  | x :: xs => x :: xs

theorem after_nil_left (exits : List String) : after [] exits = exits := by cases exits <;> rfl

theorem after_assoc (entry xs ys : List String) :
    after (after entry xs) ys = after entry (after xs ys) := by
  cases ys <;> rfl

theorem after_eq_nil {entry exits : List String} :
    after entry exits = [] ↔ entry = [] ∧ exits = [] := by
  cases exits <;> simp [after]

mutual

def exits : Outline → List String
  | step s => [s.name]
  | serial ms => exitsSerial ms
  | parallel ms => exitsParallel ms
  | decision d _ _ _ => [d.name]
  | loop l _ => [l.name]

def exitsSerial : List Outline → List String
  | [] => []
  | m :: ms => after (exits m) (exitsSerial ms)

def exitsParallel : List Outline → List String
  | [] => []
  | m :: ms => exits m ++ exitsParallel ms

end

mutual

def layout (entry : List String) : Outline → List TaskNode
  | step s => [s.node entry]
  | serial ms => layoutSerial entry ms
  | parallel ms => layoutParallel entry ms
  | decision d _ s f => [d.node entry (layoutSerial [] s) (layoutSerial [] f)]
  | loop l b => [l.node entry (layoutSerial [] b)]

/-- Each member waits for the one before it. -/
def layoutSerial (entry : List String) : List Outline → List TaskNode
  | [] => []
  | m :: ms => layout entry m ++ layoutSerial (after entry m.exits) ms

/-- All members wait for what comes before the scope. -/
def layoutParallel (entry : List String) : List Outline → List TaskNode
  | [] => []
  | m :: ms => layout entry m ++ layoutParallel entry ms

end

theorem exitsSerial_append (ms ns : List Outline) :
    exitsSerial (ms ++ ns) = after (exitsSerial ms) (exitsSerial ns) := by
  induction ms with
  | nil => rw [List.nil_append, exitsSerial, after_nil_left]
  | cons m ms ih => rw [List.cons_append, exitsSerial, exitsSerial, ih, after_assoc]

theorem exitsParallel_append (ms ns : List Outline) :
    exitsParallel (ms ++ ns) = exitsParallel ms ++ exitsParallel ns := by
  induction ms with
  | nil => rfl
  | cons m ms ih => rw [List.cons_append, exitsParallel, exitsParallel, ih, List.append_assoc]

theorem layoutSerial_append (entry : List String) (ms ns : List Outline) :
    layoutSerial entry (ms ++ ns) =
      layoutSerial entry ms ++ layoutSerial (after entry (exitsSerial ms)) ns := by
  induction ms generalizing entry with
  | nil => rfl
  | cons m ms ih =>
    rw [List.cons_append, layoutSerial, layoutSerial, ih, exitsSerial, after_assoc, List.append_assoc]

theorem layoutParallel_append (entry : List String) (ms ns : List Outline) :
    layoutParallel entry (ms ++ ns) = layoutParallel entry ms ++ layoutParallel entry ns := by
  induction ms with
  | nil => rfl
  | cons m ms ih => rw [List.cons_append, layoutParallel, layoutParallel, ih, List.append_assoc]

/-! ### Exits are tasks of the level -/

mutual

theorem exits_sublist : ∀ o : Outline, o.exits.Sublist o.names
  | step _ => List.Sublist.refl _
  | serial ms => exitsSerial_sublist ms
  | parallel ms => exitsParallel_sublist ms
  | decision _ _ _ _ => List.Sublist.refl _
  | loop _ _ => List.Sublist.refl _

theorem exitsSerial_sublist : ∀ ms : List Outline, (exitsSerial ms).Sublist (namesOf ms)
  | [] => List.Sublist.refl _
  | m :: ms => by
    have first := exits_sublist m
    have rest := exitsSerial_sublist ms
    rw [exitsSerial, namesOf]
    cases h : exitsSerial ms with
    | nil => exact first.trans (List.sublist_append_left _ _)
    | cons x xs => exact (h ▸ rest).trans (List.sublist_append_right _ _)

theorem exitsParallel_sublist : ∀ ms : List Outline, (exitsParallel ms).Sublist (namesOf ms)
  | [] => List.Sublist.refl _
  | m :: ms => (exits_sublist m).append (exitsParallel_sublist ms)

end

mutual

theorem exits_eq_nil_iff : ∀ o : Outline, o.exits = [] ↔ o.names = []
  | step _ => by simp [exits, names]
  | serial ms => exitsSerial_eq_nil_iff ms
  | parallel ms => exitsParallel_eq_nil_iff ms
  | decision _ _ _ _ => by simp [exits, names]
  | loop _ _ => by simp [exits, names]

theorem exitsSerial_eq_nil_iff : ∀ ms : List Outline, exitsSerial ms = [] ↔ namesOf ms = []
  | [] => Iff.rfl
  | m :: ms => by
    rw [exitsSerial, namesOf, after_eq_nil, exits_eq_nil_iff m, exitsSerial_eq_nil_iff ms,
      List.append_eq_nil_iff]

theorem exitsParallel_eq_nil_iff : ∀ ms : List Outline, exitsParallel ms = [] ↔ namesOf ms = []
  | [] => Iff.rfl
  | m :: ms => by
    rw [exitsParallel, namesOf, List.append_eq_nil_iff, exits_eq_nil_iff m,
      exitsParallel_eq_nil_iff ms, List.append_eq_nil_iff]

end

/-! ### The nodes of a layout -/

mutual

theorem layout_names : ∀ (o : Outline) (entry : List String),
    (o.layout entry).map TaskNode.name = o.names
  | step _, _ => rfl
  | serial ms, entry => layoutSerial_names ms entry
  | parallel ms, entry => layoutParallel_names ms entry
  | decision _ _ _ _, _ => rfl
  | loop _ _, _ => rfl

theorem layoutSerial_names : ∀ (ms : List Outline) (entry : List String),
    (layoutSerial entry ms).map TaskNode.name = namesOf ms
  | [], _ => rfl
  | m :: ms, entry => by
    rw [layoutSerial, List.map_append, layout_names m, layoutSerial_names ms, namesOf]

theorem layoutParallel_names : ∀ (ms : List Outline) (entry : List String),
    (layoutParallel entry ms).map TaskNode.name = namesOf ms
  | [], _ => rfl
  | m :: ms, entry => by
    rw [layoutParallel, List.map_append, layout_names m, layoutParallel_names ms, namesOf]

end

theorem allOf_append (ns ms : List TaskNode) :
    TaskNode.allOf (ns ++ ms) = TaskNode.allOf ns ++ TaskNode.allOf ms := by
  induction ns with
  | nil => rfl
  | cons n ns ih => rw [List.cons_append, TaskNode.allOf, TaskNode.allOf, ih, List.append_assoc]

mutual

theorem layout_allNames : ∀ (o : Outline) (entry : List String),
    (TaskNode.allOf (o.layout entry)).map TaskNode.name = o.allNames
  | step _, _ => rfl
  | serial ms, entry => layoutSerial_allNames ms entry
  | parallel ms, entry => layoutParallel_allNames ms entry
  | decision d first s f, entry => by
    have success := layoutSerial_allNames s []
    have failure := layoutSerial_allNames f []
    simp only [layout, DecisionHeader.node, TaskNode.allOf, TaskNode.all, List.append_nil,
      List.map_cons, List.map_append, success, failure, allNames]
    rfl
  | loop l b, entry => by
    have body := layoutSerial_allNames b []
    simp only [layout, LoopHeader.node, TaskNode.allOf, TaskNode.all, List.append_nil,
      List.map_cons, body, allNames]
    rfl

theorem layoutSerial_allNames : ∀ (ms : List Outline) (entry : List String),
    (TaskNode.allOf (layoutSerial entry ms)).map TaskNode.name = allNamesOf ms
  | [], _ => rfl
  | m :: ms, entry => by
    rw [layoutSerial, allOf_append, List.map_append, layout_allNames m, layoutSerial_allNames ms,
      allNamesOf]

theorem layoutParallel_allNames : ∀ (ms : List Outline) (entry : List String),
    (TaskNode.allOf (layoutParallel entry ms)).map TaskNode.name = allNamesOf ms
  | [], _ => rfl
  | m :: ms, entry => by
    rw [layoutParallel, allOf_append, List.map_append, layout_allNames m, layoutParallel_allNames ms,
      allNamesOf]

end

/-- A task of a level and its node, with the levels nested in it. -/
inductive Lays : Outline → TaskNode → Prop where
  | step (s : Step) (entry : List String) : Lays (.step s) (s.node entry)
  | decision (d : DecisionHeader) (first : Branch) (s f : List Outline) (entry : List String) :
      Lays (.decision d first s f) (d.node entry (layoutSerial [] s) (layoutSerial [] f))
  | loop (l : LoopHeader) (b : List Outline) (entry : List String) :
      Lays (.loop l b) (l.node entry (layoutSerial [] b))

mutual

theorem layout_tasks : ∀ (o : Outline) (entry : List String),
    List.Forall₂ Lays o.tasks (o.layout entry)
  | step s, entry => .cons (.step s entry) .nil
  | serial ms, entry => layoutSerial_tasks ms entry
  | parallel ms, entry => layoutParallel_tasks ms entry
  | decision d first s f, entry => .cons (.decision d first s f entry) .nil
  | loop l b, entry => .cons (.loop l b entry) .nil

theorem layoutSerial_tasks : ∀ (ms : List Outline) (entry : List String),
    List.Forall₂ Lays (tasksOf ms) (layoutSerial entry ms)
  | [], _ => .nil
  | m :: ms, entry => List.rel_append (layout_tasks m entry) (layoutSerial_tasks ms _)

theorem layoutParallel_tasks : ∀ (ms : List Outline) (entry : List String),
    List.Forall₂ Lays (tasksOf ms) (layoutParallel entry ms)
  | [], _ => .nil
  | m :: ms, entry => List.rel_append (layout_tasks m entry) (layoutParallel_tasks ms entry)

end

mutual

theorem allNames_sublist_of_mem_tasks : ∀ {o t : Outline}, t ∈ o.tasks →
    t.allNames.Sublist o.allNames
  | step _, _, h => by rw [List.mem_singleton.mp h]
  | serial ms, _, h => allNames_sublist_of_mem_tasksOf h
  | parallel ms, _, h => allNames_sublist_of_mem_tasksOf h
  | decision _ _ _ _, _, h => by rw [List.mem_singleton.mp h]
  | loop _ _, _, h => by rw [List.mem_singleton.mp h]

theorem allNames_sublist_of_mem_tasksOf : ∀ {ms : List Outline} {t : Outline}, t ∈ tasksOf ms →
    t.allNames.Sublist (allNamesOf ms)
  | m :: ms, _, h => by
    rcases List.mem_append.mp h with h | h
    · exact (allNames_sublist_of_mem_tasks h).trans (List.sublist_append_left _ _)
    · exact (allNames_sublist_of_mem_tasksOf h).trans (List.sublist_append_right _ _)

end

end Blueprint.Outline
