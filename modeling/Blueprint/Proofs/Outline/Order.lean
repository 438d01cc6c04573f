import Blueprint.Proofs.Outline.Layout
import Mathlib.Data.List.Nodup
import Mathlib.Logic.Relation

/-!
# The order of a level

`Orders x y` says that the scopes of an outline put `x` before `y`. By `layout_predecessors` a task
waits for exactly those tasks before it that have no task of the outline between.
-/

namespace Blueprint.Outline

/-- In the innermost scope with both of them, which is serial, `x` stands before `y`. -/
inductive Orders (x y : String) : Outline → Prop where
  | apart {ms : List Outline} {a b : Outline} (sub : [a, b].Sublist ms) (first : x ∈ a.names)
      (second : y ∈ b.names) : Orders x y (serial ms)
  | inSerial {ms : List Outline} {m : Outline} (mem : m ∈ ms) (inner : Orders x y m) :
      Orders x y (serial ms)
  | inParallel {ms : List Outline} {m : Outline} (mem : m ∈ ms) (inner : Orders x y m) :
      Orders x y (parallel ms)

/-- A pair of the order with nothing between. -/
def Immediate (r : String → String → Prop) (x y : String) : Prop :=
  r x y ∧ ∀ z, r x z → ¬r z y

theorem immediate_congr {r r' : String → String → Prop} {y : String} (last : ∀ x, r x y ↔ r' x y)
    (inner : ∀ x z, r z y → (r x z ↔ r' x z)) (x : String) : Immediate r x y ↔ Immediate r' x y := by
  constructor
  · rintro ⟨h, between⟩
    exact ⟨(last x).mp h, fun z hx hz =>
      between z ((inner x z ((last z).mpr hz)).mpr hx) ((last z).mpr hz)⟩
  · rintro ⟨h, between⟩
    exact ⟨(last x).mpr h, fun z hx hz => between z ((inner x z hz).mp hx) ((last z).mp hz)⟩

/-! ### One member at a time -/

variable {x y z : String} {m : Outline} {ms : List Outline}

theorem orders_serial_cons : (serial (m :: ms)).Orders x y ↔
    m.Orders x y ∨ (x ∈ m.names ∧ y ∈ namesOf ms) ∨ (serial ms).Orders x y := by
  constructor
  · rintro (⟨sub, first, second⟩ | ⟨mem, inner⟩)
    · cases sub with
      | cons _ sub => exact Or.inr (Or.inr (.apart sub first second))
      | cons_cons _ sub =>
        exact Or.inr (Or.inl ⟨first, mem_namesOf.mpr ⟨_, List.singleton_sublist.mp sub, second⟩⟩)
    · rcases List.mem_cons.mp mem with rfl | mem
      · exact Or.inl inner
      · exact Or.inr (Or.inr (.inSerial mem inner))
  · rintro (inner | ⟨first, second⟩ | rest)
    · exact .inSerial List.mem_cons_self inner
    · obtain ⟨b, mem, second⟩ := mem_namesOf.mp second
      exact .apart (List.singleton_sublist.mpr mem |>.cons_cons m) first second
    · cases rest with
      | apart sub first second => exact .apart (sub.cons _) first second
      | inSerial mem inner => exact .inSerial (List.mem_cons_of_mem _ mem) inner

theorem orders_parallel_cons :
    (parallel (m :: ms)).Orders x y ↔ m.Orders x y ∨ (parallel ms).Orders x y := by
  constructor
  · rintro (_ | _ | ⟨mem, inner⟩)
    rcases List.mem_cons.mp mem with rfl | mem
    · exact Or.inl inner
    · exact Or.inr (.inParallel mem inner)
  · rintro (inner | ⟨⟨⟩ | ⟨⟩ | ⟨mem, inner⟩⟩)
    · exact .inParallel List.mem_cons_self inner
    · exact .inParallel (List.mem_cons_of_mem _ mem) inner

theorem not_orders_serial_nil : ¬(serial []).Orders x y := by
  rintro (⟨sub, _, _⟩ | ⟨mem, _⟩)
  · cases sub
  · cases mem

theorem not_orders_parallel_nil : ¬(parallel []).Orders x y := by
  rintro (_ | _ | ⟨mem, _⟩)
  cases mem

theorem orders_sublist {o : Outline} (h : o.Orders x y) : [x, y].Sublist o.names := by
  have member : ∀ {m : Outline} {ms : List Outline}, m ∈ ms → m.names.Sublist (namesOf ms) := by
    intro m ms mem
    obtain ⟨before, rest, rfl⟩ := List.append_of_mem mem
    rw [namesOf_append, namesOf]
    exact (List.sublist_append_left _ _).trans (List.sublist_append_right _ _)
  induction h with
  | @apart ms a b sub first second =>
    obtain ⟨before, rest, rfl, mem, sub⟩ := List.cons_sublist_iff.mp sub
    rw [names, namesOf_append]
    exact (List.singleton_sublist.mpr (mem_namesOf.mpr ⟨a, mem, first⟩)).append
      (List.singleton_sublist.mpr (mem_namesOf.mpr ⟨b, List.singleton_sublist.mp sub, second⟩))
  | inSerial mem _ ih => exact ih.trans (member mem)
  | inParallel mem _ ih => exact ih.trans (member mem)

theorem orders_left {o : Outline} (h : o.Orders x y) : x ∈ o.names :=
  (orders_sublist h).subset List.mem_cons_self

theorem orders_right {o : Outline} (h : o.Orders x y) : y ∈ o.names :=
  (orders_sublist h).subset (List.mem_cons_of_mem _ List.mem_cons_self)

/-! ### Where a member ends -/

theorem not_mem_both (distinct : (namesOf (m :: ms)).Nodup) (first : x ∈ m.names) :
    x ∉ namesOf ms := fun rest =>
  (List.nodup_append.mp distinct).2.2 x first x rest rfl

/-- Nothing but the first member of a serial scope comes before the tasks of that member. -/
theorem orders_serial_head (distinct : (namesOf (m :: ms)).Nodup) (mem : y ∈ m.names) :
    (serial (m :: ms)).Orders x y ↔ m.Orders x y := by
  rw [orders_serial_cons]
  constructor
  · rintro (h | ⟨_, h⟩ | h)
    · exact h
    · exact (not_mem_both distinct mem h).elim
    · exact (not_mem_both distinct mem (orders_right h)).elim
  · exact Or.inl

/-- All of the first member comes before the tasks of the others. -/
theorem orders_serial_tail (distinct : (namesOf (m :: ms)).Nodup) (mem : y ∈ namesOf ms) :
    (serial (m :: ms)).Orders x y ↔ x ∈ m.names ∨ (serial ms).Orders x y := by
  rw [orders_serial_cons]
  constructor
  · rintro (h | ⟨h, _⟩ | h)
    · exact (not_mem_both distinct (orders_right h) mem).elim
    · exact Or.inl h
    · exact Or.inr h
  · rintro (h | h)
    · exact Or.inr (Or.inl ⟨h, mem⟩)
    · exact Or.inr (Or.inr h)

theorem orders_parallel_head (distinct : (namesOf (m :: ms)).Nodup) (mem : y ∈ m.names) :
    (parallel (m :: ms)).Orders x y ↔ m.Orders x y := by
  rw [orders_parallel_cons]
  exact or_iff_left fun h => not_mem_both distinct mem (orders_right h)

theorem orders_parallel_tail (distinct : (namesOf (m :: ms)).Nodup) (mem : y ∈ namesOf ms) :
    (parallel (m :: ms)).Orders x y ↔ (parallel ms).Orders x y := by
  rw [orders_parallel_cons]
  exact or_iff_right fun h => not_mem_both distinct (orders_right h) mem

theorem nodup_head (distinct : (namesOf (m :: ms)).Nodup) : m.names.Nodup :=
  (List.nodup_append.mp distinct).1

theorem nodup_tail (distinct : (namesOf (m :: ms)).Nodup) : (namesOf ms).Nodup :=
  (List.nodup_append.mp distinct).2.1

mutual

theorem orders_trans : ∀ {o : Outline} {x y z : String}, o.names.Nodup → o.Orders x y →
    o.Orders y z → o.Orders x z
  | step _, _, _, _, _, h, _ => nomatch h
  | serial _, _, _, _, distinct, h, h' => orders_trans_serial distinct h h'
  | parallel _, _, _, _, distinct, h, h' => orders_trans_parallel distinct h h'
  | decision _ _ _ _, _, _, _, _, h, _ => nomatch h
  | loop _ _, _, _, _, _, h, _ => nomatch h

theorem orders_trans_serial : ∀ {ms : List Outline} {x y z : String}, (namesOf ms).Nodup →
    (serial ms).Orders x y → (serial ms).Orders y z → (serial ms).Orders x z
  | [], _, _, _, _, h, _ => (not_orders_serial_nil h).elim
  | m :: ms, x, y, z, distinct, h, h' => by
    rcases orders_serial_cons.mp h' with inner | ⟨first, second⟩ | rest
    · rw [orders_serial_head distinct (orders_left inner)] at h
      exact orders_serial_cons.mpr (Or.inl (orders_trans (nodup_head distinct) h inner))
    · rw [orders_serial_head distinct first] at h
      exact orders_serial_cons.mpr (Or.inr (Or.inl ⟨orders_left h, second⟩))
    · rcases (orders_serial_tail distinct (orders_left rest)).mp h with first | before
      · exact orders_serial_cons.mpr (Or.inr (Or.inl ⟨first, orders_right rest⟩))
      · exact orders_serial_cons.mpr
          (Or.inr (Or.inr (orders_trans_serial (nodup_tail distinct) before rest)))

theorem orders_trans_parallel : ∀ {ms : List Outline} {x y z : String}, (namesOf ms).Nodup →
    (parallel ms).Orders x y → (parallel ms).Orders y z → (parallel ms).Orders x z
  | [], _, _, _, _, h, _ => (not_orders_parallel_nil h).elim
  | m :: ms, x, y, z, distinct, h, h' => by
    rcases orders_parallel_cons.mp h' with inner | rest
    · rw [orders_parallel_head distinct (orders_left inner)] at h
      exact orders_parallel_cons.mpr (Or.inl (orders_trans (nodup_head distinct) h inner))
    · rw [orders_parallel_tail distinct (orders_left rest)] at h
      exact orders_parallel_cons.mpr
        (Or.inr (orders_trans_parallel (nodup_tail distinct) h rest))

end

/-! ### Exits and predecessors -/

mutual

theorem mem_exits : ∀ {o : Outline} {x : String}, o.names.Nodup →
    (x ∈ o.exits ↔ x ∈ o.names ∧ ∀ y, ¬o.Orders x y)
  | step _, _, _ => (and_iff_left fun _ h => nomatch h).symm
  | serial _, _, distinct => mem_exitsSerial distinct
  | parallel _, _, distinct => mem_exitsParallel distinct
  | decision _ _ _ _, _, _ => (and_iff_left fun _ h => nomatch h).symm
  | loop _ _, _, _ => (and_iff_left fun _ h => nomatch h).symm

theorem mem_exitsSerial : ∀ {ms : List Outline} {x : String}, (namesOf ms).Nodup →
    (x ∈ exitsSerial ms ↔ x ∈ namesOf ms ∧ ∀ y, ¬(serial ms).Orders x y)
  | [], _, _ => by simp [exitsSerial, namesOf]
  | m :: ms, x, distinct => by
    have head := mem_exits (x := x) (nodup_head distinct)
    have tail := mem_exitsSerial (x := x) (nodup_tail distinct)
    rw [exitsSerial, namesOf]
    cases h : exitsSerial ms with
    | nil =>
      -- No later member has a task, so that the first member ends the scope.
      have none := (exitsSerial_eq_nil_iff ms).mp h
      rw [after, head, none, List.append_nil]
      refine and_congr_right fun _ => forall_congr' fun y => not_congr ?_
      rw [orders_serial_cons, none]
      refine ⟨Or.inl, ?_⟩
      rintro (inner | ⟨_, mem⟩ | rest)
      · exact inner
      · cases mem
      · have mem := orders_left rest
        rw [names, none] at mem
        cases mem
    | cons e es =>
      obtain ⟨y, some⟩ : ∃ y, y ∈ namesOf ms :=
        ⟨e, (exitsSerial_sublist ms).subset (h ▸ List.mem_cons_self)⟩
      rw [after, ← h, tail]
      constructor
      · rintro ⟨mem, last⟩
        refine ⟨List.mem_append_right _ mem, fun y before => ?_⟩
        rcases orders_serial_cons.mp before with inner | ⟨first, _⟩ | rest
        · exact not_mem_both distinct (orders_left inner) mem
        · exact not_mem_both distinct first mem
        · exact last y rest
      · rintro ⟨mem, last⟩
        rcases List.mem_append.mp mem with first | mem
        · exact (last y (orders_serial_cons.mpr (Or.inr (Or.inl ⟨first, some⟩)))).elim
        · exact ⟨mem, fun y rest => last y (orders_serial_cons.mpr (Or.inr (Or.inr rest)))⟩

theorem mem_exitsParallel : ∀ {ms : List Outline} {x : String}, (namesOf ms).Nodup →
    (x ∈ exitsParallel ms ↔ x ∈ namesOf ms ∧ ∀ y, ¬(parallel ms).Orders x y)
  | [], _, _ => by simp [exitsParallel, namesOf]
  | m :: ms, x, distinct => by
    rw [exitsParallel, namesOf, List.mem_append, List.mem_append,
      mem_exits (x := x) (nodup_head distinct), mem_exitsParallel (x := x) (nodup_tail distinct)]
    constructor
    · rintro (⟨mem, last⟩ | ⟨mem, last⟩)
      · refine ⟨Or.inl mem, fun y h => (orders_parallel_cons.mp h).elim (last y) fun rest => ?_⟩
        exact not_mem_both distinct mem (orders_left rest)
      · refine ⟨Or.inr mem, fun y h => (orders_parallel_cons.mp h).elim (fun inner => ?_) (last y)⟩
        exact not_mem_both distinct (orders_left inner) mem
    · rintro ⟨mem | mem, last⟩
      · exact Or.inl ⟨mem, fun y h => last y (orders_parallel_cons.mpr (Or.inl h))⟩
      · exact Or.inr ⟨mem, fun y h => last y (orders_parallel_cons.mpr (Or.inr h))⟩

end

/-- Behind some task of the rest, what is right before a task is so without the first member. -/
theorem immediate_serial_tail (distinct : (namesOf (m :: ms)).Nodup) (mem : y ∈ namesOf ms)
    {w : String} (before : (serial ms).Orders w y) :
    Immediate (Orders · · (serial ms)) x y ↔ Immediate (Orders · · (serial (m :: ms))) x y := by
  have later := fun {a b} (h : (serial ms).Orders a b) =>
    orders_serial_cons (m := m).mpr (Or.inr (Or.inr h))
  constructor
  · rintro ⟨h, between⟩
    refine ⟨later h, fun z hx hz => ?_⟩
    rcases (orders_serial_tail distinct mem).mp hz with first | hz
    · have hx := (orders_serial_head distinct first).mp hx
      exact not_mem_both distinct (orders_left hx) (orders_left h)
    · rcases (orders_serial_tail distinct (orders_left hz)).mp hx with first | hx
      · exact not_mem_both distinct first (orders_left h)
      · exact between z hx hz
  · rintro ⟨h, between⟩
    rcases (orders_serial_tail distinct mem).mp h with first | h
    · -- `w` stands between the first member and this task.
      have toW := orders_serial_cons.mpr (Or.inr (Or.inl ⟨first, orders_left before⟩))
      exact (between w toW (later before)).elim
    · exact ⟨h, fun z hx hz => between z (later hx) (later hz)⟩

/-- Right before a task that begins the rest are the exits of the first member. -/
theorem mem_exits_immediate (distinct : (namesOf (m :: ms)).Nodup) (mem : y ∈ namesOf ms)
    (first : ∀ x, ¬(serial ms).Orders x y) :
    x ∈ m.exits ↔ Immediate (Orders · · (serial (m :: ms))) x y := by
  rw [mem_exits (nodup_head distinct)]
  constructor
  · rintro ⟨hx, last⟩
    refine ⟨orders_serial_cons.mpr (Or.inr (Or.inl ⟨hx, mem⟩)), fun z hxz hz => ?_⟩
    rcases (orders_serial_tail distinct mem).mp hz with head | hz
    · exact last z ((orders_serial_head distinct head).mp hxz)
    · exact first z hz
  · rintro ⟨hx, between⟩
    rcases (orders_serial_tail distinct mem).mp hx with head | hx
    · refine ⟨head, fun z hz => between z (orders_serial_cons.mpr (Or.inl hz)) ?_⟩
      exact orders_serial_cons.mpr (Or.inr (Or.inl ⟨orders_right hz, mem⟩))
    · exact (first x hx).elim

/-- A task waits for the tasks right before it, and for `entry` if none of the outline is before. -/
def Waits (o : Outline) (entry : List String) (n : TaskNode) : Prop :=
  ((∃ x, o.Orders x n.name) ∧ ∀ x, x ∈ n.predecessors ↔ Immediate (Orders · · o) x n.name) ∨
    (n.predecessors = entry ∧ ∀ x, ¬o.Orders x n.name)

theorem waits_congr {o o' : Outline} {entry : List String} {n : TaskNode}
    (last : ∀ x, o.Orders x n.name ↔ o'.Orders x n.name)
    (inner : ∀ x z, o'.Orders z n.name → (o.Orders x z ↔ o'.Orders x z)) (h : o'.Waits entry n) :
    o.Waits entry n := by
  rcases h with ⟨⟨x, before⟩, right⟩ | ⟨same, first⟩
  · refine Or.inl ⟨⟨x, (last x).mpr before⟩, fun x => (right x).trans ?_⟩
    exact (immediate_congr last (fun x z h => inner x z ((last z).mp h)) x).symm
  · exact Or.inr ⟨same, fun x h => first x ((last x).mp h)⟩

theorem name_mem_layout {o : Outline} {entry : List String} {n : TaskNode}
    (h : n ∈ o.layout entry) : n.name ∈ o.names :=
  layout_names o entry ▸ List.mem_map_of_mem h

mutual

theorem layout_waits : ∀ {o : Outline} {entry : List String} {n : TaskNode}, o.names.Nodup →
    n ∈ o.layout entry → o.Waits entry n
  | step _, _, _, _, h => Or.inr ⟨by rw [List.mem_singleton.mp h]; rfl, fun _ h => nomatch h⟩
  | serial _, _, _, distinct, h => layoutSerial_waits distinct h
  | parallel _, _, _, distinct, h => layoutParallel_waits distinct h
  | decision _ _ _ _, _, _, _, h =>
    Or.inr ⟨by rw [List.mem_singleton.mp h]; rfl, fun _ h => nomatch h⟩
  | loop _ _, _, _, _, h => Or.inr ⟨by rw [List.mem_singleton.mp h]; rfl, fun _ h => nomatch h⟩

theorem layoutSerial_waits : ∀ {ms : List Outline} {entry : List String} {n : TaskNode},
    (namesOf ms).Nodup → n ∈ layoutSerial entry ms → (serial ms).Waits entry n
  | m :: ms, entry, n, distinct, h => by
    rcases List.mem_append.mp h with h | h
    · refine waits_congr (fun x => orders_serial_head distinct (name_mem_layout h)) ?_
        (layout_waits (nodup_head distinct) h)
      exact fun x z before => orders_serial_head distinct (orders_left before)
    · have mem : n.name ∈ namesOf ms := name_mem_layout (o := serial ms) h
      rcases layoutSerial_waits (nodup_tail distinct) h with ⟨⟨w, before⟩, right⟩ | ⟨same, first⟩
      · refine Or.inl ⟨⟨w, orders_serial_cons.mpr (Or.inr (Or.inr before))⟩, fun x => ?_⟩
        exact (right x).trans (immediate_serial_tail distinct mem before)
      · cases none : m.exits with
        | nil =>
          have noName := (exits_eq_nil_iff m).mp none
          rw [none, after] at same
          refine Or.inr ⟨same, fun x hx => ?_⟩
          rcases (orders_serial_tail distinct mem).mp hx with mem | hx
          · rw [noName] at mem
            cases mem
          · exact first x hx
        | cons e es =>
          rw [none, after, ← none] at same
          refine Or.inl ⟨⟨e, ?_⟩, fun x => same ▸ mem_exits_immediate distinct mem first⟩
          have exit := (mem_exits (nodup_head distinct)).mp (none ▸ List.mem_cons_self)
          exact orders_serial_cons.mpr (Or.inr (Or.inl ⟨exit.1, mem⟩))

theorem layoutParallel_waits : ∀ {ms : List Outline} {entry : List String} {n : TaskNode},
    (namesOf ms).Nodup → n ∈ layoutParallel entry ms → (parallel ms).Waits entry n
  | m :: ms, entry, n, distinct, h => by
    rcases List.mem_append.mp h with h | h
    · refine waits_congr (fun x => orders_parallel_head distinct (name_mem_layout h)) ?_
        (layout_waits (nodup_head distinct) h)
      exact fun x z before => orders_parallel_head distinct (orders_left before)
    · have mem : n.name ∈ namesOf ms := name_mem_layout (o := parallel ms) h
      refine waits_congr (fun x => orders_parallel_tail distinct mem) ?_
        (layoutParallel_waits (nodup_tail distinct) h)
      exact fun x z before => orders_parallel_tail distinct (orders_left before)

end

end Blueprint.Outline
