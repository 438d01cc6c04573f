import Blueprint.Module.Load
import Blueprint.Proofs.Except
import Mathlib.Data.List.Pairwise
import Mathlib.Data.Prod.Lex
import Mathlib.Logic.Relation

/-!
# Reading the modules

Reading modules is a worklist: the first module of a queue is left out if it has been read, and is
read otherwise, which puts what it imports at the end of the queue. Of finitely many files every run
ends (`step_wellFounded`), and `collectAll` is such a run (`collectAll_iff`). What has been read when
the queue is empty are the modules that imports lead to, each at its least distance
(`Traversal`).
-/

namespace Blueprint

open Relation (ReflTransGen)

theorem Path.same_iff {p q : Path} : p.same q = true ↔ p.components = q.components := beq_iff_eq

theorem Path.same_refl (p : Path) : p.same p = true := Path.same_iff.mpr rfl

theorem Path.same_symm {p q : Path} (h : p.same q = true) : q.same p = true :=
  Path.same_iff.mpr (Path.same_iff.mp h).symm

theorem Path.same_trans {p q r : Path} (h : p.same q = true) (h' : q.same r = true) :
    p.same r = true :=
  Path.same_iff.mpr ((Path.same_iff.mp h).trans (Path.same_iff.mp h'))

variable {files : Files} {fs : List (Path × String)} {file : Path} {v w : Visit}

/-! ### Visits -/

namespace Visit

/-- What a module declares when it is read. -/
def declares (v : Visit) (files : Files) : List Declaration :=
  match v.collect files with
  | .ok (declared, _) => declared
  | .error _ => []

/-- The modules that a module imports when it is read. The names of imports may hold parameters,
which are those of this visit. -/
def hands (v : Visit) (files : Files) : List Visit :=
  match v.collect files with
  | .ok (_, imports) => imports
  | .error _ => []

/-- A module can be read. -/
def Collects (v : Visit) (files : Files) : Prop :=
  v.collect files = .ok (v.declares files, v.hands files)

theorem collects_of_ok {declared : List Declaration} {imports : List Visit}
    (h : v.collect files = .ok (declared, imports)) :
    v.declares files = declared ∧ v.hands files = imports ∧ v.Collects files := by
  have here : v.declares files = declared := by rw [declares, h]
  have next : v.hands files = imports := by rw [hands, h]
  exact ⟨here, next, by rw [Collects, here, next, h]⟩

theorem level_of_hands (h : w ∈ v.hands files) : w.level = v.level + 1 := by
  unfold hands at h
  split at h
  · rename_i collected
    obtain ⟨_, -, collected⟩ := bind_ok collected
    obtain ⟨⟨m, params⟩, -, collected⟩ := bind_ok collected
    obtain ⟨_, -, collected⟩ := bind_ok collected
    obtain ⟨-, rfl⟩ := Prod.mk.inj (pure_ok collected)
    obtain ⟨_, -, rfl⟩ := List.mem_map.mp h
    rfl
  · cases h

/-- Only a file that is there can be read. -/
theorem file_of_collect {result : List Declaration × List Visit}
    (h : v.collect (.ofList fs) = .ok result) : ∃ f ∈ fs, f.1.same v.file = true := by
  obtain ⟨text, read, -⟩ := bind_ok h
  have read := mapError_ok read
  unfold Files.ofList at read
  dsimp only at read
  split at read
  · rename_i found
    exact ⟨_, List.mem_reverse.mp (List.mem_of_find?_eq_some found), by simpa using List.find?_some found⟩
  · cases read

theorem collect_missing (h : ∀ f ∈ fs, f.1.same v.file = false) :
    v.collect (.ofList fs) = .error (.unreadable v.file.text .noSuchFile) := by
  have missing : fs.reverse.find? (fun f => f.1.same v.file) = none :=
    List.find?_eq_none.mpr fun f mem => by simp [h f (List.mem_reverse.mp mem)]
  unfold collect Files.readAt Files.ofList
  simp only [missing]
  rfl

end Visit

/-! ### The worklist -/

/-- A state of reading: the modules that are read, what they declare, and the modules to come. -/
structure Loading where
  read : List Visit
  found : List Declaration
  queue : List Visit

namespace Loading

def start (file : Path) : Loading := ⟨[], [], [⟨file, 0, ∅⟩]⟩

/-- A module of that path has been read. -/
def Seen (s : Loading) (p : Path) : Prop := ∃ w ∈ s.read, p.same w.file = true

instance (s : Loading) (p : Path) : Decidable (s.Seen p) :=
  inferInstanceAs (Decidable (∃ w ∈ s.read, p.same w.file = true))

def skip (s : Loading) (queue : List Visit) : Loading := { s with queue }

def visit (s : Loading) (files : Files) (v : Visit) (queue : List Visit) : Loading :=
  ⟨s.read ++ [v], s.found ++ v.declares files, queue ++ v.hands files⟩

inductive Step (files : Files) (s : Loading) : Loading → Prop where
  | skip {v : Visit} {queue : List Visit} (next : s.queue = v :: queue) (seen : s.Seen v.file) :
      Step files s (s.skip queue)
  | visit {v : Visit} {queue : List Visit} (next : s.queue = v :: queue) (fresh : ¬s.Seen v.file)
      (collects : v.Collects files) : Step files s (s.visit files v queue)

/-- Reading is over: all modules are read, or one cannot be. -/
inductive Ends (files : Files) (s : Loading) : Except CompileError (List Declaration) → Prop where
  | read (empty : s.queue = []) : Ends files s (.ok s.found)
  | refused {v : Visit} {queue : List Visit} {e : CompileError} (next : s.queue = v :: queue)
      (fresh : ¬s.Seen v.file) (error : v.collect files = .error e) : Ends files s (.error e)

/-! ### Every run ends -/

/-- The files that have not been read. -/
def unread (s : Loading) (fs : List (Path × String)) : List (Path × String) :=
  fs.filter fun f => ¬s.Seen f.1

variable {s t : Loading} {queue : List Visit} {r : Except CompileError (List Declaration)}

theorem seen_visit {p : Path} :
    (s.visit files v queue).Seen p ↔ s.Seen p ∨ p.same v.file = true := by
  simp [Seen, visit, or_and_right, exists_or]

theorem unread_visit :
    (s.visit files v queue).unread fs = (s.unread fs).filter fun f => ¬f.1.same v.file := by
  simp only [unread, List.filter_filter, seen_visit, not_or, Bool.decide_and, Bool.and_comm]

/-- Whatever is read is one of the files that have not been read. -/
theorem unread_lt (fresh : ¬s.Seen v.file) (collects : v.Collects (.ofList fs)) :
    ((s.visit (.ofList fs) v queue).unread fs).length < (s.unread fs).length := by
  obtain ⟨f, mem, same⟩ := Visit.file_of_collect collects
  have unseen : ¬s.Seen f.1 := fun ⟨w, read, same'⟩ =>
    fresh ⟨w, read, Path.same_trans (Path.same_symm same) same'⟩
  rw [unread_visit, List.length_filter_lt_length_iff_exists]
  exact ⟨f, List.mem_filter.mpr ⟨mem, decide_eq_true unseen⟩, by simp [same]⟩

/-- A step reads one of the files or shortens the queue. -/
theorem step_decreases (step : Step (.ofList fs) s t) :
    Prod.Lex (· < ·) (· < ·) ((t.unread fs).length, t.queue.length)
      ((s.unread fs).length, s.queue.length) := by
  cases step with
  | skip next seen =>
    rw [next]
    exact .right _ (Nat.lt_succ_self _)
  | visit next fresh collects => exact .left _ _ (unread_lt fresh collects)

/-- Whatever modules import, reading them ends. -/
theorem step_wellFounded (fs : List (Path × String)) :
    WellFounded fun t s => Step (.ofList fs) s t :=
  Subrelation.wf step_decreases
    (InvImage.wf (fun s : Loading => ((s.unread fs).length, s.queue.length))
      (Nat.lt_wfRel.wf.prod_lex Nat.lt_wfRel.wf))

/-! ### There is one run -/

theorem Step.unique {t' : Loading} (step : Step files s t) (step' : Step files s t') : t = t' := by
  cases step with
  | skip next seen =>
    cases step' with
    | skip next' => rw [(List.cons.inj (next.symm.trans next')).2]
    | visit next' fresh =>
      rw [← (List.cons.inj (next.symm.trans next')).1] at fresh
      exact absurd seen fresh
  | visit next fresh =>
    cases step' with
    | skip next' seen =>
      rw [(List.cons.inj (next.symm.trans next')).1] at fresh
      exact absurd seen fresh
    | visit next' =>
      obtain ⟨rfl, rfl⟩ := List.cons.inj (next.symm.trans next')
      rfl

theorem Ends.stuck (ends : s.Ends files r) : ¬Step files s t := by
  intro step
  cases ends with
  | read empty => cases step <;> simp_all
  | refused next fresh error =>
    cases step with
    | skip next' seen =>
      rw [(List.cons.inj (next.symm.trans next')).1] at fresh
      exact fresh seen
    | visit next' _ collects =>
      rw [← (List.cons.inj (next.symm.trans next')).1] at collects
      cases error.symm.trans collects

theorem Ends.unique {r' : Except CompileError (List Declaration)} (ends : s.Ends files r)
    (ends' : s.Ends files r') : r = r' := by
  cases ends with
  | read empty =>
    cases ends' with
    | read => rfl
    | refused next => cases empty.symm.trans next
  | refused next fresh error =>
    cases ends' with
    | read empty => cases empty.symm.trans next
    | refused next' _ error' =>
      rw [(List.cons.inj (next.symm.trans next')).1] at error
      exact congrArg Except.error (Except.error.inj (error.symm.trans error'))

/-- A run from a state ends with this. -/
def Runs (files : Files) (s : Loading) (r : Except CompileError (List Declaration)) : Prop :=
  ∃ t, ReflTransGen (Step files) s t ∧ t.Ends files r

theorem runs_step_iff (step : Step files s t) : s.Runs files r ↔ t.Runs files r := by
  constructor
  · rintro ⟨last, steps, ends⟩
    rcases steps.cases_head with rfl | ⟨next, first, steps⟩
    · exact absurd step ends.stuck
    · exact ⟨last, step.unique first ▸ steps, ends⟩
  · rintro ⟨last, steps, ends⟩
    exact ⟨last, .head step steps, ends⟩

theorem runs_ends_iff {r' : Except CompileError (List Declaration)} (ends : s.Ends files r) :
    s.Runs files r' ↔ r = r' := by
  constructor
  · rintro ⟨last, steps, ends'⟩
    rcases steps.cases_head with rfl | ⟨next, first, -⟩
    · exact ends.unique ends'
    · exact absurd first ends.stuck
  · rintro rfl
    exact ⟨s, .refl, ends⟩

/-- The bound of `collectAll` decides nothing: it gives what the run from its state ends with. -/
theorem collectAll_iff {left : Nat} {done : List Path}
    (agree : ∀ p, done.any p.same = true ↔ s.Seen p) (enough : (s.unread fs).length ≤ left) :
    collectAll (.ofList fs) left done s.found s.queue = r ↔ s.Runs (.ofList fs) r := by
  induction s using (step_wellFounded fs).induction generalizing left done with
  | _ s ih =>
  cases next : s.queue with
  | nil =>
    rw [collectAll, runs_ends_iff (.read next)]
  | cons v queue =>
    by_cases seen : s.Seen v.file
    · have step : Step (.ofList fs) s (s.skip queue) := .skip next seen
      rw [collectAll.eq_def]
      dsimp only
      rw [if_pos ((agree v.file).mpr seen), runs_step_iff step]
      exact ih _ step agree enough
    · have fresh : ¬done.any v.file.same = true := fun read => seen ((agree v.file).mp read)
      cases left with
      | zero =>
        -- All files have been read, so that this one is not there.
        have missing : ∀ f ∈ fs, f.1.same v.file = false := by
          intro f mem
          by_contra same
          have same : f.1.same v.file = true := by simpa using same
          have none : s.unread fs = [] := List.eq_nil_of_length_eq_zero (Nat.le_zero.mp enough)
          obtain ⟨w, read, same'⟩ : s.Seen f.1 := by
            simpa using List.filter_eq_nil_iff.mp none f mem
          exact seen ⟨w, read, Path.same_trans (Path.same_symm same) same'⟩
        rw [collectAll.eq_def]
        dsimp only
        rw [if_neg fresh, runs_ends_iff (.refused next seen (Visit.collect_missing missing))]
      | succ left =>
        rw [collectAll.eq_def]
        dsimp only
        rw [if_neg fresh]
        cases collected : v.collect (.ofList fs) with
        | error e => exact (runs_ends_iff (.refused next seen collected)).symm
        | ok result =>
          obtain ⟨declared, imports⟩ := result
          obtain ⟨rfl, rfl, collects⟩ := Visit.collects_of_ok collected
          have step : Step (.ofList fs) s (s.visit (.ofList fs) v queue) :=
            .visit next seen collects
          rw [ok_bind, runs_step_iff step]
          refine ih _ step (fun p => ?_) ?_
          · rw [List.any_cons, Bool.or_eq_true, agree p, seen_visit, or_comm]
          · exact Nat.le_of_lt_succ (Nat.lt_of_lt_of_le (unread_lt seen collects) enough)

/-- A run of at most so many steps, for evaluation. -/
def run? (files : Files) : Nat → Loading → Option (Except CompileError (List Declaration))
  | 0, _ => none
  | n + 1, s =>
    match s.queue with
    | [] => some (.ok s.found)
    | v :: queue =>
      if s.Seen v.file then run? files n (s.skip queue)
      else
        match v.collect files with
        | .ok _ => run? files n (s.visit files v queue)
        | .error e => some (.error e)

theorem runs_of_run? {n : Nat} (h : run? files n s = some r) : s.Runs files r := by
  induction n generalizing s with
  | zero => cases h
  | succ n ih =>
    rw [run?] at h
    split at h
    · rename_i empty
      exact (runs_ends_iff (.read empty)).mpr (Option.some.inj h)
    · rename_i v queue next
      split at h
      · rename_i seen
        exact (runs_step_iff (.skip next seen)).mpr (ih h)
      · rename_i fresh
        split at h
        · rename_i result collected
          exact (runs_step_iff (.visit next fresh (Visit.collects_of_ok collected).2.2)).mpr (ih h)
        · rename_i e error
          exact (runs_ends_iff (.refused next fresh error)).mpr (Option.some.inj h)

end Loading

/-! ### Distances -/

/-- The module at a path imports another file when it is read. -/
def Imports (files : Files) (visits : List Visit) (p q : Path) : Prop :=
  ∃ v ∈ visits, p.same v.file = true ∧ ∃ w ∈ v.hands files, w.file = q

/-- So many imports lead from the root module to a file. -/
inductive Hops (files : Files) (visits : List Visit) (file : Path) : Nat → Path → Prop where
  | root : Hops files visits file 0 file
  | next {n : Nat} {p q : Path} (before : Hops files visits file n p)
      (imports : Imports files visits p q) : Hops files visits file (n + 1) q

/-- The modules that imports lead to, each of them once and at its least distance from the root. -/
structure Traversal (files : Files) (file : Path) (visits : List Visit) : Prop where
  first : visits.head? = some ⟨file, 0, ∅⟩
  once : visits.Pairwise fun v w => ¬v.file.same w.file = true
  collects : ∀ v ∈ visits, v.Collects files
  reached : ∀ v ∈ visits, Hops files visits file v.level v.file
  least : ∀ n p, Hops files visits file n p → ∃ v ∈ visits, p.same v.file = true ∧ v.level ≤ n

theorem eq_of_once {visits : List Visit} (once : visits.Pairwise fun v w => ¬v.file.same w.file = true)
    (mem : v ∈ visits) (mem' : w ∈ visits) (same : v.file.same w.file = true) : v = w := by
  by_contra other
  have : Std.Symm fun v w : Visit => ¬v.file.same w.file = true :=
    ⟨fun _ _ apart same => apart (Path.same_symm same)⟩
  exact once.forall mem mem' other same

namespace Loading

/-- All modules that have been met: what is read, and what is still to come. -/
def met (s : Loading) : List Visit := s.read ++ s.queue

/-- What holds while modules are read. -/
structure Invariant (files : Files) (file : Path) (s : Loading) : Prop where
  first : s.met.head? = some ⟨file, 0, ∅⟩
  once : s.read.Pairwise fun v w => ¬v.file.same w.file = true
  collects : ∀ v ∈ s.read, v.Collects files
  found : s.found = s.read.flatMap (Visit.declares · files)
  handed : ∀ v ∈ s.met, v = ⟨file, 0, ∅⟩ ∨ ∃ u ∈ s.read, v ∈ u.hands files
  sorted : s.met.Pairwise fun v w => v.level ≤ w.level
  /-- No level is passed over, so that imports go to the end of the queue in order. -/
  near : ∀ v ∈ s.queue, ∀ w ∈ s.met, w.level ≤ v.level + 1
  /-- What is imported is still to come, or has been read on a way that is no longer. -/
  closed : ∀ u ∈ s.read, ∀ w ∈ u.hands files,
    w ∈ s.queue ∨ ∃ v ∈ s.read, w.file.same v.file = true ∧ v.level ≤ w.level

variable {s t : Loading} {queue : List Visit}

theorem met_visit (next : s.queue = v :: queue) :
    (s.visit files v queue).met = s.met ++ v.hands files := by
  simp [met, visit, next]

theorem Invariant.start : (start file).Invariant files file where
  first := rfl
  once := .nil
  collects := List.forall_mem_nil _
  found := rfl
  handed v mem := .inl (List.mem_singleton.mp mem)
  sorted := List.pairwise_singleton _ _
  near v mem w mem' := by
    rw [List.mem_singleton.mp mem, List.mem_singleton.mp mem']
    exact Nat.le_succ _
  closed := List.forall_mem_nil _

theorem Invariant.skip (h : s.Invariant files file) (next : s.queue = v :: queue)
    (seen : s.Seen v.file) : (s.skip queue).Invariant files file := by
  obtain ⟨w, read, same⟩ := seen
  have fewer : (s.skip queue).met.Sublist s.met := by
    rw [met, met, next]
    exact (List.sublist_cons_self v queue).append_left s.read
  exact
    { first := by
        -- What is left out has been read, so it is not the first module.
        obtain ⟨x, xs, here⟩ := List.exists_cons_of_ne_nil (List.ne_nil_of_mem read)
        have first := h.first
        rw [met, here] at first
        rw [met, Loading.skip, here]
        exact first
      once := h.once
      collects := h.collects
      found := h.found
      handed := fun x mem => h.handed x (fewer.subset mem)
      sorted := h.sorted.sublist fewer
      near := fun x mem y mem' =>
        h.near x (next ▸ List.mem_cons_of_mem v mem) y (fewer.subset mem')
      closed := fun u mem x imported => by
        rcases h.closed u mem x imported with waiting | done
        · rw [next] at waiting
          rcases List.mem_cons.mp waiting with rfl | waiting
          · have sorted := h.sorted
            rw [met, next] at sorted
            have before := (List.pairwise_append.mp sorted).2.2 w read x List.mem_cons_self
            exact .inr ⟨w, read, same, before⟩
          · exact .inl waiting
        · exact .inr done }

theorem Invariant.visit (h : s.Invariant files file) (next : s.queue = v :: queue)
    (fresh : ¬s.Seen v.file) (collected : v.Collects files) :
    (s.visit files v queue).Invariant files file := by
  have here : v ∈ s.queue := next ▸ List.mem_cons_self
  have waits : ∀ x ∈ queue, x ∈ s.queue ∧ v.level ≤ x.level := by
    intro x mem
    have sorted := h.sorted
    rw [met, next] at sorted
    have later := (List.pairwise_append.mp sorted).2.1
    exact ⟨next ▸ List.mem_cons_of_mem v mem, List.rel_of_pairwise_cons later mem⟩
  have level : ∀ x ∈ v.hands files, x.level = v.level + 1 := fun x => Visit.level_of_hands
  have last : v ∈ s.read ++ [v] := List.mem_append_right _ (List.mem_singleton_self v)
  exact
    { first := by
        rw [met_visit next, List.head?_append, h.first]
        rfl
      once := by
        refine List.pairwise_append.mpr ⟨h.once, List.pairwise_singleton _ _, ?_⟩
        intro x read y mem same
        rw [List.mem_singleton.mp mem] at same
        exact fresh ⟨x, read, Path.same_symm same⟩
      collects := by
        intro x mem
        rcases List.mem_append.mp mem with mem | mem
        · exact h.collects x mem
        · exact List.mem_singleton.mp mem ▸ collected
      found := by
        rw [Loading.visit, List.flatMap_append, List.flatMap_singleton, h.found]
      handed := by
        intro x mem
        rw [met_visit next] at mem
        rcases List.mem_append.mp mem with mem | imported
        · exact (h.handed x mem).imp_right fun ⟨u, read, imported⟩ =>
            ⟨u, List.mem_append_left _ read, imported⟩
        · exact .inr ⟨v, last, imported⟩
      sorted := by
        rw [met_visit next]
        refine List.pairwise_append.mpr ⟨h.sorted, ?_, fun x mem y imported => ?_⟩
        · exact List.pairwise_of_forall_mem_list fun x mem y mem' =>
            Nat.le_of_eq ((level x mem).trans (level y mem').symm)
        · rw [level y imported]
          exact h.near v here x mem
      near := by
        intro x mem y mem'
        rw [met_visit next] at mem'
        have early : v.level ≤ x.level := by
          rcases List.mem_append.mp mem with mem | imported
          · exact (waits x mem).2
          · rw [level x imported]
            exact Nat.le_succ _
        have late : y.level ≤ v.level + 1 := by
          rcases List.mem_append.mp mem' with mem' | imported
          · exact h.near v here y mem'
          · exact Nat.le_of_eq (level y imported)
        omega
      closed := by
        intro u mem x imported
        rcases List.mem_append.mp mem with mem | mem
        · rcases h.closed u mem x imported with waiting | ⟨w, read, same, earlier⟩
          · rw [next] at waiting
            rcases List.mem_cons.mp waiting with rfl | waiting
            · exact .inr ⟨x, last, Path.same_refl _, Nat.le_refl _⟩
            · exact .inl (List.mem_append_left _ waiting)
          · exact .inr ⟨w, List.mem_append_left _ read, same, earlier⟩
        · rw [List.mem_singleton.mp mem] at imported
          exact .inl (List.mem_append_right _ imported) }

theorem Invariant.step (h : s.Invariant files file) (step : Step files s t) :
    t.Invariant files file := by
  cases step with
  | skip next seen => exact h.skip next seen
  | visit next fresh collects => exact h.visit next fresh collects

theorem Invariant.steps (h : s.Invariant files file) (steps : ReflTransGen (Step files) s t) :
    t.Invariant files file := by
  induction steps with
  | refl => exact h
  | tail _ step ih => exact ih.step step

/-- When nothing is to come, what has been read are the modules that imports lead to. -/
theorem Invariant.traversal (h : s.Invariant files file) (empty : s.queue = []) :
    Traversal files file s.read := by
  have all : s.met = s.read := by rw [met, empty, List.append_nil]
  have root : ⟨file, 0, ∅⟩ ∈ s.read := List.mem_of_mem_head? (all ▸ h.first)
  have reached : ∀ n, ∀ v ∈ s.read, v.level = n → Hops files s.read file n v.file := by
    intro n
    induction n with
    | zero =>
      intro v mem level
      rcases h.handed v (all ▸ mem) with rfl | ⟨u, -, imported⟩
      · exact .root
      · have above := Visit.level_of_hands imported
        omega
    | succ n ih =>
      intro v mem level
      rcases h.handed v (all ▸ mem) with rfl | ⟨u, read, imported⟩
      · cases level
      · have above := Visit.level_of_hands imported
        exact .next (ih u read (by omega)) ⟨u, read, Path.same_refl _, v, imported, rfl⟩
  refine ⟨all ▸ h.first, h.once, h.collects, fun v mem => reached _ v mem rfl, fun n p hops => ?_⟩
  induction hops with
  | root => exact ⟨_, root, Path.same_refl _, Nat.le_refl _⟩
  | next _ imports ih =>
    obtain ⟨v, mem, same, le⟩ := ih
    obtain ⟨u, read, same', w, imported, rfl⟩ := imports
    obtain rfl := eq_of_once h.once read mem (Path.same_trans (Path.same_symm same') same)
    rcases h.closed u read w imported with waiting | ⟨x, done, there, earlier⟩
    · rw [empty] at waiting
      cases waiting
    · have above := Visit.level_of_hands imported
      exact ⟨x, done, there, by omega⟩

end Loading

/-- The modules are collected by the run from the root module. -/
theorem collectAll_start_iff {r : Except CompileError (List Declaration)} :
    collectAll (.ofList fs) fs.length [] [] [⟨file, 0, ∅⟩] = r ↔
      (Loading.start file).Runs (.ofList fs) r := by
  have agree : ∀ p, ([] : List Path).any p.same = true ↔ (Loading.start file).Seen p := by
    simp [Loading.Seen, Loading.start]
  have enough : ((Loading.start file).unread fs).length ≤ fs.length := List.length_filter_le _ _
  exact Loading.collectAll_iff agree enough

/-- What all modules declare is found by a traversal of them. -/
theorem collectAll_traversal {ds : List Declaration}
    (h : collectAll (.ofList fs) fs.length [] [] [⟨file, 0, ∅⟩] = .ok ds) :
    ∃ visits, Traversal (.ofList fs) file visits ∧
      ds = visits.flatMap (Visit.declares · (.ofList fs)) := by
  obtain ⟨t, steps, ends⟩ := collectAll_start_iff.mp h
  have invariant := Loading.Invariant.start.steps steps
  cases ends with
  | read empty => exact ⟨t.read, invariant.traversal empty, invariant.found⟩

end Blueprint
