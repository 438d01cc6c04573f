import Blueprint.Proofs.Builder.Ledger
import Blueprint.Proofs.Builder.Order
import Blueprint.Proofs.Except

/-!
# The balance of frames and levels

Frames and levels are two stacks that move together for branches and loops only. `run_sound` says
that they stay in step through every run, refused calls included, and what a finished tree is then.
-/

namespace Blueprint

/-- Branches and bodies of loops are levels of their own. -/
def FrameKind.opensLevel : FrameKind → Bool
  | .branch _ | .loop _ => true
  | _ => false

/-- Faults that only frames and levels out of step could give. -/
def TaskFault.isInternal : TaskFault → Bool
  | .branchClosedOutside | .closeBody | .emptyStack => true
  | _ => false

/-- The outermost frame is that of the action body, and no other is. -/
def Frame.BodyLast (fs : List Frame) : Prop :=
  ∃ inner bottom, fs = inner ++ [bottom] ∧ bottom.kind = .root ∧ ∀ f ∈ inner, f.kind ≠ .root

structure TaskBuilder.Balanced (b : TaskBuilder) : Prop where
  levels : b.levels.length = b.frames.countP (·.kind.opensLevel) + 1
  body : Frame.BodyLast b.frames
  branches : ∀ k f side, b.frames[k]? = some f → f.kind = .branch side →
    ∃ g d, b.frames[k + 1]? = some g ∧ g.kind = .decision d

/-- A tree whose tasks can be told apart, and none of whose levels has to wait for itself. -/
structure TaskTree.Sound (t : TaskTree) : Prop where
  named : ∀ n ∈ t.allNodes, Text.blankText n.name = false
  distinct : (t.allNodes.map TaskNode.name).Nodup
  /-- What a node waits for stands before it on its level, each once. -/
  earlier : ∀ level ∈ t.levels, ∀ before n rest, level = before ++ n :: rest →
    n.predecessors.Nodup ∧ ∀ x ∈ n.predecessors, x ∈ before.map TaskNode.name
  acyclic : ∀ level ∈ t.levels, ∀ x, ¬Outline.Depends level x x

/-! ### Frames and levels in step -/

theorem Frame.BodyLast.cons {f : Frame} {fs : List Frame} (h : Frame.BodyLast fs)
    (other : f.kind ≠ .root) : Frame.BodyLast (f :: fs) := by
  obtain ⟨inner, bottom, same, root, others⟩ := h
  refine ⟨f :: inner, bottom, ?_, root, List.forall_mem_cons.mpr ⟨other, others⟩⟩
  rw [same, List.cons_append]

theorem Frame.BodyLast.head_ne_root {f : Frame} {fs : List Frame} (h : Frame.BodyLast (f :: fs))
    (under : fs ≠ []) : f.kind ≠ .root := by
  obtain ⟨inner, bottom, same, -, others⟩ := h
  cases inner with
  | nil =>
    cases same
    exact (under rfl).elim
  | cons g gs =>
    cases same
    exact others f List.mem_cons_self

theorem FrameKind.scope?_of_ne_root {kind : FrameKind} (h : kind ≠ .root) :
    ∃ scope, kind.scope? = some scope := by
  cases kind with
  | root => exact (h rfl).elim
  | _ => exact ⟨_, rfl⟩

namespace Agrees

variable {os : List Open} {fs : List Frame} {ls : List TaskTree}

theorem levels_length (h : Agrees os fs ls) :
    ls.length = fs.countP (·.kind.opensLevel) + 1 := by
  induction h with
  | body kind => simp [kind, FrameKind.opensLevel]
  | serial _ _ kind _ ih | parallel _ _ kind _ ih =>
    rw [List.countP_cons_of_neg (by simp [kind, FrameKind.opensLevel]), ← ih]
    rfl
  | decision _ _ kind _ ih =>
    rw [List.countP_cons_of_neg (by simp [kind, FrameKind.opensLevel]), ih]
  | branch _ _ kind _ ih | loop _ _ kind _ ih =>
    rw [List.countP_cons_of_pos (by simp [kind, FrameKind.opensLevel]), List.length_cons, ih]

theorem body_last (h : Agrees os fs ls) : Frame.BodyLast fs := by
  induction h with
  | @body f _ kind => exact ⟨[], f, rfl, kind, List.forall_mem_nil _⟩
  | serial _ _ kind _ ih | parallel _ _ kind _ ih | decision _ _ kind _ ih | branch _ _ kind _ ih
  | loop _ _ kind _ ih => exact ih.cons (by rw [kind]; exact nofun)

theorem branch_on_decision (h : Agrees os fs ls) {k : Nat} {f : Frame} {side : Branch}
    (at_ : fs[k]? = some f) (branch : f.kind = .branch side) :
    ∃ g d, fs[k + 1]? = some g ∧ g.kind = .decision d := by
  induction h generalizing k with
  | body kind =>
    cases k with
    | zero =>
      cases at_
      simp [kind] at branch
    | succ k => simp at at_
  | serial _ _ kind _ ih | parallel _ _ kind _ ih | decision _ _ kind _ ih | loop _ _ kind _ ih =>
    cases k with
    | zero =>
      cases at_
      simp [kind] at branch
    | succ k => exact ih at_
  | branch outer _ _ _ ih =>
    cases k with
    | zero =>
      cases outer with
      | decision _ _ kind _ => exact ⟨_, _, rfl, kind⟩
    | succ k => exact ih at_

end Agrees

namespace TaskBuilder

variable {os : List Open} {b : TaskBuilder}

theorem Inv.balanced (h : Inv os b) : b.Balanced where
  levels := h.agrees.levels_length
  body := h.agrees.body_last
  branches := fun _ _ _ at_ branch => h.agrees.branch_on_decision at_ branch

theorem Balanced.frames_ne_nil (h : b.Balanced) : b.frames ≠ [] := by
  obtain ⟨inner, bottom, frames, -⟩ := h.body
  simp [frames]

/-- When a branch or a loop is closed, it has a level and so has the scope around it. -/
theorem Balanced.pops {f : Frame} {fs : List Frame} (h : b.Balanced) (frames : b.frames = f :: fs)
    (opens : f.kind.opensLevel = true) : ∃ l outer ls, b.levels = l :: outer :: ls := by
  have counted := h.levels
  rw [frames, List.countP_cons_of_pos (by simpa using opens)] at counted
  cases levels : b.levels with
  | nil => simp [levels] at counted
  | cons l ls =>
    cases ls with
    | nil => simp [levels] at counted
    | cons outer ls => exact ⟨l, outer, ls, rfl⟩

theorem Balanced.finishes {t : TaskTree} (h : b.Balanced) (finished : b.finish = .ok t) :
    b.levels = [t] := by
  obtain ⟨inner, bottom, frames, root, others⟩ := h.body
  unfold finish at finished
  cases inner with
  | cons f fs =>
    obtain ⟨scope, same⟩ := FrameKind.scope?_of_ne_root (others f List.mem_cons_self)
    simp [frames, same] at finished
  | nil =>
    have one : b.levels.length = 1 := by
      rw [h.levels, frames]
      simp [root, FrameKind.opensLevel]
    obtain ⟨l, levels⟩ := List.length_eq_one_iff.mp one
    simp only [frames, List.nil_append, List.head?_cons, Option.bind_some, root, FrameKind.scope?,
      popLevel, levels, Except.ok.injEq] at finished
    rw [levels, finished]

/-! ### Faults -/

theorem nextPredecessors_error {fault : TaskFault} (frames : b.frames ≠ [])
    (h : b.nextPredecessors = .error fault) : fault.isInternal = false := by
  unfold nextPredecessors at h
  split at h
  · rename_i none
    exact (frames none).elim
  · split at h <;> cases h
    rfl

theorem reserve_error {name : String} {fault : TaskFault} (h : b.reserve name = .error fault) :
    fault.isInternal = false := by
  unfold reserve at h
  split at h
  · cases h
    rfl
  · split at h <;> cases h
    rfl

/-- If this outcome is a refusal, then with a fault that the calls bring about. -/
def Explained {α : Type} (o : Outcome α) : Prop :=
  ∀ fault, o.2 = .error fault → fault.isInternal = false

theorem explained_ok {α : Type} {b' : TaskBuilder} {a : α} : Explained (b', .ok a) := nofun

theorem explained_waiting {α : Type} {next : List String → Outcome α} (frames : b.frames ≠ [])
    (made : ∀ entry, Explained (next entry)) : Explained (b.waiting next) := by
  refine waiting_cases (fun fault waits => ?_) fun entry _ => made entry
  rintro _ ⟨⟩
  exact nextPredecessors_error frames waits

theorem explained_naming {α : Type} {name : String} {next : TaskBuilder → Outcome α}
    (made : ∀ b', Explained (next b')) : Explained (b.naming name next) := by
  refine naming_cases (fun fault named => ?_) fun b' _ => made b'
  rintro _ ⟨⟩
  exact reserve_error named

/-- A scope that is closed is none of the body, and a branch hands its tree to a decision. -/
theorem close_error {t : ScopeToken} {fault : TaskFault} (h : b.Balanced)
    (refused : (b.close t).2 = .error fault) : fault.isInternal = false := by
  unfold close at refused
  split at refused
  · cases refused
    rfl
  · split at refused
    · rename_i none
      exact (h.frames_ne_nil none).elim
    · cases refused
      rfl
    · rename_i f fs outermost frames
      split at refused
      · cases refused
        rfl
      · unfold closeFrame at refused
        cases kind : f.kind with
        | root => exact ((frames ▸ h.body).head_ne_root (fun none => outermost none) kind).elim
        | serial | parallel => simp [kind] at refused
        | branch side =>
          obtain ⟨g, d, below, decision⟩ := h.branches 0 f side (by rw [frames]; rfl) kind
          obtain ⟨gs, rfl⟩ : ∃ gs, fs = g :: gs := by
            rw [frames] at below
            cases fs with
            | nil => cases below
            | cons g' gs => exact ⟨gs, by rw [Option.some.inj below]⟩
          simp only [kind, popLevel] at refused
          split at refused <;> simp [fillBranch, decision] at refused
        | decision d =>
          simp only [kind] at refused
          split at refused <;> cases refused <;> rfl
        | loop l =>
          simp only [kind] at refused
          split at refused <;> cases refused
          rfl

theorem perform_error {c : Call ScopeToken} {fault : TaskFault} (h : b.Balanced)
    (refused : (b.perform c).2 = .error fault) : fault.isInternal = false := by
  have answered : ∀ {α : Type} {token : α → Option ScopeToken} {outcome : Outcome α},
      (perform.opened token outcome).2 = .error fault → outcome.2 = .error fault := by
    rintro α token ⟨b', answer⟩ h
    cases answer with
    | error f => exact congrArg Except.error (Except.error.inj h)
    | ok a => cases h
  have frames := h.frames_ne_nil
  cases c with
  | step s =>
    refine explained_waiting frames (fun entry => explained_naming fun b' => ?_) _ (answered refused)
    exact explained_ok
  | openSerial | openParallel =>
    exact explained_waiting frames (fun entry => explained_ok) _ (answered refused)
  | openDecision d =>
    refine explained_waiting frames (fun entry => explained_naming fun b' => ?_) _ (answered refused)
    exact explained_ok
  | openBranch side =>
    have made := answered refused
    unfold openBranch at made
    split at made
    · split at made <;> cases made
      rfl
    · cases made
      rfl
  | openLoop l =>
    refine explained_waiting frames (fun entry => explained_naming fun b' => ?_) _ (answered refused)
    split
    · rintro _ ⟨⟩
      rfl
    · exact explained_ok
  | close t => exact close_error h (answered refused)

theorem finish_error {fault : TaskFault} (refused : b.finish = .error fault) :
    fault.isInternal = false := by
  unfold finish at refused
  split at refused <;> cases refused
  rfl

/-! ### Names -/

theorem perform_named {c : Call ScopeToken}
    (h : ∀ x ∈ b.names, Text.blankText x = false) :
    ∀ x ∈ (b.perform c).1.names, Text.blankText x = false := by
  obtain ⟨l, takes, moves⟩ := perform_books b c
  change ∀ x ∈ (b.perform c).1.ledger.names, _
  rw [moves.names]
  cases takes with
  | nothing => exact h
  | name _ named _ => exact List.forall_mem_cons.mpr ⟨named, h⟩

theorem run_named (calls : List (Call ScopeToken)) (h : ∀ x ∈ b.names, Text.blankText x = false) :
    ∀ x ∈ (b.run calls).names, Text.blankText x = false := by
  induction calls generalizing b with
  | nil => exact h
  | cons c cs ih => exact ih (perform_named h)

/-! ### Finished trees -/

/-- In a list without repetition, what comes before an item stands on its left. -/
theorem mem_left {α : Type} {x y : α} {as bs : List α} (distinct : (as ++ y :: bs).Nodup)
    (sub : [x, y].Sublist (as ++ y :: bs)) : x ∈ as := by
  induction as with
  | nil =>
    obtain ⟨fresh, -⟩ := List.nodup_cons.mp distinct
    cases sub with
    | cons _ sub => exact (fresh (sub.subset (by simp))).elim
    | cons_cons _ sub => exact (fresh (sub.subset (by simp))).elim
  | cons a as ih =>
    cases sub with
    | cons _ sub => exact List.mem_cons_of_mem _ (ih (List.nodup_cons.mp distinct).2 sub)
    | cons_cons _ _ => exact List.mem_cons_self

end TaskBuilder

theorem Outline.layout_earlier {level : List Outline} (distinct : (namesOf level).Nodup)
    {before rest : List TaskNode} {n : TaskNode}
    (split : layoutSerial [] level = before ++ n :: rest) :
    n.predecessors.Nodup ∧ ∀ x ∈ n.predecessors, x ∈ before.map TaskNode.name := by
  have faithful := layout_faithful distinct
  have mem : n ∈ layoutSerial [] level := by simp [split]
  refine ⟨faithful.distinct.sublist (faithful.placed n mem), fun x waits => ?_⟩
  have sub := orders_sublist ((faithful.predecessors n mem x).mp waits).1
  have names : namesOf level = before.map TaskNode.name ++ n.name :: rest.map TaskNode.name := by
    rw [← layoutSerial_names level [], split, List.map_append, List.map_cons]
  rw [Outline.names, names] at sub
  exact TaskBuilder.mem_left (names ▸ distinct) sub

theorem Outline.layout_acyclic {level : List Outline} (distinct : (namesOf level).Nodup)
    (x : String) : ¬Depends (layoutSerial [] level) x x := by
  rw [layout_depends distinct]
  intro loop
  have twice := distinct.sublist (orders_sublist loop)
  simp at twice

namespace TaskBuilder

theorem Inv.sound {os : List Open} {b : TaskBuilder} {t : TaskTree} (h : Inv os b)
    (named : ∀ x ∈ b.names, Text.blankText x = false) (finished : b.finish = .ok t) : t.Sound := by
  obtain ⟨body, rfl, rfl, distinct⟩ := finish_layout h finished
  have names := Outline.layoutSerial_allNames body []
  have levels : ∀ sub ∈ TaskTree.levels (Outline.layoutSerial [] body), ∃ level,
      sub = Outline.layoutSerial [] level ∧ (Outline.namesOf level).Nodup := by
    intro sub mem
    obtain ⟨level, same, -, inner⟩ := Outline.written_of_levels mem
    exact ⟨level, same, (distinct.sublist inner).sublist (Outline.namesOf_sublist level)⟩
  constructor
  · intro n mem
    have taken : n.name ∈ Outline.allNamesOf body := names ▸ List.mem_map_of_mem mem
    exact named _ (h.known _ taken)
  · exact names ▸ distinct
  · intro sub mem before n rest split
    obtain ⟨level, rfl, apart⟩ := levels sub mem
    exact Outline.layout_earlier apart split
  · intro sub mem x
    obtain ⟨level, rfl, apart⟩ := levels sub mem
    exact Outline.layout_acyclic apart x

theorem run_sound (id : Nat) (action : String) (calls : List (Call ScopeToken)) :
    let b := (new id action).run calls
    b.Balanced ∧
      (∀ f fs, b.frames = f :: fs → f.kind.opensLevel = true →
        ∃ l outer ls, b.levels = l :: outer :: ls) ∧
      (∀ c fault, (b.perform c).2 = .error fault → fault.isInternal = false) ∧
      (∀ fault, b.finish = .error fault → fault.isInternal = false) ∧
      ∀ t, b.finish = .ok t → b.levels = [t] ∧ t.Sound := by
  intro b
  obtain ⟨os, inv, -⟩ := run_inv (new_inv id action) calls
  have balanced : b.Balanced := inv.balanced
  have named : ∀ x ∈ b.names, Text.blankText x = false := run_named calls nofun
  exact ⟨balanced, fun _ _ frames opens => balanced.pops frames opens,
    fun _ _ refused => perform_error balanced refused, fun _ refused => finish_error refused,
    fun _ finished => ⟨balanced.finishes finished, inv.sound named finished⟩⟩

/-- A decision without its second branch and a loop without a body are dropped, their names stay. -/
theorem run_sound_dropped :
    let delay := fun name => Call.step (τ := ScopeToken) { name, work := .delay 1 }
    let calls := [delay "a", .openDecision { name := "d", script := { text := "" } },
      .openBranch .success, delay "b", .close ⟨0, 2, .branch .success⟩, .close ⟨0, 1, .decision⟩,
      .openLoop { name := "l", iterations := "3" }, .close ⟨0, 3, .loop⟩, delay "b", delay "c"]
    let b := (new 0 "act").run calls
    b.Balanced ∧ b.names = ["c", "l", "b", "d", "a"] ∧
      ∃ t, b.finish = .ok t ∧ t.allNodes.map TaskNode.name = ["a", "c"] ∧ t.edges = [("a", "c")] ∧
        b.levels = [t] ∧ t.Sound := by
  intro delay calls b
  obtain ⟨balanced, -, -, -, finishes⟩ := run_sound 0 "act" calls
  obtain ⟨t, finished, nodes, edges⟩ := ok_of_test (x := b.finish)
    (P := fun t => t.allNodes.map TaskNode.name = ["a", "c"] ∧ t.edges = [("a", "c")])
    (by decide +kernel)
  exact ⟨balanced, by decide +kernel, t, finished, nodes, edges, finishes t finished⟩

end TaskBuilder

end Blueprint
