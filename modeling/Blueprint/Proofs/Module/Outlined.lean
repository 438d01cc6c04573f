import Blueprint.Module.Steps
import Blueprint.Proofs.Builder.Placed
import Blueprint.Proofs.Except

/-!
# The outline of steps

Steps of a module stand for outlines, once what they need is there. `tree_iff` says that the tree of
an action is the layout of the outlines of its steps, and what the builder asks of these.
-/

namespace Blueprint

namespace TaskBuilder

variable {α γ : Type} {b b' : TaskBuilder} {o : Outcome α} {k : TaskBuilder × α → Except CompileError γ}

theorem accepted_bind {a : α} (h : o = (b', .ok a)) : (b.accepted o >>= k) = k (b', a) := by
  rw [h]
  rfl

theorem refused_bind {r : γ} (h : ∃ b' fault, o = (b', .error fault)) :
    (b.accepted o >>= k) ≠ .ok r := by
  obtain ⟨b', fault, rfl⟩ := h
  exact nofun

end TaskBuilder

namespace ActionScope

variable {s : ActionScope}

mutual

/-- The outline that a step stands for. -/
def outline (s : ActionScope) : StepSource → Except CompileError Outline
  | .task word t => .step <$> s.step word t
  | .parallel steps => .parallel <$> outlineAll s steps
  | .serial steps => .serial <$> outlineAll s steps
  | .decision d success failure => do
    let header ← s.decision d
    let ms ← outlineAll s success
    return .decision header .success ms (← outlineAll s failure)
  | .loop l body => .loop (loop l) <$> outlineAll s body

def outlineAll (s : ActionScope) : List StepSource → Except CompileError (List Outline)
  | [] => .ok []
  | step :: steps => do
    let m ← outline s step
    return m :: (← outlineAll s steps)

end

/-! ### Writing an outline -/

section Placed

open Outline (SolidOf allNamesOf scopesOf layoutSerial layoutSerial_eq_nil)
open TaskBuilder (accepted_bind refused_bind close_eq)

/-- A step can be written into a scope exactly if it has an outline that is solid and whose names
are free, and then this outline is what is written. -/
def Fits (s : ActionScope) (step : StepSource) : Prop :=
  ∀ {me seq : Nat} {action : String} {f : Frame} {fs : List Frame} {l : TaskTree}
    {ls : List TaskTree} {names entry : List String} {b : TaskBuilder}, f.next? = some entry →
    (s.place ⟨me, action, seq, f :: fs, l :: ls, names⟩ step = .ok b ↔
      ∃ o, s.outline step = .ok o ∧ o.Solid ∧ Fresh names o.allNames ∧
        b = ⟨me, action, seq + o.scopes, f.join o.exits :: fs, (l ++ o.layout entry) :: ls,
          o.allNames.reverse ++ names⟩)

/-- The same of steps that are written one after the other. -/
def Fills (s : ActionScope) (steps : List StepSource) : Prop :=
  ∀ {me seq : Nat} {action : String} {f : Frame} {fs : List Frame} {l : TaskTree}
    {ls : List TaskTree} {names entry : List String} {b : TaskBuilder}, f.next? = some entry →
    (s.placeAll ⟨me, action, seq, f :: fs, l :: ls, names⟩ steps = .ok b ↔
      ∃ os, s.outlineAll steps = .ok os ∧ SolidOf os ∧ Fresh names (allNamesOf os) ∧
        b = ⟨me, action, seq + scopesOf os, f.joinAll os :: fs, (l ++ f.laid entry os) :: ls,
          (allNamesOf os).reverse ++ names⟩)

/-- Steps are written into a scope that was just opened, which is then closed. -/
theorem inner_iff {γ : Type} {k : TaskBuilder × Unit → Except CompileError γ} {r : γ}
    {steps : List StepSource} {me seq n : Nat} {action : String} {kind : FrameKind}
    {scope : ScopeKind} {f : Frame} {fs : List Frame} {l : TaskTree} {ls : List TaskTree}
    {names entry : List String} (filled : s.Fills steps)
    (next : (Frame.opened n kind entry).next? = some entry) :
    (do
      let b ← s.placeAll ⟨me, action, seq, .opened n kind entry :: f :: fs, l :: ls, names⟩ steps
      let r ← b.accepted (b.close ⟨me, n, scope⟩)
      k r) = .ok r ↔
      ∃ os, s.outlineAll steps = .ok os ∧ SolidOf os ∧ Fresh names (allNamesOf os) ∧
        (do
          let b : TaskBuilder := ⟨me, action, seq + scopesOf os, f :: fs,
            (l ++ (Frame.opened n kind entry).laid entry os) :: ls,
            (allNamesOf os).reverse ++ names⟩
          let r ← b.accepted (b.closeFrame ((Frame.opened n kind entry).joinAll os))
          k r) = .ok r := by
  rw [bind_ok_iff]
  constructor
  · rintro ⟨b, placed, rest⟩
    obtain ⟨os, made, solid, fresh, rfl⟩ := (filled next).mp placed
    rw [close_eq] at rest
    exact ⟨os, made, solid, fresh, rest⟩
  · rintro ⟨os, made, solid, fresh, rest⟩
    refine ⟨_, (filled next).mpr ⟨os, made, solid, fresh, rfl⟩, ?_⟩
    rw [close_eq]
    exact rest

variable {steps success failure body : List StepSource} {step : StepSource}

theorem fits_task (word : TaskWord) (t : TaskSource) : s.Fits (.task word t) := by
  intro me seq action f fs l ls names entry b next
  rw [place, outline, bind_ok_iff]
  simp only [map_ok_iff, exists_exists_and_eq_and]
  refine exists_congr fun st => and_congr_right fun _ => ?_
  rcases TaskBuilder.step_cases next st with ⟨fresh, placed⟩ | ⟨taken, refused⟩
  · rw [accepted_bind placed, pure_ok_iff]
    exact ⟨fun same => ⟨trivial, fresh, same⟩, fun solid => solid.2.2⟩
  · exact ⟨fun placed => (refused_bind refused placed).elim, fun solid => (taken solid.2.1).elim⟩

theorem fits_parallel (filled : s.Fills steps) : s.Fits (.parallel steps) := by
  intro me seq action f fs l ls names entry b next
  rw [place, accepted_bind (TaskBuilder.openParallel_eq next), inner_iff filled rfl]
  simp only [accepted_bind (TaskBuilder.closeFrame_parallel _), pure_ok_iff, outline, map_ok_iff,
    exists_exists_and_eq_and, Outline.scopes, ← Nat.add_assoc, Nat.add_right_comm seq 1]
  rfl

theorem fits_serial (filled : s.Fills steps) : s.Fits (.serial steps) := by
  intro me seq action f fs l ls names entry b next
  rw [place, accepted_bind (TaskBuilder.openSerial_eq next), inner_iff filled rfl]
  simp only [accepted_bind (TaskBuilder.closeFrame_serial _), pure_ok_iff, outline, map_ok_iff,
    exists_exists_and_eq_and, Outline.scopes, ← Nat.add_assoc, Nat.add_right_comm seq 1]
  rfl

theorem outline_decision {d : DecisionSource} {o : Outline} :
    s.outline (.decision d success failure) = .ok o ↔
      ∃ header, s.decision d = .ok header ∧ ∃ ms, s.outlineAll success = .ok ms ∧
        ∃ ns, s.outlineAll failure = .ok ns ∧ o = .decision header .success ms ns := by
  simp only [outline, bind_ok_iff, pure_ok_iff]

theorem fits_decision (d : DecisionSource) (first : s.Fills success) (second : s.Fills failure) :
    s.Fits (.decision d success failure) := by
  intro me seq action f fs l ls names entry b next
  have counts : ∀ ms ns : List Outline, seq + 1 + 1 + scopesOf ms + 1 + scopesOf ns =
      seq + (scopesOf ms + scopesOf ns + 3) := by
    intro ms ns
    omega
  have known : ∀ (x : String) (ms ns : List Outline),
      (allNamesOf ns).reverse ++ ((allNamesOf ms).reverse ++ x :: names) =
        (x :: (allNamesOf ms ++ allNamesOf ns)).reverse ++ names := by
    simp
  rw [place, bind_ok_iff]
  simp only [outline_decision]
  constructor
  · rintro ⟨header, made, rest⟩
    rcases TaskBuilder.openDecision_cases next header with ⟨fresh, opened⟩ | ⟨-, refused⟩
    · rw [accepted_bind opened, accepted_bind (TaskBuilder.openBranch_eq rfl), inner_iff first rfl]
        at rest
      obtain ⟨ms, madeFirst, solidFirst, freshFirst, rest⟩ := rest
      rw [accepted_bind (TaskBuilder.closeFrame_branch _ .success ms),
        accepted_bind (TaskBuilder.openBranch_eq rfl), inner_iff second rfl] at rest
      obtain ⟨ns, madeSecond, solidSecond, freshSecond, rest⟩ := rest
      rw [accepted_bind (TaskBuilder.closeFrame_branch _ .failure ns),
        accepted_bind (TaskBuilder.close_decision _ _), counts, known] at rest
      exact ⟨_, ⟨header, made, ms, madeFirst, ns, madeSecond, rfl⟩, ⟨solidFirst, solidSecond⟩,
        Fresh.cons_iff.mpr ⟨fresh, Fresh.append_iff.mpr ⟨freshFirst, freshSecond⟩⟩, pure_ok rest⟩
    · exact (refused_bind refused rest).elim
  · rintro ⟨_, ⟨header, made, ms, madeFirst, ns, madeSecond, rfl⟩, ⟨solidFirst, solidSecond⟩,
      free, rfl⟩
    obtain ⟨fresh, free⟩ := Fresh.cons_iff.mp free
    obtain ⟨freshFirst, freshSecond⟩ := Fresh.append_iff.mp free
    refine ⟨header, made, ?_⟩
    rcases TaskBuilder.openDecision_cases next header with ⟨-, opened⟩ | ⟨taken, -⟩
    · rw [accepted_bind opened, accepted_bind (TaskBuilder.openBranch_eq rfl), inner_iff first rfl]
      refine ⟨ms, madeFirst, solidFirst, freshFirst, ?_⟩
      rw [accepted_bind (TaskBuilder.closeFrame_branch _ .success ms),
        accepted_bind (TaskBuilder.openBranch_eq rfl), inner_iff second rfl]
      refine ⟨ns, madeSecond, solidSecond, freshSecond, ?_⟩
      rw [accepted_bind (TaskBuilder.closeFrame_branch _ .failure ns),
        accepted_bind (TaskBuilder.close_decision _ _), counts, known]
      rfl
    · exact (taken fresh).elim

theorem fits_loop (h : LoopSource) (filled : s.Fills body) : s.Fits (.loop h body) := by
  intro me seq action f fs l ls names entry b next
  rw [place, outline]
  simp only [map_ok_iff, exists_exists_and_eq_and]
  rcases TaskBuilder.openLoop_cases next (loop h) with ⟨⟨fresh, counted⟩, opened⟩ | ⟨taken, refused⟩
  · rw [accepted_bind opened, inner_iff filled rfl]
    refine exists_congr fun os => and_congr_right fun _ => ?_
    have nodes : [] ++ (Frame.opened seq (.loop ⟨loop h, entry⟩) []).laid [] os =
      layoutSerial [] os := rfl
    dsimp only
    rw [nodes, Outline.Solid, Outline.allNames, Fresh.cons_iff, Outline.scopes, ← Nat.add_assoc,
      Nat.add_right_comm, List.reverse_cons, List.append_assoc, List.singleton_append]
    by_cases empty : Outline.namesOf os = []
    · rw [layoutSerial_eq_nil.mpr empty]
      constructor
      · rintro ⟨-, -, closed⟩
        exact (refused_bind (TaskBuilder.closeFrame_loop_empty os) closed).elim
      · exact fun solid => (solid.1.2.1 empty).elim
    · rw [accepted_bind (TaskBuilder.closeFrame_loop os (layoutSerial_eq_nil.not.mpr empty)),
        pure_ok_iff]
      constructor
      · rintro ⟨solid, free, rfl⟩
        exact ⟨⟨counted, empty, solid⟩, ⟨fresh, free⟩, rfl⟩
      · rintro ⟨⟨-, -, solid⟩, ⟨-, free⟩, rfl⟩
        exact ⟨solid, free, rfl⟩
  · constructor
    · exact fun placed => (refused_bind refused placed).elim
    · rintro ⟨os, -, solid, free, -⟩
      exact (taken ⟨(Fresh.cons_iff.mp free).1, solid.1⟩).elim

theorem fills_nil : s.Fills [] := by
  intro me seq action f fs l ls names entry b next
  have none : f.laid entry [] = [] := by
    unfold Frame.laid
    split <;> rfl
  rw [placeAll, outlineAll]
  constructor
  · intro same
    cases same
    refine ⟨[], rfl, trivial, Fresh.nil names, ?_⟩
    rw [none, List.append_nil]
    rfl
  · rintro ⟨_, ⟨⟩, -, -, rfl⟩
    rw [none, List.append_nil]
    rfl

theorem fills_cons (here : s.Fits step) (later : s.Fills steps) : s.Fills (step :: steps) := by
  intro me seq action f fs l ls names entry b next
  have known : ∀ (o : Outline) (os : List Outline),
      (allNamesOf os).reverse ++ (o.allNames.reverse ++ names) =
        (allNamesOf (o :: os)).reverse ++ names := by
    intro o os
    rw [allNamesOf, List.reverse_append, List.append_assoc]
  simp only [placeAll, outlineAll, bind_ok_iff, pure_ok_iff]
  constructor
  · rintro ⟨b₁, first, rest⟩
    obtain ⟨o, made, solid, fresh, rfl⟩ := (here next).mp first
    obtain ⟨entry', next', laid⟩ := Frame.next?_join next o
    obtain ⟨os, others, solidRest, freshRest, rfl⟩ := (later next').mp rest
    refine ⟨o :: os, ⟨o, made, os, others, rfl⟩, ⟨solid, solidRest⟩,
      Fresh.append_iff.mpr ⟨fresh, freshRest⟩, ?_⟩
    rw [laid, known, List.append_assoc, Nat.add_assoc]
    rfl
  · rintro ⟨_, ⟨o, made, os, others, rfl⟩, ⟨solid, solidRest⟩, free, rfl⟩
    obtain ⟨fresh, freshRest⟩ := Fresh.append_iff.mp free
    obtain ⟨entry', next', laid⟩ := Frame.next?_join next o
    refine ⟨_, (here next).mpr ⟨o, made, solid, fresh, rfl⟩,
      (later next').mpr ⟨os, others, solidRest, freshRest, ?_⟩⟩
    rw [laid, known, List.append_assoc, Nat.add_assoc]
    rfl

mutual

theorem place_fits : ∀ step : StepSource, s.Fits step
  | .task word t => fits_task word t
  | .parallel steps => fits_parallel (placeAll_fills steps)
  | .serial steps => fits_serial (placeAll_fills steps)
  | .decision d success failure =>
    fits_decision d (placeAll_fills success) (placeAll_fills failure)
  | .loop l body => fits_loop l (placeAll_fills body)

theorem placeAll_fills : ∀ steps : List StepSource, s.Fills steps
  | [] => fills_nil
  | step :: steps => fills_cons (place_fits step) (placeAll_fills steps)

end

end Placed

/-! ### Trees -/

theorem finish_joined {me seq : Nat} {action : String} {names : List String} {l : TaskTree}
    (os : List Outline) :
    (⟨me, action, seq, [(Frame.opened 0 .root []).joinAll os], [l], names⟩ : TaskBuilder).finish =
      .ok l := by
  have kind : ((Frame.opened 0 .root []).joinAll os).kind = .root := Frame.joinAll_kind _ os
  unfold TaskBuilder.finish
  rw [List.head?_cons, Option.bind_some, kind]
  rfl

/-- The tree of an action is the layout of the outlines of its steps. -/
theorem tree_iff {action : String} {steps : List StepSource} {t : TaskTree} :
    s.tree action steps = .ok t ↔
      ∃ os, s.outlineAll steps = .ok os ∧ Outline.SolidOf os ∧ Fresh [] (Outline.allNamesOf os) ∧
        t = Outline.layoutSerial [] os := by
  have root : (Frame.opened 0 .root []).next? = some [] := rfl
  have new : TaskBuilder.new 0 action = ⟨0, action, 1, [.opened 0 .root []], [[]], []⟩ := rfl
  rw [tree, new, bind_ok_iff]
  constructor
  · rintro ⟨b, placed, finished⟩
    obtain ⟨os, made, solid, fresh, rfl⟩ := (placeAll_fills steps root).mp placed
    rw [finish_joined] at finished
    exact ⟨os, made, solid, fresh, pure_ok finished⟩
  · rintro ⟨os, made, solid, fresh, rfl⟩
    refine ⟨_, (placeAll_fills steps root).mpr ⟨os, made, solid, fresh, rfl⟩, ?_⟩
    rw [finish_joined]
    rfl

end ActionScope

end Blueprint
