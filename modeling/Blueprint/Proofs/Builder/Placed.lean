import Blueprint.Proofs.Builder.Invariant

/-!
# Placing an outline

What the calls that write an outline leave in a builder, when none of them is refused, and what has
to hold for that. The innermost scope gets the level that the outline stands for.
-/

namespace Blueprint

/-- Names that can be taken one after the other. -/
structure Fresh (taken new : List String) : Prop where
  named : ∀ x ∈ new, Text.blankText x = false
  distinct : new.Nodup
  apart : ∀ x ∈ new, x ∉ taken

namespace Outline

mutual

/-- Every loop has a count and a task. -/
def Solid : Outline → Prop
  | step _ => True
  | serial ms => SolidOf ms
  | parallel ms => SolidOf ms
  | decision _ _ s f => SolidOf s ∧ SolidOf f
  | loop l b => Text.blankText l.iterations = false ∧ namesOf b ≠ [] ∧ SolidOf b

def SolidOf : List Outline → Prop
  | [] => True
  | m :: ms => Solid m ∧ SolidOf ms

end

mutual

/-- How many scopes an outline opens. -/
def scopes : Outline → Nat
  | step _ => 0
  | serial ms => scopesOf ms + 1
  | parallel ms => scopesOf ms + 1
  | decision _ _ s f => scopesOf s + scopesOf f + 3
  | loop _ b => scopesOf b + 1

def scopesOf : List Outline → Nat
  | [] => 0
  | m :: ms => scopes m + scopesOf ms

end

theorem layoutSerial_eq_nil {ms : List Outline} {entry : List String} :
    layoutSerial entry ms = [] ↔ namesOf ms = [] := by
  rw [← layoutSerial_names ms entry, List.map_eq_nil_iff]

end Outline

namespace Fresh

variable {taken xs ys : List String} {x : String}

theorem nil (taken : List String) : Fresh taken [] :=
  ⟨List.forall_mem_nil _, .nil, List.forall_mem_nil _⟩

theorem append_iff : Fresh taken (xs ++ ys) ↔ Fresh taken xs ∧ Fresh (xs.reverse ++ taken) ys := by
  constructor
  · rintro ⟨named, distinct, apart⟩
    obtain ⟨distinctX, distinctY, between⟩ := List.nodup_append.mp distinct
    obtain ⟨namedX, namedY⟩ := List.forall_mem_append.mp named
    obtain ⟨apartX, apartY⟩ := List.forall_mem_append.mp apart
    refine ⟨⟨namedX, distinctX, apartX⟩, namedY, distinctY, fun y mem known => ?_⟩
    rcases List.mem_append.mp known with known | known
    · exact between y (List.mem_reverse.mp known) y mem rfl
    · exact apartY y mem known
  · rintro ⟨⟨namedX, distinctX, apartX⟩, namedY, distinctY, apartY⟩
    refine ⟨List.forall_mem_append.mpr ⟨namedX, namedY⟩,
      List.nodup_append.mpr ⟨distinctX, distinctY, ?_⟩, List.forall_mem_append.mpr ⟨apartX, ?_⟩⟩
    · rintro y memX _ memY rfl
      exact apartY y memY (List.mem_append_left _ (List.mem_reverse.mpr memX))
    · intro y mem known
      exact apartY y mem (List.mem_append_right _ known)

theorem cons_iff : Fresh taken (x :: ys) ↔ Fresh taken [x] ∧ Fresh (x :: taken) ys := by
  rw [← List.singleton_append, append_iff]
  rfl

end Fresh

/-! ### The innermost frame -/

namespace Frame

/-- The frame of a scope that was just opened. -/
def opened (seq : Nat) (kind : FrameKind) (entry : List String) : Frame :=
  ⟨seq, kind, entry, entry, [], 0⟩

/-- The frame of a scope into which these members were written. -/
def joinAll (f : Frame) (os : List Outline) : Frame := os.foldl (fun f o => f.join o.exits) f

/-- The nodes of members that are written into a scope, the first of which waits for `entry`. -/
def laid (f : Frame) (entry : List String) (os : List Outline) : List TaskNode :=
  match f.kind with
  | .parallel => Outline.layoutParallel entry os
  | _ => Outline.layoutSerial entry os

variable {f : Frame} {entry : List String}

theorem join_seq (f : Frame) (outflow : List String) : (f.join outflow).seq = f.seq := by
  cases outflow with
  | nil => rfl
  | cons x xs => cases kind : f.kind <;> simp [join, record, kind]

theorem joinAll_seq (f : Frame) (os : List Outline) : (f.joinAll os).seq = f.seq := by
  induction os generalizing f with
  | nil => rfl
  | cons o os ih => exact (ih _).trans (join_seq f o.exits)

theorem joinAll_kind (f : Frame) (os : List Outline) : (f.joinAll os).kind = f.kind := by
  induction os generalizing f with
  | nil => rfl
  | cons o os ih => exact (ih _).trans (join_kind f o.exits)

/-- What comes after a member waits for that member in a sequence, and for the entry of a parallel
scope as before. -/
theorem next?_join (next : f.next? = some entry) (o : Outline) :
    ∃ entry', (f.join o.exits).next? = some entry' ∧
      ∀ os, f.laid entry (o :: os) = o.layout entry ++ (f.join o.exits).laid entry' os := by
  have kind := join_kind f o.exits
  by_cases parallel : f.kind = .parallel
  · have same : f.entry = entry := by simpa [next?, parallel] using next
    have kept : (f.join o.exits).entry = f.entry := by
      cases o.exits <;> simp [join, record, parallel]
    refine ⟨entry, by simp [next?, kind, parallel, kept, same], fun os => ?_⟩
    simp [laid, kind, parallel, Outline.layoutParallel]
  · have laidSerial : ∀ (g : Frame) (entry : List String) (os : List Outline), g.kind = f.kind →
        g.laid entry os = Outline.layoutSerial entry os := by
      intro g entry os same
      unfold laid
      rw [same]
      split
      · rename_i parallel'
        exact (parallel parallel').elim
      · rfl
    refine ⟨Outline.after entry o.exits, ?_, fun os => ?_⟩
    · cases exits : o.exits with
      | nil => exact next
      | cons x xs => cases kind : f.kind <;> simp_all [next?, join, record, Outline.after]
    · rw [laidSerial f entry _ rfl, laidSerial _ _ _ kind]
      rfl

theorem Sequential.joinAll {done : List Outline} (h : f.Sequential entry done)
    (kind : f.kind ≠ .parallel) (os : List Outline) : (f.joinAll os).Sequential entry (done ++ os) := by
  induction os generalizing f done with
  | nil => simpa [Frame.joinAll] using h
  | cons o os ih =>
    have rest := ih (h.join kind o) (by rwa [join_kind])
    rwa [List.append_assoc, List.singleton_append] at rest

theorem Concurrent.joinAll {done : List Outline} (h : f.Concurrent entry done)
    (kind : f.kind = .parallel) (os : List Outline) : (f.joinAll os).Concurrent entry (done ++ os) := by
  induction os generalizing f done with
  | nil => simpa [Frame.joinAll] using h
  | cons o os ih =>
    have rest := ih (h.join kind o) (by rwa [join_kind])
    rwa [List.append_assoc, List.singleton_append] at rest

end Frame

namespace TaskBuilder

variable {id seq : Nat} {action : String} {f : Frame} {fs : List Frame} {l body : TaskTree}
  {ls : List TaskTree} {names entry : List String}

/-! ### Opening -/

theorem reserve_fresh {b : TaskBuilder} {x : String} (fresh : Fresh b.names [x]) :
    b.reserve x = .ok { b with names := x :: b.names } :=
  reserve_eq (fresh.apart x List.mem_cons_self) (fresh.named x List.mem_cons_self)

theorem reserve_taken {b : TaskBuilder} {x : String} (taken : ¬Fresh b.names [x]) :
    ∃ fault, b.reserve x = .error fault := by
  unfold reserve
  by_cases blank : Text.blankText x = true
  · rw [if_pos blank]
    exact ⟨_, rfl⟩
  · rw [if_neg blank]
    by_cases known : b.names.contains x = true
    · rw [if_pos known]
      exact ⟨_, rfl⟩
    · refine (taken ⟨?_, List.pairwise_singleton _ x, ?_⟩).elim
      · simpa using blank
      · simpa using known

theorem nextPredecessors_eq {b : TaskBuilder} (frames : b.frames = f :: fs)
    (next : f.next? = some entry) : b.nextPredecessors = .ok entry := by
  unfold nextPredecessors
  unfold Frame.next? at next
  rw [frames]
  cases kind : f.kind <;> simp_all

section Literal

variable (next : f.next? = some entry)

include next

theorem step_cases (st : Step) :
    let b : TaskBuilder := ⟨id, action, seq, f :: fs, l :: ls, names⟩
    (Fresh names [st.name] ∧ b.step st =
        (⟨id, action, seq, f.join [st.name] :: fs, (l ++ [st.node entry]) :: ls, st.name :: names⟩,
          .ok ())) ∨
      ¬Fresh names [st.name] ∧ ∃ b' fault, b.step st = (b', .error fault) := by
  intro b
  have waits : b.nextPredecessors = .ok entry := nextPredecessors_eq rfl next
  unfold step
  rw [waiting_ok _ waits]
  by_cases fresh : Fresh names [st.name]
  · refine .inl ⟨fresh, ?_⟩
    rw [naming_ok _ (reserve_fresh (b := b) fresh), place_eq rfl rfl]
    rfl
  · obtain ⟨fault, refused⟩ := reserve_taken (b := b) fresh
    exact .inr ⟨fresh, b, fault, naming_error _ refused⟩

theorem openSerial_eq : (⟨id, action, seq, f :: fs, ls, names⟩ : TaskBuilder).openSerial =
    (⟨id, action, seq + 1, .opened seq .serial entry :: f :: fs, ls, names⟩,
      .ok ⟨id, seq, .serial⟩) := by
  unfold openSerial
  rw [waiting_ok _ (nextPredecessors_eq rfl next)]
  rfl

theorem openParallel_eq : (⟨id, action, seq, f :: fs, ls, names⟩ : TaskBuilder).openParallel =
    (⟨id, action, seq + 1, .opened seq .parallel entry :: f :: fs, ls, names⟩,
      .ok ⟨id, seq, .parallel⟩) := by
  unfold openParallel
  rw [waiting_ok _ (nextPredecessors_eq rfl next)]
  rfl

theorem openDecision_cases (d : DecisionHeader) :
    let b : TaskBuilder := ⟨id, action, seq, f :: fs, ls, names⟩
    (Fresh names [d.name] ∧ b.openDecision d =
        (⟨id, action, seq + 1, .opened seq (.decision ⟨d, entry, none, none⟩) [] :: f :: fs,
          ls, d.name :: names⟩, .ok ⟨id, seq, .decision⟩)) ∨
      ¬Fresh names [d.name] ∧ ∃ b' fault, b.openDecision d = (b', .error fault) := by
  intro b
  have waits : b.nextPredecessors = .ok entry := nextPredecessors_eq rfl next
  unfold openDecision
  rw [waiting_ok _ waits]
  by_cases fresh : Fresh names [d.name]
  · refine .inl ⟨fresh, ?_⟩
    rw [naming_ok _ (reserve_fresh (b := b) fresh)]
    rfl
  · obtain ⟨fault, refused⟩ := reserve_taken (b := b) fresh
    exact .inr ⟨fresh, b, fault, naming_error _ refused⟩

theorem openLoop_cases (h : LoopHeader) :
    let b : TaskBuilder := ⟨id, action, seq, f :: fs, ls, names⟩
    ((Fresh names [h.name] ∧ Text.blankText h.iterations = false) ∧ b.openLoop h =
        (⟨id, action, seq + 1, .opened seq (.loop ⟨h, entry⟩) [] :: f :: fs, [] :: ls,
          h.name :: names⟩, .ok ⟨id, seq, .loop⟩)) ∨
      ¬(Fresh names [h.name] ∧ Text.blankText h.iterations = false) ∧
        ∃ b' fault, b.openLoop h = (b', .error fault) := by
  intro b
  have waits : b.nextPredecessors = .ok entry := nextPredecessors_eq rfl next
  unfold openLoop
  rw [waiting_ok _ waits]
  by_cases fresh : Fresh names [h.name]
  · rw [naming_ok _ (reserve_fresh (b := b) fresh)]
    by_cases blank : Text.blankText h.iterations = true
    · refine .inr ⟨fun both => ?_, _, _, if_pos blank⟩
      rw [both.2] at blank
      cases blank
    · exact .inl ⟨⟨fresh, by simpa using blank⟩, if_neg blank⟩
  · obtain ⟨fault, refused⟩ := reserve_taken (b := b) fresh
    exact .inr ⟨fun both => fresh both.1, b, fault, naming_error _ refused⟩

end Literal

theorem openBranch_eq {n : Nat} {pending : PendingDecision} {side : Branch}
    (free : pending.branch? side = none) :
    (⟨id, action, seq, .opened n (.decision pending) [] :: fs, ls, names⟩ : TaskBuilder).openBranch
        side =
      (⟨id, action, seq + 1, .opened seq (.branch side) [] :: .opened n (.decision pending) [] :: fs,
        [] :: ls, names⟩, .ok ⟨id, seq, .branch side⟩) := by
  unfold openBranch Frame.opened
  dsimp only
  rw [free]
  rfl

/-! ### Closing -/

section Closing

variable {n m : Nat} {scope : ScopeKind} {h : LoopHeader} {d : DecisionHeader}

theorem close_eq (kind : FrameKind) (os : List Outline) :
    (⟨id, action, seq, (Frame.opened n kind entry).joinAll os :: f :: fs, ls, names⟩ :
        TaskBuilder).close ⟨id, n, scope⟩ =
      (⟨id, action, seq, f :: fs, ls, names⟩ : TaskBuilder).closeFrame
        ((Frame.opened n kind entry).joinAll os) := by
  have same : ((Frame.opened n kind entry).joinAll os).seq = n := Frame.joinAll_seq _ os
  unfold close
  rw [if_neg (not_not_intro rfl)]
  exact if_neg (not_not_intro same)

theorem closeFrame_serial (os : List Outline) :
    (⟨id, action, seq, f :: fs, ls, names⟩ : TaskBuilder).closeFrame
        ((Frame.opened n .serial entry).joinAll os) =
      (⟨id, action, seq, f.join (Outline.exitsSerial os) :: fs, ls, names⟩, .ok ()) := by
  let b : TaskBuilder := ⟨id, action, seq, f :: fs, ls, names⟩
  let g := (Frame.opened n .serial entry).joinAll os
  have kind : g.kind = .serial := Frame.joinAll_kind _ os
  have filled : g.Sequential entry os := (Frame.sequential_nil n .serial entry).joinAll nofun os
  have outflow : Outline.exitsSerial os ≠ [] → g.cursor = Outline.exitsSerial os := by
    intro some
    rw [filled.cursor]
    cases exits : Outline.exitsSerial os with
    | nil => exact (some exits).elim
    | cons x xs => rfl
  have joined : (if 0 < g.members then b.recordMember g.cursor else b) =
      ⟨id, action, seq, f.join (Outline.exitsSerial os) :: fs, ls, names⟩ :=
    recordMember_join rfl filled.members outflow
  unfold closeFrame
  rw [kind]
  exact congrArg (·, Except.ok ()) joined

theorem closeFrame_parallel (os : List Outline) :
    (⟨id, action, seq, f :: fs, ls, names⟩ : TaskBuilder).closeFrame
        ((Frame.opened n .parallel entry).joinAll os) =
      (⟨id, action, seq, f.join (Outline.exitsParallel os) :: fs, ls, names⟩, .ok ()) := by
  let b : TaskBuilder := ⟨id, action, seq, f :: fs, ls, names⟩
  let g := (Frame.opened n .parallel entry).joinAll os
  have kind : g.kind = .parallel := Frame.joinAll_kind _ os
  have filled : g.Concurrent entry os := (Frame.concurrent_nil n .parallel entry).joinAll rfl os
  have joined : (if 0 < g.members then b.recordMember g.exits else b) =
      ⟨id, action, seq, f.join (Outline.exitsParallel os) :: fs, ls, names⟩ :=
    recordMember_join rfl filled.members fun _ => filled.exits
  unfold closeFrame
  rw [kind]
  exact congrArg (·, Except.ok ()) joined

theorem closeFrame_branch (pending : PendingDecision) (side : Branch) (os : List Outline) :
    (⟨id, action, seq, .opened m (.decision pending) [] :: fs, body :: ls, names⟩ :
        TaskBuilder).closeFrame ((Frame.opened n (.branch side) []).joinAll os) =
      (⟨id, action, seq, .opened m (.decision (pending.setBranch body side)) [] :: fs, ls, names⟩,
        .ok ()) := by
  have kind : ((Frame.opened n (.branch side) []).joinAll os).kind = .branch side :=
    Frame.joinAll_kind _ os
  unfold closeFrame
  rw [kind]
  rfl

/-- A decision is closed once its two branches were written. -/
theorem close_decision (success failure : TaskTree) :
    (⟨id, action, seq, .opened n (.decision
          (PendingDecision.setBranch (.setBranch ⟨d, entry, none, none⟩ success .success) failure
            .failure)) [] :: f :: fs, l :: ls, names⟩ : TaskBuilder).close ⟨id, n, scope⟩ =
      (⟨id, action, seq, f.join [d.name] :: fs, (l ++ [d.node entry success failure]) :: ls, names⟩,
        .ok ()) := by
  refine (close_eq _ []).trans ?_
  unfold closeFrame
  dsimp only [Frame.joinAll, Frame.opened, PendingDecision.setBranch, List.foldl_nil]
  rw [place_eq rfl rfl]
  rfl

theorem closeFrame_loop (os : List Outline) (filled : body ≠ []) :
    (⟨id, action, seq, f :: fs, body :: l :: ls, names⟩ : TaskBuilder).closeFrame
        ((Frame.opened n (.loop ⟨h, entry⟩) []).joinAll os) =
      (⟨id, action, seq, f.join [h.name] :: fs, (l ++ [h.node entry body]) :: ls, names⟩,
        .ok ()) := by
  have kind : ((Frame.opened n (.loop ⟨h, entry⟩) []).joinAll os).kind = .loop ⟨h, entry⟩ :=
    Frame.joinAll_kind _ os
  unfold closeFrame
  rw [kind]
  dsimp only [popLevel]
  rw [if_neg (by simpa using filled), place_eq rfl rfl]
  rfl

theorem closeFrame_loop_empty (os : List Outline) :
    ∃ b' fault, (⟨id, action, seq, f :: fs, [] :: ls, names⟩ : TaskBuilder).closeFrame
        ((Frame.opened n (.loop ⟨h, entry⟩) []).joinAll os) = (b', .error fault) := by
  have kind : ((Frame.opened n (.loop ⟨h, entry⟩) []).joinAll os).kind = .loop ⟨h, entry⟩ :=
    Frame.joinAll_kind _ os
  unfold closeFrame
  rw [kind]
  exact ⟨_, _, rfl⟩

end Closing

end TaskBuilder

end Blueprint
