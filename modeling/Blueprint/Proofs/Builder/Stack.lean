import Blueprint.Proofs.Outline.Layout

/-!
# The stack of open scopes

What the frames and levels of a builder hold, said in terms of the outlines that were written into
the open scopes so far. `Agrees.add` is what every accepted call comes down to.
-/

namespace Blueprint

/-- The branches of a decision that are finished, with the one that was written first. -/
inductive Branches where
  | none
  | one (b : Branch) (done : List Outline)
  | both (first : Branch) (success failure : List Outline)

namespace Branches

def side? : Branches → Branch → Option (List Outline)
  | none, _ => .none
  | one b done, c => if b = c then some done else .none
  | both _ success _, .success => some success
  | both _ _ failure, .failure => some failure

def fill (done : List Outline) (b : Branch) : Branches → Branches
  | none => one b done
  | one .success success => both .success success done
  | one .failure failure => both .failure done failure
  | both first success failure => both first success failure

theorem side?_fill {bs : Branches} {b : Branch} (free : bs.side? b = .none) (done : List Outline)
    (c : Branch) : (bs.fill done b).side? c = if b = c then some done else bs.side? c := by
  cases bs with
  | none => rfl
  | one b' done' => cases b' <;> cases b <;> cases c <;> simp_all [side?, fill]
  | both first success failure => cases b <;> simp [side?] at free

/-- Only a decision with both of its branches has two sides. -/
theorem eq_both {bs : Branches} {s f : List Outline} (success : bs.side? .success = some s)
    (failure : bs.side? .failure = some f) : ∃ first, bs = .both first s f := by
  cases bs with
  | none => cases success
  | one b done => cases b <;> simp [side?] at success failure
  | both first s' f' =>
    obtain rfl : s' = s := Option.some.inj success
    obtain rfl : f' = f := Option.some.inj failure
    exact ⟨first, rfl⟩

def script : Branches → List (Call Unit)
  | none => []
  | one b done => .openBranch b :: (Outline.scriptOf done ++ [.close ()])
  | both .success success failure =>
    .openBranch .success :: (Outline.scriptOf success ++ .close () ::
      .openBranch .failure :: (Outline.scriptOf failure ++ [.close ()]))
  | both .failure success failure =>
    .openBranch .failure :: (Outline.scriptOf failure ++ .close () ::
      .openBranch .success :: (Outline.scriptOf success ++ [.close ()]))

def allNames : Branches → List String
  | none => []
  | one _ done => Outline.allNamesOf done
  | both _ success failure => Outline.allNamesOf success ++ Outline.allNamesOf failure

theorem script_fill {bs : Branches} {b : Branch} (free : bs.side? b = .none) (done : List Outline) :
    (bs.fill done b).script =
      bs.script ++ .openBranch b :: (Outline.scriptOf done ++ [.close ()]) := by
  cases bs with
  | none => rfl
  | one b' done' => cases b' <;> cases b <;> simp_all [side?, fill, script]
  | both first success failure => cases b <;> simp [side?] at free

theorem allNames_fill {bs : Branches} {b : Branch} (free : bs.side? b = .none)
    (done : List Outline) :
    (bs.fill done b).allNames.Perm (bs.allNames ++ Outline.allNamesOf done) := by
  cases bs with
  | none => exact List.Perm.refl _
  | one b' done' =>
    cases b' with
    | success => exact List.Perm.refl _
    | failure => exact List.perm_append_comm
  | both first success failure => cases b <;> simp [side?] at free

end Branches

/-- An open scope with what was written into it. -/
inductive Open where
  | body (done : List Outline)
  | serial (done : List Outline)
  | parallel (done : List Outline)
  | decision (d : DecisionHeader) (branches : Branches)
  | branch (b : Branch) (done : List Outline)
  | loop (l : LoopHeader) (done : List Outline)

namespace Open

def add (m : Outline) : Open → Open
  | body done => body (done ++ [m])
  | serial done => serial (done ++ [m])
  | parallel done => parallel (done ++ [m])
  | decision d branches => decision d branches
  | branch b done => branch b (done ++ [m])
  | loop l done => loop l (done ++ [m])

def isDecision : Open → Bool
  | decision _ _ => true
  | _ => false

def script : Open → List (Call Unit)
  | body done => Outline.scriptOf done
  | serial done => .openSerial :: Outline.scriptOf done
  | parallel done => .openParallel :: Outline.scriptOf done
  | decision d branches => .openDecision d :: branches.script
  | branch b done => .openBranch b :: Outline.scriptOf done
  | loop l done => .openLoop l :: Outline.scriptOf done

def allNames : Open → List String
  | body done | serial done | parallel done | branch _ done => Outline.allNamesOf done
  | decision d branches => d.name :: branches.allNames
  | loop l done => l.name :: Outline.allNamesOf done

theorem script_add {o : Open} (takes : o.isDecision = false) (m : Outline) :
    (o.add m).script = o.script ++ m.script := by
  cases o with
  | decision => simp [isDecision] at takes
  | _ => simp [add, script, Outline.scriptOf_append, Outline.scriptOf]

theorem allNames_add {o : Open} (takes : o.isDecision = false) (m : Outline) :
    (o.add m).allNames = o.allNames ++ m.allNames := by
  cases o with
  | decision => simp [isDecision] at takes
  | _ => simp [add, allNames, Outline.allNamesOf_append, Outline.allNamesOf]

/-- The calls accepted so far, for a stack of scopes with the innermost first. -/
def written : List Open → List (Call Unit)
  | [] => []
  | o :: os => written os ++ o.script

def taken : List Open → List String
  | [] => []
  | o :: os => taken os ++ o.allNames

end Open

/-! ### Frames -/

namespace Frame

/-- What the next member waits for; a decision has branches and no members. -/
def next? (f : Frame) : Option (List String) :=
  match f.kind with
  | .parallel => some f.entry
  | .decision _ => none
  | _ => some f.cursor

def record (f : Frame) (outflow : List String) : Frame :=
  match f.kind with
  | .parallel => { f with members := f.members + 1, exits := f.exits ++ outflow }
  | _ => { f with members := f.members + 1, cursor := outflow }

/-- A member without tasks is not recorded. -/
def join (f : Frame) : List String → Frame
  | [] => f
  | x :: xs => f.record (x :: xs)

/-- The frame of a scope whose members come one after the other. -/
structure Sequential (f : Frame) (entry : List String) (done : List Outline) : Prop where
  cursor : f.cursor = Outline.after entry (Outline.exitsSerial done)
  members : 0 < f.members ↔ Outline.exitsSerial done ≠ []

/-- The frame of a scope whose members all start from its entry. -/
structure Concurrent (f : Frame) (entry : List String) (done : List Outline) : Prop where
  entry : f.entry = entry
  exits : f.exits = Outline.exitsParallel done
  members : 0 < f.members ↔ Outline.exitsParallel done ≠ []

theorem sequential_nil (seq : Nat) (kind : FrameKind) (entry : List String) :
    (⟨seq, kind, entry, entry, [], 0⟩ : Frame).Sequential entry [] :=
  ⟨rfl, by simp [Outline.exitsSerial]⟩

theorem concurrent_nil (seq : Nat) (kind : FrameKind) (entry : List String) :
    (⟨seq, kind, entry, entry, [], 0⟩ : Frame).Concurrent entry [] :=
  ⟨rfl, rfl, by simp [Outline.exitsParallel]⟩

theorem record_kind (f : Frame) (outflow : List String) : (f.record outflow).kind = f.kind := by
  cases h : f.kind <;> simp [record, h]

theorem join_kind (f : Frame) (outflow : List String) : (f.join outflow).kind = f.kind := by
  cases outflow with
  | nil => rfl
  | cons x xs => exact record_kind f _

theorem Sequential.join {f : Frame} {entry : List String} {done : List Outline}
    (h : f.Sequential entry done) (kind : f.kind ≠ .parallel) (m : Outline) :
    (f.join m.exits).Sequential entry (done ++ [m]) := by
  have exits : Outline.exitsSerial (done ++ [m]) = Outline.after (Outline.exitsSerial done) m.exits := by
    rw [Outline.exitsSerial_append, Outline.exitsSerial, Outline.exitsSerial]
    rfl
  cases none : m.exits with
  | nil =>
    rw [none, Outline.after] at exits
    exact ⟨by rw [exits]; exact h.cursor, by rw [exits]; exact h.members⟩
  | cons x xs =>
    rw [none, Outline.after] at exits
    have recorded : f.join (x :: xs) = { f with members := f.members + 1, cursor := x :: xs } := by
      cases k : f.kind <;> simp_all [Frame.join, record]
    rw [recorded]
    exact ⟨by rw [exits]; rfl, by simp [exits]⟩

theorem Concurrent.join {f : Frame} {entry : List String} {done : List Outline}
    (h : f.Concurrent entry done) (kind : f.kind = .parallel) (m : Outline) :
    (f.join m.exits).Concurrent entry (done ++ [m]) := by
  have exits : Outline.exitsParallel (done ++ [m]) = Outline.exitsParallel done ++ m.exits := by
    rw [Outline.exitsParallel_append, Outline.exitsParallel, Outline.exitsParallel, List.append_nil]
  cases none : m.exits with
  | nil =>
    rw [none, List.append_nil] at exits
    exact ⟨h.entry, by rw [exits]; exact h.exits, by rw [exits]; exact h.members⟩
  | cons x xs =>
    rw [none] at exits
    have recorded : f.join (x :: xs) =
        { f with members := f.members + 1, exits := f.exits ++ x :: xs } := by
      simp [Frame.join, record, kind]
    rw [recorded]
    exact ⟨h.entry, by rw [exits, ← h.exits], by simp [exits]⟩

end Frame

def nextOf? (fs : List Frame) : Option (List String) := fs.head?.bind Frame.next?

open Outline in
/-- Frames and levels as they are when these outlines were written into these scopes. -/
inductive Agrees : List Open → List Frame → List TaskTree → Prop where
  | body {f : Frame} {done : List Outline} (kind : f.kind = .root) (seq : f.Sequential [] done) :
      Agrees [.body done] [f] [layoutSerial [] done]
  | serial {os : List Open} {f : Frame} {fs : List Frame} {l : TaskTree} {ls : List TaskTree}
      {entry : List String} {done : List Outline} (outer : Agrees os fs (l :: ls))
      (next : nextOf? fs = some entry) (kind : f.kind = .serial) (seq : f.Sequential entry done) :
      Agrees (.serial done :: os) (f :: fs) ((l ++ layoutSerial entry done) :: ls)
  | parallel {os : List Open} {f : Frame} {fs : List Frame} {l : TaskTree} {ls : List TaskTree}
      {entry : List String} {done : List Outline} (outer : Agrees os fs (l :: ls))
      (next : nextOf? fs = some entry) (kind : f.kind = .parallel) (par : f.Concurrent entry done) :
      Agrees (.parallel done :: os) (f :: fs) ((l ++ layoutParallel entry done) :: ls)
  | decision {os : List Open} {f : Frame} {fs : List Frame} {ls : List TaskTree}
      {pending : PendingDecision} {branches : Branches} (outer : Agrees os fs ls)
      (next : nextOf? fs = some pending.predecessors) (kind : f.kind = .decision pending)
      (parts : ∀ b, pending.branch? b = (branches.side? b).map (layoutSerial [])) :
      Agrees (.decision pending.header branches :: os) (f :: fs) ls
  | branch {os : List Open} {f : Frame} {fs : List Frame} {ls : List TaskTree} {d : DecisionHeader}
      {branches : Branches} {b : Branch} {done : List Outline}
      (outer : Agrees (.decision d branches :: os) fs ls) (free : branches.side? b = none)
      (kind : f.kind = .branch b) (seq : f.Sequential [] done) :
      Agrees (.branch b done :: .decision d branches :: os) (f :: fs) (layoutSerial [] done :: ls)
  | loop {os : List Open} {f : Frame} {fs : List Frame} {ls : List TaskTree} {pending : PendingLoop}
      {done : List Outline} (outer : Agrees os fs ls)
      (next : nextOf? fs = some pending.predecessors) (kind : f.kind = .loop pending)
      (seq : f.Sequential [] done) :
      Agrees (.loop pending.header done :: os) (f :: fs) (layoutSerial [] done :: ls)

namespace Agrees

variable {o : Open} {os : List Open} {f : Frame} {fs : List Frame} {l : TaskTree} {ls : List TaskTree}

theorem exists_level (h : Agrees os fs ls) : ∃ l rest, ls = l :: rest := by
  induction h with
  | decision _ _ _ _ ih => exact ih
  | _ => exact ⟨_, _, rfl⟩

theorem takes {entry : List String} (h : Agrees (o :: os) fs ls) (next : nextOf? fs = some entry) :
    o.isDecision = false := by
  cases h with
  | decision outer _ kind _ => simp [nextOf?, Frame.next?, kind] at next
  | _ => rfl

theorem innermost {os : List Open} {entry : List String} (h : Agrees os fs ls)
    (next : nextOf? fs = some entry) : ∃ o os' f fs' l ls', os = o :: os' ∧ fs = f :: fs' ∧
      ls = l :: ls' ∧ f.next? = some entry ∧ o.isDecision = false := by
  obtain ⟨l, ls', rfl⟩ := h.exists_level
  cases fs with
  | nil => simp [nextOf?] at next
  | cons f fs' =>
    cases os with
    | nil => cases h
    | cons o os' => exact ⟨o, os', f, fs', l, ls', rfl, rfl, rfl, next, h.takes next⟩

theorem add {entry : List String} (h : Agrees (o :: os) (f :: fs) (l :: ls))
    (next : f.next? = some entry) (m : Outline) :
    Agrees (o.add m :: os) (f.join m.exits :: fs) ((l ++ m.layout entry) :: ls) := by
  have flows : ∀ {entry' done}, f.Sequential entry' done → f.next? = some f.cursor →
      entry = Outline.after entry' (Outline.exitsSerial done) := by
    intro entry' done seq cursor
    rw [← seq.cursor]
    exact Option.some.inj (next.symm.trans cursor)
  have grown : ∀ {entry' done}, entry = Outline.after entry' (Outline.exitsSerial done) →
      Outline.layoutSerial entry' (done ++ [m]) =
        Outline.layoutSerial entry' done ++ m.layout entry := by
    intro entry' done same
    rw [Outline.layoutSerial_append, Outline.layoutSerial, Outline.layoutSerial, List.append_nil, same]
  cases h with
  | body kind seq =>
    rw [← grown (flows seq (by simp [Frame.next?, kind]))]
    exact .body (by rw [Frame.join_kind, kind]) (seq.join (by simp [kind]) m)
  | serial outer next' kind seq =>
    rw [List.append_assoc, ← grown (flows seq (by simp [Frame.next?, kind]))]
    exact .serial outer next' (by rw [Frame.join_kind, kind]) (seq.join (by simp [kind]) m)
  | @parallel _ _ _ l _ entry' done outer next' kind par =>
    have same : entry = entry' := by
      rw [← par.entry]
      exact Option.some.inj (next.symm.trans (by simp [Frame.next?, kind]))
    have grown : Outline.layoutParallel entry' (done ++ [m]) =
        Outline.layoutParallel entry' done ++ m.layout entry' := by
      rw [Outline.layoutParallel_append, Outline.layoutParallel, Outline.layoutParallel,
        List.append_nil]
    rw [same, List.append_assoc, ← grown]
    exact .parallel outer next' (by rw [Frame.join_kind, kind]) (par.join kind m)
  | decision outer _ kind _ => simp [Frame.next?, kind] at next
  | branch outer free kind seq =>
    rw [← grown (flows seq (by simp [Frame.next?, kind]))]
    exact .branch outer free (by rw [Frame.join_kind, kind]) (seq.join (by simp [kind]) m)
  | loop outer next' kind seq =>
    rw [← grown (flows seq (by simp [Frame.next?, kind]))]
    exact .loop outer next' (by rw [Frame.join_kind, kind]) (seq.join (by simp [kind]) m)

/-! ### The innermost scope by the kind of its frame -/

theorem of_serial (h : Agrees os (f :: fs) ls) (kind : f.kind = .serial) :
    ∃ done os' entry l ls', os = .serial done :: os' ∧
      ls = (l ++ Outline.layoutSerial entry done) :: ls' ∧ Agrees os' fs (l :: ls') ∧
      nextOf? fs = some entry ∧ f.Sequential entry done := by
  cases h with
  | serial outer next kind' seq => exact ⟨_, _, _, _, _, rfl, rfl, outer, next, seq⟩
  | body kind' | parallel _ _ kind' | decision _ _ kind' | branch _ _ kind' | loop _ _ kind' =>
    rw [kind] at kind'
    cases kind'

theorem of_parallel (h : Agrees os (f :: fs) ls) (kind : f.kind = .parallel) :
    ∃ done os' entry l ls', os = .parallel done :: os' ∧
      ls = (l ++ Outline.layoutParallel entry done) :: ls' ∧ Agrees os' fs (l :: ls') ∧
      nextOf? fs = some entry ∧ f.Concurrent entry done := by
  cases h with
  | parallel outer next kind' par => exact ⟨_, _, _, _, _, rfl, rfl, outer, next, par⟩
  | body kind' | serial _ _ kind' | decision _ _ kind' | branch _ _ kind' | loop _ _ kind' =>
    rw [kind] at kind'
    cases kind'

theorem of_decision {pending : PendingDecision} (h : Agrees os (f :: fs) ls)
    (kind : f.kind = .decision pending) : ∃ branches os',
      os = .decision pending.header branches :: os' ∧ Agrees os' fs ls ∧
      nextOf? fs = some pending.predecessors ∧
      ∀ b, pending.branch? b = (branches.side? b).map (Outline.layoutSerial []) := by
  cases h with
  | decision outer next kind' parts =>
    rw [kind] at kind'
    cases kind'
    exact ⟨_, _, rfl, outer, next, parts⟩
  | body kind' | serial _ _ kind' | parallel _ _ kind' | branch _ _ kind' | loop _ _ kind' =>
    rw [kind] at kind'
    cases kind'

theorem of_branch {b : Branch} (h : Agrees os (f :: fs) ls) (kind : f.kind = .branch b) :
    ∃ done d branches os' ls', os = .branch b done :: .decision d branches :: os' ∧
      ls = Outline.layoutSerial [] done :: ls' ∧ Agrees (.decision d branches :: os') fs ls' ∧
      branches.side? b = none := by
  cases h with
  | branch outer free kind' seq =>
    rw [kind] at kind'
    cases kind'
    exact ⟨_, _, _, _, _, rfl, rfl, outer, free⟩
  | body kind' | serial _ _ kind' | parallel _ _ kind' | decision _ _ kind' | loop _ _ kind' =>
    rw [kind] at kind'
    cases kind'

theorem of_loop {pending : PendingLoop} (h : Agrees os (f :: fs) ls)
    (kind : f.kind = .loop pending) : ∃ done os' ls', os = .loop pending.header done :: os' ∧
      ls = Outline.layoutSerial [] done :: ls' ∧ Agrees os' fs ls' ∧
      nextOf? fs = some pending.predecessors := by
  cases h with
  | loop outer next kind' seq =>
    rw [kind] at kind'
    cases kind'
    exact ⟨_, _, _, rfl, rfl, outer, next⟩
  | body kind' | serial _ _ kind' | parallel _ _ kind' | decision _ _ kind' | branch _ _ kind' =>
    rw [kind] at kind'
    cases kind'

theorem of_root (h : Agrees os (f :: fs) ls) (kind : f.kind = .root) :
    ∃ done, os = [.body done] ∧ fs = [] ∧ ls = [Outline.layoutSerial [] done] := by
  cases h with
  | body kind' seq => exact ⟨_, rfl, rfl, rfl⟩
  | serial _ _ kind' | parallel _ _ kind' | decision _ _ kind' | branch _ _ kind'
  | loop _ _ kind' =>
    rw [kind] at kind'
    cases kind'

end Agrees

end Blueprint
