import Blueprint.Proofs.Builder.Balance

/-!
# Refused calls

A step, a scope or a branch that is refused leaves the builder as it was, so that no later call can
tell that it was tried. There is one exception: a loop without a count is refused after its name was
taken. `refusal_unfelt` says what that changes: the name stays taken, and nothing else.
-/

namespace Blueprint.TaskBuilder

/-- The answers to a list of calls, one after the other. -/
def answers (b : TaskBuilder) : List (Call ScopeToken) → List (Except TaskFault (Option ScopeToken))
  | [] => []
  | c :: cs => (b.perform c).2 :: (b.perform c).1.answers cs

/-- These calls, with `finish` after them, cannot tell one builder from the other. -/
def Unfelt (b b' : TaskBuilder) (cs : List (Call ScopeToken)) : Prop :=
  b'.answers cs = b.answers cs ∧ (b'.run cs).finish = (b.run cs).finish

/-- A loop that is refused because it has no count. -/
def CountMissing (c : Call ScopeToken) (fault : TaskFault) (name : String) : Prop :=
  ∃ l, c = .openLoop l ∧ l.name = name ∧ fault = .noIterations name

variable {b b' : TaskBuilder} {c : Call ScopeToken} {fault : TaskFault} {name : String}

/-! ### What a refused call leaves -/

theorem CountMissing.unique {name' : String} (h : CountMissing c fault name')
    (other : CountMissing c fault name) : name' = name := by
  obtain ⟨_, -, -, rfl⟩ := h
  obtain ⟨_, -, -, same⟩ := other
  exact TaskFault.noIterations.inj same

/-- If this outcome is a refusal, the builder is as it was. -/
def Unmoved {α : Type} (b : TaskBuilder) (o : Outcome α) : Prop :=
  ∀ fault, o.2 = .error fault → o.1 = b

theorem unmoved_waiting {α : Type} {next : List String → Outcome α}
    (made : ∀ entry, Unmoved b (next entry)) : Unmoved b (b.waiting next) :=
  waiting_cases (fun _ _ _ _ => rfl) fun entry _ => made entry

theorem unmoved_naming {α : Type} {next : TaskBuilder → Outcome α}
    (made : ∀ b', Unmoved b (next b')) : Unmoved b (b.naming name next) :=
  naming_cases (fun _ _ _ _ => rfl) fun b' _ => made b'

theorem step_unmoved (s : Step) : Unmoved b (b.step s) :=
  unmoved_waiting fun _ => unmoved_naming fun _ => nofun

theorem openSerial_unmoved : Unmoved b b.openSerial := unmoved_waiting fun _ => nofun

theorem openParallel_unmoved : Unmoved b b.openParallel := unmoved_waiting fun _ => nofun

theorem openDecision_unmoved (d : DecisionHeader) : Unmoved b (b.openDecision d) :=
  unmoved_waiting fun _ => unmoved_naming fun _ => nofun

theorem openBranch_unmoved (side : Branch) : Unmoved b (b.openBranch side) := by
  unfold openBranch
  split
  · split
    · exact fun _ _ => rfl
    · exact nofun
  · exact fun _ _ => rfl

theorem nextPredecessors_counts (waits : b.nextPredecessors = .error fault) :
    fault ≠ .noIterations name := by
  rintro rfl
  unfold nextPredecessors at waits
  split at waits
  · cases waits
  · split at waits <;> cases waits

theorem reserve_counts {x : String} (named : b.reserve x = .error fault) :
    fault ≠ .noIterations name := by
  rintro rfl
  unfold reserve at named
  split at named
  · cases named
  · split at named <;> cases named

/-- The count of a loop is looked at when its name is taken. -/
theorem openLoop_refused {header : LoopHeader} (h : (b.openLoop header).2 = .error fault) :
    (fault ≠ .noIterations header.name ∧ (b.openLoop header).1 = b) ∨
      (fault = .noIterations header.name ∧ (∃ entry, b.nextPredecessors = .ok entry) ∧
        header.name ∉ b.names ∧ Text.blankText header.name = false ∧
        (b.openLoop header).1 = { b with names := header.name :: b.names }) := by
  unfold openLoop at h ⊢
  cases waits : b.nextPredecessors with
  | error f =>
    rw [waiting_error _ waits] at h ⊢
    obtain rfl := Except.error.inj h
    exact .inl ⟨nextPredecessors_counts waits, rfl⟩
  | ok entry =>
    rw [waiting_ok _ waits] at h ⊢
    cases named : b.reserve header.name with
    | error f =>
      rw [naming_error _ named] at h ⊢
      obtain rfl := Except.error.inj h
      exact .inl ⟨reserve_counts named, rfl⟩
    | ok b' =>
      rw [naming_ok _ named] at h ⊢
      obtain ⟨fresh, rfl⟩ := reserve_ok named
      split at h
      · rename_i blank
        obtain rfl := Except.error.inj h
        refine .inr ⟨rfl, ⟨_, rfl⟩, fresh, ?_, by rw [if_pos blank]⟩
        by_contra unnamed
        rw [reserve, if_pos (by simpa using unnamed)] at named
        cases named
      · cases h

/-- But for `close`, whose failure drops a scope, a refused call keeps at most a name. -/
theorem perform_refused (opens : ∀ t, c ≠ .close t) (refused : (b.perform c).2 = .error fault) :
    (¬(∃ name, CountMissing c fault name) ∧ (b.perform c).1 = b) ∨
      ∃ name, CountMissing c fault name ∧ (∃ entry, b.nextPredecessors = .ok entry) ∧
        name ∉ b.names ∧ Text.blankText name = false ∧
        (b.perform c).1 = { b with names := name :: b.names } := by
  cases c with
  | step s =>
    refine .inl ⟨?_, step_unmoved s _ (map_error refused)⟩
    rintro ⟨_, _, ⟨⟩, _⟩
  | openSerial =>
    refine .inl ⟨?_, openSerial_unmoved _ (map_error refused)⟩
    rintro ⟨_, _, ⟨⟩, _⟩
  | openParallel =>
    refine .inl ⟨?_, openParallel_unmoved _ (map_error refused)⟩
    rintro ⟨_, _, ⟨⟩, _⟩
  | openDecision d =>
    refine .inl ⟨?_, openDecision_unmoved d _ (map_error refused)⟩
    rintro ⟨_, _, ⟨⟩, _⟩
  | openBranch side =>
    refine .inl ⟨?_, openBranch_unmoved side _ (map_error refused)⟩
    rintro ⟨_, _, ⟨⟩, _⟩
  | openLoop l =>
    rcases openLoop_refused (map_error refused) with ⟨other, same⟩ | ⟨rfl, waits, fresh, named, same⟩
    · refine .inl ⟨?_, same⟩
      rintro ⟨_, _, ⟨⟩, rfl, missing⟩
      exact other missing
    · exact .inr ⟨l.name, ⟨l, rfl, rfl, rfl⟩, waits, fresh, named, same⟩
  | close t => exact (opens t rfl).elim

/-! ### Builders that differ in their names -/

def withNames (b : TaskBuilder) (names : List String) : TaskBuilder := { b with names }

theorem recordMember_withNames (b : TaskBuilder) (names outflow : List String) :
    (b.withNames names).recordMember outflow = (b.recordMember outflow).withNames names := by
  obtain ⟨id, action, nextSeq, frames, levels, _⟩ := b
  cases frames <;> rfl

theorem place_withNames (b : TaskBuilder) (names : List String) (n : TaskNode) :
    (b.withNames names).place n = (b.place n).withNames names := by
  obtain ⟨id, action, nextSeq, frames, levels, taken⟩ := b
  cases levels <;> exact recordMember_withNames ⟨id, action, nextSeq, frames, _, taken⟩ names _

theorem popLevel_withNames (b : TaskBuilder) (names : List String) :
    (b.withNames names).popLevel = (b.popLevel.1, b.popLevel.2.withNames names) := by
  obtain ⟨id, action, nextSeq, frames, levels, _⟩ := b
  cases levels <;> rfl

theorem fillBranch_withNames (b : TaskBuilder) (names : List String) (side : Branch) (t : TaskTree) :
    (b.withNames names).fillBranch side t =
      ((b.fillBranch side t).1.withNames names, (b.fillBranch side t).2) := by
  obtain ⟨id, action, nextSeq, frames, levels, _⟩ := b
  cases frames with
  | nil => rfl
  | cons f fs =>
    obtain ⟨seq, kind, entry, cursor, exits, members⟩ := f
    cases kind <;> rfl

theorem closeFrame_withNames (b : TaskBuilder) (names : List String) (f : Frame) :
    (b.withNames names).closeFrame f =
      ((b.closeFrame f).1.withNames names, (b.closeFrame f).2) := by
  unfold closeFrame
  cases f.kind with
  | root => rfl
  | serial | parallel =>
    dsimp only
    split
    · rw [recordMember_withNames]
    · rfl
  | branch side =>
    dsimp only
    rw [popLevel_withNames, fillBranch_withNames]
  | decision d =>
    dsimp only
    split
    · rw [place_withNames]
    · rfl
    · rfl
  | loop l =>
    dsimp only
    rw [popLevel_withNames]
    dsimp only
    split
    · rfl
    · rw [place_withNames]

theorem close_withNames (b : TaskBuilder) (names : List String) (t : ScopeToken) :
    (b.withNames names).close t = ((b.close t).1.withNames names, (b.close t).2) := by
  obtain ⟨id, action, nextSeq, frames, levels, taken⟩ := b
  by_cases mine : t.builder = id
  · rcases frames with - | ⟨f, - | ⟨g, gs⟩⟩
    · simp [close, withNames, mine]
    · simp [close, withNames, mine]
    · by_cases same : f.seq = t.seq
      · simpa [close, withNames, mine, same] using
          closeFrame_withNames ⟨id, action, nextSeq, g :: gs, levels, taken⟩ names f
      · simp [close, withNames, mine, same]
  · simp [close, withNames, mine]

theorem reserve_withNames {names : List String} (same : name ∈ names ↔ name ∈ b.names) :
    (b.withNames names).reserve name = (b.reserve name).map (·.withNames (name :: names)) := by
  have known : names.contains name = b.names.contains name := by
    rw [List.contains_eq_mem, List.contains_eq_mem, decide_eq_decide]
    exact same
  unfold reserve
  rw [show (b.withNames names).names = names from rfl, known]
  split
  · rfl
  · split <;> rfl

/-- Of two outcomes of a call, the second is the first as it is when the taken names are `names`. -/
def SameOutcome {α : Type} (b : TaskBuilder) (names : List String)
    (outcome outcome' : Outcome α) : Prop :=
  ∃ added, outcome.1.names = added ++ b.names ∧
    outcome' = (outcome.1.withNames (added ++ names), outcome.2)

variable {names : List String}

theorem SameOutcome.refused {α : Type} (fault : TaskFault) :
    SameOutcome (α := α) b names (b, .error fault) (b.withNames names, .error fault) :=
  ⟨[], rfl, rfl⟩

theorem SameOutcome.opened {α : Type} {token : α → Option ScopeToken} {outcome outcome' : Outcome α}
    (h : SameOutcome b names outcome outcome') :
    SameOutcome b names (perform.opened token outcome) (perform.opened token outcome') := by
  obtain ⟨added, taken, rfl⟩ := h
  exact ⟨added, taken, rfl⟩

theorem SameOutcome.waiting {α : Type} {next next' : List String → Outcome α}
    (made : ∀ entry, SameOutcome b names (next entry) (next' entry)) :
    SameOutcome b names (b.waiting next) ((b.withNames names).waiting next') := by
  have same : (b.withNames names).nextPredecessors = b.nextPredecessors := rfl
  cases waits : b.nextPredecessors with
  | error fault =>
    rw [waiting_error _ waits, waiting_error _ (same.trans waits)]
    exact .refused fault
  | ok entry =>
    rw [waiting_ok _ waits, waiting_ok _ (same.trans waits)]
    exact made entry

/-- Once the name is taken, it does not matter which other names are. -/
theorem SameOutcome.naming {α : Type} {next next' : TaskBuilder → Outcome α}
    (same : name ∈ names ↔ name ∈ b.names)
    (made : SameOutcome b names (next { b with names := name :: b.names })
      (next' (b.withNames (name :: names)))) :
    SameOutcome b names (b.naming name next) ((b.withNames names).naming name next') := by
  have others := reserve_withNames same
  cases named : b.reserve name with
  | error fault =>
    rw [named] at others
    rw [naming_error _ named, naming_error _ others]
    exact .refused fault
  | ok b' =>
    obtain ⟨-, rfl⟩ := reserve_ok named
    rw [named] at others
    rw [naming_ok _ named, naming_ok _ others]
    exact made

/-- A call answers alike whatever other names are taken, and takes the same names. -/
theorem perform_withNames (same : ∀ x, c.declares? = some x → (x ∈ names ↔ x ∈ b.names)) :
    SameOutcome b names (b.perform c) ((b.withNames names).perform c) := by
  cases c with
  | step s =>
    refine .opened (.waiting fun entry => .naming (same _ rfl) ⟨[s.name], ?_, ?_⟩)
    · exact congrArg Ledger.names (ledger_place _ _)
    · exact congrArg (fun b' => (b', Except.ok ()))
        (place_withNames { b with names := s.name :: b.names } (s.name :: names) _)
  | openSerial | openParallel => exact .opened (.waiting fun entry => ⟨[], rfl, rfl⟩)
  | openDecision d =>
    exact .opened (.waiting fun entry => .naming (same _ rfl) ⟨[d.name], rfl, rfl⟩)
  | openBranch side =>
    refine .opened ?_
    obtain ⟨id, action, nextSeq, frames, levels, taken⟩ := b
    unfold openBranch
    dsimp only [withNames]
    split
    · split
      · exact .refused _
      · exact ⟨[], rfl, rfl⟩
    · exact .refused _
  | openLoop l =>
    refine .opened (.waiting fun entry => .naming (same _ rfl) ⟨[l.name], ?_⟩)
    split
    · exact ⟨rfl, rfl⟩
    · exact ⟨rfl, rfl⟩
  | close t =>
    refine .opened ⟨[], ?_, close_withNames b names t⟩
    obtain ⟨l, takes, moves⟩ := close_books (b := b) t
    cases takes with
    | nothing => exact moves.names
    | name declares => cases declares

/-! ### Later calls -/

theorem finish_withNames (b : TaskBuilder) (names : List String) :
    (b.withNames names).finish = b.finish := by
  obtain ⟨id, action, nextSeq, frames, levels, taken⟩ := b
  cases levels <;> rfl

/-- Nobody sees which names are taken but a call that declares one. -/
theorem unfelt_withNames (cs : List (Call ScopeToken))
    (same : ∀ c ∈ cs, ∀ x, c.declares? = some x → (x ∈ names ↔ x ∈ b.names)) :
    Unfelt b (b.withNames names) cs := by
  induction cs generalizing b names with
  | nil => exact ⟨rfl, finish_withNames b names⟩
  | cons c cs ih =>
    obtain ⟨added, taken, after⟩ := perform_withNames (same c List.mem_cons_self)
    have later : ∀ c' ∈ cs, ∀ x, c'.declares? = some x →
        (x ∈ added ++ names ↔ x ∈ (b.perform c).1.names) := by
      intro c' mem x declares
      rw [taken, List.mem_append, List.mem_append,
        same c' (List.mem_cons_of_mem c mem) x declares]
    obtain ⟨answers, finish⟩ := ih later
    constructor
    · rw [TaskBuilder.answers, TaskBuilder.answers, after]
      exact congrArg _ answers
    · rw [run, run, after]
      exact finish

theorem taken_perform (taken : name ∈ b.names) : name ∈ (b.perform c).1.names := by
  obtain ⟨l, takes, moves⟩ := perform_books b c
  have kept : (b.perform c).1.names = l.names := moves.names
  rw [kept]
  cases takes with
  | nothing => exact taken
  | name _ _ _ => exact List.mem_cons_of_mem _ taken

theorem taken_run (cs : List (Call ScopeToken)) (taken : name ∈ b.names) :
    name ∈ (b.run cs).names := by
  induction cs generalizing b with
  | nil => exact taken
  | cons c cs ih => exact ih (taken_perform taken)

theorem naming_taken {α : Type} {next : List String → TaskBuilder → Outcome α}
    (taken : name ∈ b.names) :
    ∃ fault, (b.waiting fun entry => b.naming name (next entry)).2 = .error fault := by
  refine waiting_cases (motive := fun o => ∃ fault, o.2 = .error fault)
    (fun fault _ => ⟨fault, rfl⟩) fun entry _ => ?_
  refine naming_cases (motive := fun o => ∃ fault, o.2 = .error fault)
    (fun fault _ => ⟨fault, rfl⟩) fun b' named => ?_
  exact ((reserve_ok named).1 taken).elim

/-- A name is given out once. -/
theorem perform_taken (declares : c.declares? = some name) (taken : name ∈ b.names) :
    ∃ fault, (b.perform c).2 = .error fault := by
  cases c with
  | step | openDecision | openLoop =>
    obtain rfl := Option.some.inj declares
    obtain ⟨fault, refused⟩ := naming_taken taken
    exact ⟨fault, congrArg (Except.map _) refused⟩
  | openSerial | openParallel | openBranch | close => cases declares

/-! ### The effect of a refusal -/

/-- What differs after a refused call that kept a name: no later task can have it. -/
structure KeepsName (b b' : TaskBuilder) (name : String) : Prop where
  fresh : name ∉ b.names
  kept : b' = { b with names := name :: b.names }
  unfelt : ∀ cs : List (Call ScopeToken), (∀ c ∈ cs, c.declares? ≠ some name) → Unfelt b b' cs
  lost : ∀ (cs : List (Call ScopeToken)) c, c.declares? = some name →
    ∃ fault, ((b'.run cs).perform c).2 = .error fault

theorem keepsName (fresh : name ∉ b.names) :
    KeepsName b { b with names := name :: b.names } name where
  fresh := fresh
  kept := rfl
  unfelt := by
    intro cs others
    refine unfelt_withNames cs fun c mem x declares => ?_
    have other : x ≠ name := by
      rintro rfl
      exact others c mem declares
    rw [List.mem_cons, or_iff_right other]
  lost := fun cs _ declares => perform_taken declares (taken_run cs List.mem_cons_self)

/-- A name that is free would have been given to a step. -/
theorem felt_of_kept (waits : ∃ entry, b.nextPredecessors = .ok entry) (fresh : name ∉ b.names)
    (named : Text.blankText name = false) :
    ∃ cs, ¬Unfelt b { b with names := name :: b.names } cs := by
  let c : Call ScopeToken := .step { name, work := .delay 0 }
  refine ⟨[c], ?_⟩
  rintro ⟨answers, -⟩
  have same := (List.cons.inj answers).1
  obtain ⟨fault, refused⟩ := (keepsName fresh).lost [] c rfl
  obtain ⟨entry, waits⟩ := waits
  have accepted : (b.perform c).2 = .ok none := by
    change (b.step _).2.map _ = _
    rw [step, waiting_ok _ waits, naming_ok _ (reserve_eq fresh named)]
    rfl
  rw [accepted] at same
  cases refused.symm.trans same

theorem refusal_unfelt (opens : ∀ t, c ≠ .close t) (refused : (b.perform c).2 = .error fault) :
    ((∀ cs, Unfelt b (b.perform c).1 cs) ↔ ¬∃ name, CountMissing c fault name) ∧
      ((¬∃ name, CountMissing c fault name) → (b.perform c).1 = b) ∧
      ∀ name, CountMissing c fault name → KeepsName b (b.perform c).1 name := by
  rcases perform_refused opens refused with ⟨counted, same⟩ | ⟨name, missing, waits, fresh, named, same⟩
  · rw [same]
    exact ⟨⟨fun _ => counted, fun _ _ => ⟨rfl, rfl⟩⟩, fun _ => rfl,
      fun name missing => (counted ⟨name, missing⟩).elim⟩
  · rw [same]
    refine ⟨⟨fun unfelt => ?_, fun counted => (counted ⟨name, missing⟩).elim⟩,
      fun counted => (counted ⟨name, missing⟩).elim, ?_⟩
    · obtain ⟨cs, felt⟩ := felt_of_kept waits fresh named
      exact (felt (unfelt cs)).elim
    · intro name' missing'
      obtain rfl := missing'.unique missing
      exact keepsName fresh

/-- A loop without a count takes its name all the same; a step that is there already leaves nothing. -/
theorem refusal_unfelt_uncounted :
    let b := new 0 "act"
    let loop := Call.openLoop { name := "again", iterations := " " }
    let again := Call.step { name := "again", work := .delay 1 }
    ((b.perform loop).2 = .error (.noIterations "again") ∧
        KeepsName b (b.perform loop).1 "again") ∧
      ((b.run [again]).perform again).2 = .error (.duplicateName "again") ∧
        ∀ cs, Unfelt (b.run [again]) ((b.run [again]).perform again).1 cs := by
  intro b loop again
  have uncounted : (b.perform loop).2 = .error (.noIterations "again") := by rfl
  have twice : ((b.run [again]).perform again).2 = .error (.duplicateName "again") := by rfl
  obtain ⟨-, -, keeps⟩ := refusal_unfelt (fun t => by simp [loop]) uncounted
  obtain ⟨unfelt, -, -⟩ := refusal_unfelt (fun t => by simp [again]) twice
  refine ⟨⟨uncounted, keeps _ ⟨_, rfl, rfl, rfl⟩⟩, twice, unfelt.mpr ?_⟩
  simp [CountMissing, again]

/-- Not every refusal leaves the builder as it was. -/
theorem refusal_felt :
    ¬∀ id action (calls : List (Call ScopeToken)) c fault, (∀ t, c ≠ .close t) →
      (((new id action).run calls).perform c).2 = .error fault →
      ∀ cs, Unfelt ((new id action).run calls) (((new id action).run calls).perform c).1 cs := by
  intro unfelt
  have refused : ((new 0 "act").perform (.openLoop { name := "again", iterations := " " })).2 =
      .error (.noIterations "again") := by rfl
  have same := (unfelt 0 "act" [] _ _ (fun t => by simp) refused
    [.step { name := "again", work := .delay 1 }]).1
  cases same

end Blueprint.TaskBuilder
