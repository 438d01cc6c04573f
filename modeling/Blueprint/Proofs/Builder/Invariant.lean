import Blueprint.Proofs.Builder.Stack

/-!
# The builder invariant

After any run, whatever calls were refused, the frames and levels of a builder are those of a stack
of outlines whose names differ. `perform_keeps` is the step, `run_inv` and `accepted_inv` the runs.
-/

namespace Blueprint.TaskBuilder

open Open (written taken)

/-- A builder whose open scopes hold these outlines. -/
structure Inv (os : List Open) (b : TaskBuilder) : Prop where
  agrees : Agrees os b.frames b.levels
  distinct : (taken os).Nodup
  known : ∀ x ∈ taken os, x ∈ b.names

/-- What is written once a call got its answer: a refused call writes nothing, but may drop a scope. -/
def Writes (os os' : List Open) (c : Call Unit) {α : Type} : Except TaskFault α → Prop
  | .ok _ => written os' = written os ++ [c]
  | .error _ => (written os').Sublist (written os)

def Keeps {α : Type} (os : List Open) (c : Call Unit) (outcome : Outcome α) : Prop :=
  ∃ os', Inv os' outcome.1 ∧ Writes os os' c outcome.2

variable {os : List Open} {b : TaskBuilder}

theorem keeps_refused {α : Type} {c : Call Unit} {fault : TaskFault} (h : Inv os b) :
    Keeps (α := α) os c (b, .error fault) :=
  ⟨os, h, List.Sublist.refl _⟩

/-- A call that waits writes nothing if it is refused. -/
theorem keeps_waiting {α : Type} {c : Call Unit} {next : List String → Outcome α} (h : Inv os b)
    (made : ∀ entry, b.nextPredecessors = .ok entry → Keeps os c (next entry)) :
    Keeps os c (b.waiting next) :=
  waiting_cases (fun _ _ => keeps_refused h) made

theorem keeps_naming {α : Type} {c : Call Unit} {name : String} {next : TaskBuilder → Outcome α}
    (h : Inv os b) (made : ∀ b', b.reserve name = .ok b' → Keeps os c (next b')) :
    Keeps os c (b.naming name next) :=
  naming_cases (fun _ _ => keeps_refused h) made

/-! ### What the parts of a call do -/

theorem nextOf?_of_nextPredecessors {entry : List String} (h : b.nextPredecessors = .ok entry) :
    nextOf? b.frames = some entry := by
  unfold nextPredecessors at h
  cases frames : b.frames with
  | nil => simp [frames] at h
  | cons f fs =>
    simp only [frames] at h
    cases kind : f.kind <;> simp_all [nextOf?, Frame.next?]

theorem reserve_ok {name : String} {b' : TaskBuilder} (h : b.reserve name = .ok b') :
    name ∉ b.names ∧ b' = { b with names := name :: b.names } := by
  unfold reserve at h
  split at h
  · cases h
  · split at h
    · cases h
    · rename_i fresh
      exact ⟨by simpa using fresh, (Except.ok.inj h).symm⟩

theorem reserve_eq {name : String} (fresh : name ∉ b.names) (named : Text.blankText name = false) :
    b.reserve name = .ok { b with names := name :: b.names } := by
  unfold reserve
  rw [if_neg (by simp [named]), if_neg (by simpa using fresh)]

theorem recordMember_eq {f : Frame} {fs : List Frame} (frames : b.frames = f :: fs)
    (outflow : List String) : b.recordMember outflow = { b with frames := f.record outflow :: fs } := by
  unfold recordMember
  rw [frames]
  cases kind : f.kind <;> simp [Frame.record, kind]

theorem place_eq {f : Frame} {fs : List Frame} {l : TaskTree} {ls : List TaskTree}
    (frames : b.frames = f :: fs) (levels : b.levels = l :: ls) (n : TaskNode) :
    b.place n = { b with frames := f.record [n.name] :: fs, levels := (l ++ [n]) :: ls } := by
  unfold place
  simp only [levels]
  exact recordMember_eq (b := { b with levels := (l ++ [n]) :: ls }) frames [n.name]

theorem Inv.add {o : Open} {os : List Open} {f : Frame} {fs : List Frame} {l : TaskTree}
    {ls : List TaskTree} {entry : List String} (agrees : Agrees (o :: os) (f :: fs) (l :: ls))
    (next : f.next? = some entry) (m : Outline) (distinct : (taken (o :: os) ++ m.allNames).Nodup)
    (known : ∀ x ∈ taken (o :: os) ++ m.allNames, x ∈ b.names)
    (frames : b.frames = f.join m.exits :: fs) (levels : b.levels = (l ++ m.layout entry) :: ls) :
    Inv (o.add m :: os) b := by
  have same : taken (o.add m :: os) = taken (o :: os) ++ m.allNames := by
    rw [taken, taken, Open.allNames_add (agrees.takes next), List.append_assoc]
  refine ⟨?_, by rw [same]; exact distinct, by rw [same]; exact known⟩
  rw [frames, levels]
  exact agrees.add next m

theorem Inv.place {entry : List String} {m : Outline} {n : TaskNode}
    (agrees : Agrees os b.frames b.levels) (next : nextOf? b.frames = some entry)
    (node : m.layout entry = [n]) (exits : m.exits = [n.name])
    (distinct : (taken os ++ m.allNames).Nodup) (known : ∀ x ∈ taken os ++ m.allNames, x ∈ b.names) :
    ∃ os', Inv os' (b.place n) ∧ written os' = written os ++ m.script := by
  obtain ⟨o, os', f, fs, l, ls, rfl, frames, levels, next, takes⟩ := agrees.innermost next
  rw [frames, levels] at agrees
  refine ⟨o.add m :: os', ?_, ?_⟩
  · rw [place_eq frames levels]
    exact Inv.add agrees next m distinct known (by rw [exits]; rfl) (by rw [node])
  · rw [written, written, Open.script_add takes, List.append_assoc]

theorem nodup_concat {names : List String} {x : String} (distinct : names.Nodup)
    (fresh : x ∉ names) : (names ++ [x]).Nodup := by
  rw [List.nodup_append]
  refine ⟨distinct, by simp, fun y mem z single same => ?_⟩
  rw [same, List.mem_singleton.mp single] at mem
  exact fresh mem

theorem known_concat {names known : List String} {x : String} (h : ∀ y ∈ names, y ∈ known) :
    ∀ y ∈ names ++ [x], y ∈ x :: known := by
  intro y mem
  rcases List.mem_append.mp mem with mem | mem
  · exact List.mem_cons_of_mem _ (h y mem)
  · exact List.mem_singleton.mp mem ▸ List.mem_cons_self

theorem Inv.opened {o : Open} {b' : TaskBuilder} (h : Inv os b) (empty : o.allNames = [])
    (names : b'.names = b.names) (agrees : Agrees (o :: os) b'.frames b'.levels) :
    Inv (o :: os) b' := by
  have same : taken (o :: os) = taken os := by rw [taken, empty, List.append_nil]
  refine ⟨agrees, by rw [same]; exact h.distinct, ?_⟩
  rw [same, names]
  exact h.known

/-! ### Calls that place or open -/

theorem step_keeps (h : Inv os b) (s : Step) : Keeps os (.step s) (b.step s) := by
  refine keeps_waiting h fun entry waits => keeps_naming h fun b' named => ?_
  obtain ⟨fresh, rfl⟩ := reserve_ok named
  exact Inv.place (b := { b with names := s.name :: b.names }) (m := .step s) h.agrees
    (nextOf?_of_nextPredecessors waits) rfl rfl
    (nodup_concat h.distinct fun mem => fresh (h.known _ mem)) (known_concat h.known)

theorem openSerial_keeps (h : Inv os b) : Keeps os .openSerial b.openSerial := by
  refine keeps_waiting h fun entry waits => ?_
  obtain ⟨l, ls, levels⟩ := h.agrees.exists_level
  have outer := levels ▸ h.agrees
  have inner := outer.serial (nextOf?_of_nextPredecessors waits) rfl
    (Frame.sequential_nil b.nextSeq .serial entry)
  rw [Outline.layoutSerial, List.append_nil, ← levels] at inner
  exact ⟨.serial [] :: os, h.opened rfl rfl inner, rfl⟩

theorem openParallel_keeps (h : Inv os b) : Keeps os .openParallel b.openParallel := by
  refine keeps_waiting h fun entry waits => ?_
  obtain ⟨l, ls, levels⟩ := h.agrees.exists_level
  have outer := levels ▸ h.agrees
  have inner := outer.parallel (nextOf?_of_nextPredecessors waits) rfl
    (Frame.concurrent_nil b.nextSeq .parallel entry)
  rw [Outline.layoutParallel, List.append_nil, ← levels] at inner
  exact ⟨.parallel [] :: os, h.opened rfl rfl inner, rfl⟩

theorem openDecision_keeps (h : Inv os b) (d : DecisionHeader) :
    Keeps os (.openDecision d) (b.openDecision d) := by
  refine keeps_waiting h fun entry waits => keeps_naming h fun b' named => ?_
  obtain ⟨fresh, rfl⟩ := reserve_ok named
  have parts : ∀ side, PendingDecision.branch? ⟨d, entry, none, none⟩ side =
      (Branches.none.side? side).map (Outline.layoutSerial []) := by
    intro side
    cases side <;> rfl
  have inner := h.agrees.decision (f := ⟨b.nextSeq, .decision ⟨d, entry, none, none⟩, [], [], [], 0⟩)
    (nextOf?_of_nextPredecessors waits) rfl parts
  exact ⟨.decision d .none :: os, ⟨inner, nodup_concat h.distinct fun mem => fresh (h.known _ mem),
    known_concat h.known⟩, rfl⟩

theorem openBranch_keeps (h : Inv os b) (side : Branch) :
    Keeps os (.openBranch side) (b.openBranch side) := by
  unfold openBranch
  split
  · rename_i f d fs frames
    split
    · exact keeps_refused h
    · rename_i open_
      obtain ⟨branches, os', rfl, -, -, parts⟩ := (frames ▸ h.agrees).of_decision rfl
      have free : branches.side? side = none := by simpa [parts side] using open_
      have inner := h.agrees.branch free rfl (Frame.sequential_nil b.nextSeq (.branch side) [])
      exact ⟨.branch side [] :: _, h.opened rfl rfl inner, rfl⟩
  · exact keeps_refused h

/-- A loop without a count keeps its name, which changes no open scope. -/
theorem openLoop_keeps (h : Inv os b) (header : LoopHeader) :
    Keeps os (.openLoop header) (b.openLoop header) := by
  refine keeps_waiting h fun entry waits => keeps_naming h fun b' named => ?_
  obtain ⟨fresh, rfl⟩ := reserve_ok named
  split
  · exact keeps_refused ⟨h.agrees, h.distinct, fun x mem => List.mem_cons_of_mem _ (h.known x mem)⟩
  · have inner := h.agrees.loop (nextOf?_of_nextPredecessors waits) rfl
      (Frame.sequential_nil b.nextSeq (.loop ⟨header, entry⟩) [])
    exact ⟨.loop header [] :: os, ⟨inner, nodup_concat h.distinct fun mem => fresh (h.known _ mem),
      known_concat h.known⟩, rfl⟩

/-! ### Closing -/

/-- A finished scope counts as one member if it has a task, and as none otherwise. -/
theorem recordMember_join {f g : Frame} {gs : List Frame} {outflow exits : List String}
    (frames : b.frames = g :: gs) (members : 0 < f.members ↔ exits ≠ [])
    (same : exits ≠ [] → outflow = exits) :
    (if 0 < f.members then b.recordMember outflow else b) =
      { b with frames := g.join exits :: gs } := by
  cases exits with
  | nil =>
    rw [if_neg (by simpa using members), Frame.join, ← frames]
  | cons x xs =>
    rw [if_pos (by simpa using members), same (by simp), recordMember_eq frames, Frame.join]

theorem Inv.close {inner : Open} {f : Frame} {fs : List Frame} {l : TaskTree} {ls : List TaskTree}
    {entry outflow : List String} {m : Outline} (h : Inv (inner :: os) b)
    (outer : Agrees os fs (l :: ls)) (next : nextOf? fs = some entry)
    (levels : b.levels = (l ++ m.layout entry) :: ls) (names : m.allNames = inner.allNames)
    (script : m.script = inner.script ++ [.close ()]) (members : 0 < f.members ↔ m.exits ≠ [])
    (same : m.exits ≠ [] → outflow = m.exits) :
    Keeps (inner :: os) (.close ())
      (if 0 < f.members then recordMember { b with frames := fs } outflow else { b with frames := fs },
        .ok ()) := by
  obtain ⟨o, os', g, gs, l', ls', rfl, rfl, ⟨⟩, waits, takes⟩ := outer.innermost next
  rw [recordMember_join (b := { b with frames := g :: gs }) rfl members same]
  have same : taken (o :: os') ++ m.allNames = taken (inner :: o :: os') := by rw [names]; rfl
  refine ⟨o.add m :: os', Inv.add outer waits m ?_ ?_ rfl levels, ?_⟩
  · rw [same]
    exact h.distinct
  · rw [same]
    exact h.known
  · simp only [Writes, written, Open.script_add takes, script, List.append_assoc]

theorem Inv.dropped {inner : Open} {b' : TaskBuilder} (h : Inv (inner :: os) b)
    (names : b'.names = b.names) (agrees : Agrees os b'.frames b'.levels) : Inv os b' :=
  ⟨agrees, h.distinct.sublist (List.sublist_append_left _ _),
    fun x mem => names ▸ h.known x (List.mem_append_left _ mem)⟩

theorem fillBranch_keeps {side : Branch} {done : List Outline} {d : DecisionHeader}
    {branches : Branches} {fs : List Frame} {ls : List TaskTree}
    (h : Inv (.branch side done :: .decision d branches :: os) b)
    (outer : Agrees (.decision d branches :: os) fs ls) (free : branches.side? side = none) :
    Keeps (.branch side done :: .decision d branches :: os) (.close ())
      (fillBranch { b with frames := fs, levels := ls } side (Outline.layoutSerial [] done)) := by
  cases outer with
  | @decision _ g gs _ pending _ outer next kind parts =>
    simp only [fillBranch, kind]
    have parts : ∀ c, (pending.setBranch (Outline.layoutSerial [] done) side).branch? c =
        ((branches.fill done side).side? c).map (Outline.layoutSerial []) := by
      intro c
      rw [Branches.side?_fill free]
      by_cases same : side = c
      · subst same
        cases side <;> simp [PendingDecision.branch?, PendingDecision.setBranch]
      · rw [if_neg same, ← parts c]
        cases side <;> cases c <;> first | rfl | exact (same rfl).elim
    have filled := outer.decision (f := { g with
        kind := .decision (pending.setBranch (Outline.layoutSerial [] done) side) })
      (by cases side <;> exact next) rfl parts
    have header : (pending.setBranch (Outline.layoutSerial [] done) side).header = pending.header := by
      cases side <;> rfl
    rw [header] at filled
    have perm : (taken (.decision pending.header (branches.fill done side) :: os)).Perm
        (taken (.branch side done :: .decision pending.header branches :: os)) := by
      simp only [taken, Open.allNames, List.append_assoc, List.cons_append]
      exact ((Branches.allNames_fill free done).cons _).append_left _
    refine ⟨_, ⟨filled, perm.nodup_iff.mpr h.distinct, fun x mem => ?_⟩, ?_⟩
    · exact h.known x (perm.subset mem)
    · simp [Writes, written, Open.script, Branches.script_fill free]

theorem closeFrame_keeps {f : Frame} {fs : List Frame} (h : Inv os b) (frames : b.frames = f :: fs)
    (inner : f.kind ≠ .root) : Keeps os (.close ()) (closeFrame { b with frames := fs } f) := by
  have agrees := frames ▸ h.agrees
  unfold closeFrame
  split
  · rename_i kind
    exact (inner kind).elim
  · rename_i kind
    obtain ⟨done, os', entry, l, ls, rfl, levels, outer, next, seq⟩ := agrees.of_serial kind
    refine h.close (m := .serial done) outer next levels rfl rfl seq.members fun some => ?_
    rw [seq.cursor]
    cases exits : Outline.exitsSerial done with
    | nil => exact (some exits).elim
    | cons x xs => exact exits.symm
  · rename_i kind
    obtain ⟨done, os', entry, l, ls, rfl, levels, outer, next, par⟩ := agrees.of_parallel kind
    exact h.close (m := .parallel done) outer next levels rfl rfl par.members fun _ => par.exits
  · rename_i side kind
    obtain ⟨done, d, branches, os', ls, rfl, levels, outer, free⟩ := agrees.of_branch kind
    simp only [popLevel, levels]
    exact fillBranch_keeps h outer free
  · rename_i pending kind
    obtain ⟨branches, os', rfl, outer, next, parts⟩ := agrees.of_decision kind
    have success := parts .success
    have failure := parts .failure
    simp only [PendingDecision.branch?] at success failure
    -- Without both branches the scope is gone, and only its name stays taken.
    split
    · rename_i s f hs hf
      obtain ⟨s', side, rfl⟩ := Option.map_eq_some_iff.mp (success.symm.trans hs)
      obtain ⟨f', side', rfl⟩ := Option.map_eq_some_iff.mp (failure.symm.trans hf)
      obtain ⟨first, rfl⟩ := Branches.eq_both side side'
      obtain ⟨os'', inv, wrote⟩ := Inv.place (b := { b with frames := fs })
        (m := .decision pending.header first s' f') outer next rfl rfl h.distinct h.known
      refine ⟨os'', inv, ?_⟩
      cases first <;>
        simp [Writes, wrote, written, Open.script, Branches.script, Outline.script]
    · exact ⟨os', h.dropped rfl outer, List.sublist_append_left _ _⟩
    · exact ⟨os', h.dropped rfl outer, List.sublist_append_left _ _⟩
  · rename_i pending kind
    obtain ⟨done, os', ls, rfl, levels, outer, next⟩ := agrees.of_loop kind
    simp only [popLevel, levels]
    split
    · exact ⟨os', h.dropped rfl outer, List.sublist_append_left _ _⟩
    · obtain ⟨os'', inv, wrote⟩ := Inv.place (b := { b with frames := fs, levels := ls })
        (m := .loop pending.header done) outer next rfl rfl h.distinct h.known
      refine ⟨os'', inv, ?_⟩
      simp [Writes, wrote, written, Open.script, Outline.script]

theorem close_keeps (h : Inv os b) (token : ScopeToken) : Keeps os (.close ()) (b.close token) := by
  unfold close
  split
  · exact keeps_refused h
  · split
    · exact keeps_refused h
    · exact keeps_refused h
    · rename_i f fs outermost frames
      split
      · exact keeps_refused h
      · refine closeFrame_keeps h frames fun kind => ?_
        obtain ⟨_, _, rfl, _⟩ := (frames ▸ h.agrees).of_root kind
        exact outermost rfl

/-! ### Runs -/

theorem perform_keeps (h : Inv os b) (c : Call ScopeToken) : Keeps os c.shape (b.perform c) := by
  have answered : ∀ {α : Type} {token : α → Option ScopeToken} {outcome : Outcome α},
      Keeps os c.shape outcome → Keeps os c.shape (perform.opened token outcome) := by
    rintro α token ⟨b', answer⟩ ⟨os', inv, wrote⟩
    refine ⟨os', inv, ?_⟩
    cases answer <;> exact wrote
  cases c with
  | step s => exact answered (step_keeps h s)
  | openSerial => exact answered (openSerial_keeps h)
  | openParallel => exact answered (openParallel_keeps h)
  | openDecision d => exact answered (openDecision_keeps h d)
  | openBranch side => exact answered (openBranch_keeps h side)
  | openLoop l => exact answered (openLoop_keeps h l)
  | close token => exact answered (close_keeps h token)

theorem new_inv (id : Nat) (action : String) : Inv [.body []] (new id action) :=
  ⟨.body rfl ⟨rfl, by simp [Outline.exitsSerial]⟩, List.nodup_nil, by simp [taken, Open.allNames,
    Outline.allNamesOf]⟩

/-- What stands at the end of a run was accepted, and stands in the order of the calls. -/
theorem run_inv (h : Inv os b) (calls : List (Call ScopeToken)) :
    ∃ os', Inv os' (b.run calls) ∧
      (written os').Sublist (written os ++ (b.made calls).map Call.shape) := by
  induction calls generalizing os b with
  | nil => exact ⟨os, h, by simp [made]⟩
  | cons c cs ih =>
    obtain ⟨os', inv, wrote⟩ := perform_keeps h c
    obtain ⟨os'', inv, rest⟩ := ih inv
    refine ⟨os'', inv, rest.trans ?_⟩
    rw [made]
    split <;> rename_i b' answer performed <;> rw [performed] at wrote ⊢
    · rw [show written os' = written os ++ [c.shape] from wrote, List.append_assoc]
      exact List.Sublist.refl _
    · exact wrote.append_right _

theorem accepted_inv {b' : TaskBuilder} {calls : List (Call ScopeToken)}
    (accepted : Accepted b calls b') (h : Inv os b) :
    ∃ os', Inv os' b' ∧ written os' = written os ++ calls.map Call.shape := by
  induction accepted generalizing os with
  | done => exact ⟨os, h, by simp⟩
  | @call b b' b'' c cs token first _ ih =>
    obtain ⟨os₁, inv, wrote⟩ := perform_keeps h c
    rw [first] at inv wrote
    obtain ⟨os₂, inv, rest⟩ := ih inv
    exact ⟨os₂, inv, by
      rw [rest, show written os₁ = written os ++ [c.shape] from wrote]
      simp⟩

/-- A finished tree is the layout of what was written, all of whose names differ. -/
theorem finish_layout {t : TaskTree} (h : Inv os b) (finished : b.finish = .ok t) :
    ∃ body, os = [.body body] ∧ t = Outline.layoutSerial [] body ∧
      (Outline.allNamesOf body).Nodup := by
  obtain ⟨l, ls, levels⟩ := h.agrees.exists_level
  have agrees := h.agrees
  unfold finish at finished
  cases frames : b.frames with
  | nil =>
    rw [frames] at agrees
    cases agrees
  | cons f fs =>
    rw [frames] at agrees finished
    cases kind : f.kind with
    | root =>
      obtain ⟨body, rfl, rfl, same⟩ := agrees.of_root kind
      simp only [List.head?_cons, Option.bind_some, kind, FrameKind.scope?, popLevel, same,
        Except.ok.injEq] at finished
      exact ⟨body, rfl, finished.symm, by simpa [taken, Open.allNames] using h.distinct⟩
    | _ => simp [kind, FrameKind.scope?] at finished

end Blueprint.TaskBuilder
