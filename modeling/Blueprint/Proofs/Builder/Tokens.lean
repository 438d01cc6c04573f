import Blueprint.Proofs.Builder.Balance
import Mathlib.Logic.Function.Basic
import Mathlib.Logic.Relation

/-!
# Tokens of scopes

Several builders work side by side, and a token is handed to `close` once at most, to whichever
builder. `close_lifo`: scopes are closed innermost first, and a scope whose token was refused stays
open as long as its builder lives.
-/

namespace Blueprint

/-- The token that a call uses up. -/
def Call.spends : Call ScopeToken → List ScopeToken
  | close t => [t]
  | _ => []

def TaskFault.refusesToken : TaskFault → Bool
  | .foreignToken _ | .nothingOpen _ | .mismatchedClose _ _ => true
  | _ => false

namespace Ledger

/-! ### Numbers of scopes -/

structure Ordered (l : Ledger) : Prop where
  descending : (l.scopes.map (·.1)).Pairwise (· > ·)
  below : ∀ s ∈ l.scopes, s.1 < l.nextSeq

variable {l l' : Ledger} {c : Call ScopeToken} {answer : Except TaskFault (Option ScopeToken)}

theorem Takes.same (h : l.Takes c l') :
    l'.id = l.id ∧ l'.nextSeq = l.nextSeq ∧ l'.scopes = l.scopes := by
  cases h <;> exact ⟨rfl, rfl, rfl⟩

theorem Moves.id (h : l.Moves c l' answer) : l'.id = l.id := by
  cases h <;> rfl

theorem Moves.nextSeq_le (h : l.Moves c l' answer) : l.nextSeq ≤ l'.nextSeq := by
  cases h with
  | stays | closes => exact Nat.le_refl _
  | opens => exact Nat.le_succ _

theorem Moves.ordered (h : l.Moves c l' answer) (ordered : l.Ordered) : l'.Ordered := by
  obtain ⟨descending, below⟩ := ordered
  cases h with
  | stays => exact ⟨descending, below⟩
  | opens kind =>
    refine ⟨List.pairwise_cons.mpr ⟨?_, descending⟩, List.forall_mem_cons.mpr ⟨?_, ?_⟩⟩
    · exact List.forall_mem_map.mpr below
    · exact Nat.lt_succ_self _
    · exact fun s mem => Nat.lt_succ_of_lt (below s mem)
  | closes _ _ innermost =>
    rw [innermost] at descending below
    exact ⟨(List.pairwise_cons.mp descending).2, (List.forall_mem_cons.mp below).2⟩

/-- An open scope stays open through every call but the closing of it. -/
theorem Moves.keeps (h : l.Moves c l' answer) {s : Nat × Option ScopeKind} (mem : s ∈ l.scopes)
    (other : ∀ t, c = .close t → t.builder = l.id → t.seq ≠ s.1) : s ∈ l'.scopes := by
  cases h with
  | stays => exact mem
  | opens => exact List.mem_cons_of_mem _ mem
  | @closes t kind outer answer call mine innermost =>
    rw [innermost] at mem
    rcases List.mem_cons.mp mem with rfl | mem
    · exact (other t call mine rfl).elim
    · exact mem

theorem Moves.origin (h : l.Moves c l' answer) {s : Nat × Option ScopeKind} (mem : s ∈ l'.scopes) :
    s ∈ l.scopes ∨
      ∃ kind, s = (l.nextSeq, some kind) ∧ answer = .ok (some ⟨l.id, l.nextSeq, kind⟩) := by
  cases h with
  | stays => exact .inl mem
  | opens kind =>
    rcases List.mem_cons.mp mem with rfl | mem
    · exact .inr ⟨kind, rfl, rfl⟩
    · exact .inl mem
  | closes _ _ innermost => exact .inl (innermost ▸ List.mem_cons_of_mem _ mem)

/-- A token carries the next number, and that number is used up. -/
theorem Moves.token {t : ScopeToken} (h : l.Moves c l' (.ok (some t))) :
    t.builder = l.id ∧ t.seq = l.nextSeq ∧ l'.nextSeq = l.nextSeq + 1 := by
  cases h with
  | stays none => exact (none t rfl).elim
  | opens => exact ⟨rfl, rfl, rfl⟩
  | closes _ _ _ none => exact (none t rfl).elim

end Ledger

namespace TaskBuilder

variable {b : TaskBuilder} {c : Call ScopeToken}

theorem perform_moves (b : TaskBuilder) (c : Call ScopeToken) :
    ∃ l : Ledger, (l.id = b.id ∧ l.nextSeq = b.nextSeq ∧ l.scopes = b.ledger.scopes) ∧
      l.Moves c (b.perform c).1.ledger (b.perform c).2 := by
  obtain ⟨l, takes, moves⟩ := perform_books b c
  exact ⟨l, takes.same, moves⟩

theorem perform_ordered (h : b.ledger.Ordered) : (b.perform c).1.ledger.Ordered := by
  obtain ⟨l, ⟨-, nextSeq, scopes⟩, moves⟩ := perform_moves b c
  exact moves.ordered ⟨scopes ▸ h.descending, by rw [scopes, nextSeq]; exact h.below⟩

theorem perform_id (b : TaskBuilder) (c : Call ScopeToken) : (b.perform c).1.id = b.id := by
  obtain ⟨l, ⟨id, -⟩, moves⟩ := perform_moves b c
  exact moves.id.trans id

theorem run_ordered (calls : List (Call ScopeToken)) (h : b.ledger.Ordered) :
    (b.run calls).ledger.Ordered := by
  induction calls generalizing b with
  | nil => exact h
  | cons c cs ih => exact ih (perform_ordered h)

theorem run_id (b : TaskBuilder) (calls : List (Call ScopeToken)) : (b.run calls).id = b.id := by
  induction calls generalizing b with
  | nil => rfl
  | cons c cs ih => rw [run, ih, perform_id]

theorem run_concat (b : TaskBuilder) (calls : List (Call ScopeToken)) (c : Call ScopeToken) :
    b.run (calls ++ [c]) = ((b.run calls).perform c).1 := by
  induction calls generalizing b with
  | nil => rfl
  | cons c' cs ih => exact ih (b.perform c').1

theorem new_ordered (id : Nat) (action : String) : (new id action).ledger.Ordered :=
  ⟨List.pairwise_singleton _ _, by simp [ledger, new]⟩

/-! ### Refused tokens -/

/-- A scope that was taken off the stack is never refused for its token. -/
theorem closeFrame_error {f : Frame} {fault : TaskFault} (h : (b.closeFrame f).2 = .error fault) :
    fault.refusesToken = false := by
  unfold closeFrame at h
  cases kind : f.kind with
  | root =>
    simp only [kind] at h
    cases h
    rfl
  | serial | parallel => simp [kind] at h
  | branch side =>
    simp only [kind, fillBranch] at h
    split at h
    · split at h <;> cases h
      rfl
    · cases h
      rfl
  | decision d =>
    simp only [kind] at h
    split at h <;> cases h <;> rfl
  | loop l =>
    simp only [kind] at h
    split at h <;> cases h
    rfl

theorem close_refused {t : ScopeToken} {fault : TaskFault} (h : (b.close t).2 = .error fault)
    (refused : fault.refusesToken = true) : (b.close t).1 = b := by
  unfold close at h ⊢
  split
  · rfl
  · rename_i mine
    rw [if_neg mine] at h
    split
    · rfl
    · rfl
    · rename_i f fs outermost frames
      split
      · rfl
      · rename_i same
        simp only [frames, if_neg same] at h
        rw [closeFrame_error h] at refused
        cases refused

theorem close_ok {t : ScopeToken} (h : (b.close t).2 = .ok ()) :
    t.builder = b.id ∧ ∃ f fs, b.frames = f :: fs ∧ fs ≠ [] ∧ f.seq = t.seq := by
  unfold close at h
  split at h
  · cases h
  · rename_i mine
    split at h
    · cases h
    · cases h
    · rename_i f fs outermost frames
      split at h
      · cases h
      · rename_i same
        exact ⟨not_not.mp mine, f, fs, frames, fun none => outermost none, not_not.mp same⟩

/-- While a scope is open, the body cannot be finished. -/
theorem Balanced.unfinished {s : Nat} {kind : ScopeKind} (h : b.Balanced)
    (mem : (s, some kind) ∈ b.ledger.scopes) : ∃ kind', b.finish = .error (.neverClosed kind') := by
  obtain ⟨inner, bottom, frames, root, others⟩ := h.body
  cases inner with
  | nil => simp [ledger, frames, root, FrameKind.scope?] at mem
  | cons f fs =>
    obtain ⟨scope, same⟩ := FrameKind.scope?_of_ne_root (others f List.mem_cons_self)
    exact ⟨scope, by simp [finish, frames, same]⟩

end TaskBuilder

/-! ### Builders side by side -/

/-- Builders by their ids. A builder is gone when it was finished, with or without a tree. -/
structure Workbench where
  builders : Nat → Option TaskBuilder := fun _ => none
  nextId : Nat := 0
  /-- All tokens so far, each with the builder that gave it. -/
  issued : List (Nat × ScopeToken) := []
  /-- The tokens that were handed to a `close`, whatever came of it. -/
  spent : List ScopeToken := []

namespace Workbench

def tokens : Except TaskFault (Option ScopeToken) → List ScopeToken
  | .ok (some t) => [t]
  | _ => []

/-- The workbench after a call of the builder `b` with the id `i`. -/
def call (w : Workbench) (i : Nat) (b : TaskBuilder) (c : Call ScopeToken) : Workbench where
  builders := Function.update w.builders i (some (b.perform c).1)
  nextId := w.nextId
  issued := w.issued ++ (tokens (b.perform c).2).map fun t => (i, t)
  spent := w.spent ++ c.spends

/-- A new builder, a call with a token that somebody was given and still has, or the end of a
builder. -/
inductive Step : Workbench → Workbench → Prop where
  | create (w : Workbench) (action : String) :
      Step w { w with
        builders := Function.update w.builders w.nextId (some (.new w.nextId action))
        nextId := w.nextId + 1 }
  | call {w : Workbench} {i : Nat} {b : TaskBuilder} (at_ : w.builders i = some b)
      (c : Call ScopeToken)
      (held : ∀ t ∈ c.spends, (∃ j, (j, t) ∈ w.issued) ∧ t ∉ w.spent) : Step w (w.call i b c)
  | finish {w : Workbench} {i : Nat} {b : TaskBuilder} (at_ : w.builders i = some b) :
      Step w { w with builders := Function.update w.builders i none }

/-- Any number of steps, of any builders in any order. -/
abbrev Leads : Workbench → Workbench → Prop := Relation.ReflTransGen Step

structure Orderly (w : Workbench) : Prop where
  known : ∀ i b, w.builders i = some b →
    i < w.nextId ∧ ∃ action calls, b = (TaskBuilder.new i action).run calls
  numbered : ∀ i t, (i, t) ∈ w.issued →
    t.builder = i ∧ i < w.nextId ∧ ∀ b, w.builders i = some b → t.seq < b.nextSeq
  distinct : (w.issued.map fun e => (e.1, e.2.seq)).Nodup
  opened : ∀ i b s kind, w.builders i = some b → (s, some kind) ∈ b.ledger.scopes →
    (i, ⟨i, s, kind⟩) ∈ w.issued

variable {w w' : Workbench}

theorem Orderly.id (h : w.Orderly) {i : Nat} {b : TaskBuilder} (at_ : w.builders i = some b) :
    b.id = i := by
  obtain ⟨-, action, calls, rfl⟩ := h.known i b at_
  exact TaskBuilder.run_id _ calls

theorem Orderly.balanced (h : w.Orderly) {i : Nat} {b : TaskBuilder}
    (at_ : w.builders i = some b) : b.Balanced := by
  obtain ⟨-, action, calls, rfl⟩ := h.known i b at_
  obtain ⟨os, inv, -⟩ := TaskBuilder.run_inv (TaskBuilder.new_inv i action) calls
  exact inv.balanced

theorem Orderly.ordered (h : w.Orderly) {i : Nat} {b : TaskBuilder}
    (at_ : w.builders i = some b) : b.ledger.Ordered := by
  obtain ⟨-, action, calls, rfl⟩ := h.known i b at_
  exact TaskBuilder.run_ordered calls (TaskBuilder.new_ordered i action)

/-- Of two tokens of a builder with the same number there is one. -/
theorem Orderly.token_inj (h : w.Orderly) {i : Nat} {t t' : ScopeToken} (mem : (i, t) ∈ w.issued)
    (mem' : (i, t') ∈ w.issued) (same : t.seq = t'.seq) : t = t' :=
  congrArg Prod.snd (List.inj_on_of_nodup_map h.distinct mem mem' (Prod.ext rfl same))

theorem update_cases {i j : Nat} {o : Option TaskBuilder} {b : TaskBuilder}
    (h : Function.update w.builders i o j = some b) :
    (j = i ∧ o = some b) ∨ (j ≠ i ∧ w.builders j = some b) := by
  by_cases same : j = i
  · subst same
    exact .inl ⟨rfl, by simpa using h⟩
  · exact .inr ⟨same, by simpa [same] using h⟩

theorem builders_call (w : Workbench) (i : Nat) (b : TaskBuilder) (c : Call ScopeToken) :
    (w.call i b c).builders i = some (b.perform c).1 :=
  Function.update_self ..

theorem mem_tokens {answer : Except TaskFault (Option ScopeToken)} {t : ScopeToken} :
    t ∈ tokens answer ↔ answer = .ok (some t) := by
  rcases answer with fault | _ | t' <;> simp [tokens, eq_comm]

theorem mem_issued_call {i j : Nat} {b : TaskBuilder} {c : Call ScopeToken} {t : ScopeToken} :
    (j, t) ∈ (w.call i b c).issued ↔
      (j, t) ∈ w.issued ∨ (j = i ∧ (b.perform c).2 = .ok (some t)) := by
  simp only [call, List.mem_append, List.mem_map, mem_tokens, Prod.mk.injEq]
  exact or_congr_right ⟨fun ⟨_, answer, at_, same⟩ => ⟨at_.symm, same ▸ answer⟩,
    fun ⟨at_, answer⟩ => ⟨t, answer, at_.symm, rfl⟩⟩

theorem empty_orderly : Orderly {} :=
  ⟨nofun, nofun, List.nodup_nil, nofun⟩

theorem create_orderly (h : w.Orderly) (action : String) : Orderly { w with
    builders := Function.update w.builders w.nextId (some (.new w.nextId action))
    nextId := w.nextId + 1 } := by
  constructor
  · intro i b at_
    rcases update_cases at_ with ⟨rfl, new⟩ | ⟨-, at_⟩
    · exact ⟨Nat.lt_succ_self _, action, [], (Option.some.inj new).symm⟩
    · obtain ⟨below, built⟩ := h.known i b at_
      exact ⟨Nat.lt_succ_of_lt below, built⟩
  · intro i t mem
    obtain ⟨mine, below, numbers⟩ := h.numbered i t mem
    refine ⟨mine, Nat.lt_succ_of_lt below, fun b at_ => ?_⟩
    rcases update_cases at_ with ⟨rfl, -⟩ | ⟨-, at_⟩
    · exact (Nat.lt_irrefl _ below).elim
    · exact numbers b at_
  · exact h.distinct
  · intro i b s kind at_ mem
    rcases update_cases at_ with ⟨rfl, new⟩ | ⟨-, at_⟩
    · cases new
      simp [TaskBuilder.ledger, TaskBuilder.new, FrameKind.scope?] at mem
    · exact h.opened i b s kind at_ mem

theorem call_orderly (h : w.Orderly) {i : Nat} {b : TaskBuilder} (at_ : w.builders i = some b)
    (c : Call ScopeToken) : (w.call i b c).Orderly := by
  obtain ⟨l, ⟨id, nextSeq, scopes⟩, moves⟩ := TaskBuilder.perform_moves b c
  obtain ⟨below, action, calls, built⟩ := h.known i b at_
  have token : ∀ {t}, (b.perform c).2 = .ok (some t) →
      t.builder = i ∧ t.seq = b.nextSeq ∧ (b.perform c).1.nextSeq = b.nextSeq + 1 := by
    intro t answer
    obtain ⟨mine, number, next⟩ := (answer ▸ moves).token
    exact ⟨mine.trans (id.trans (h.id at_)), number.trans nextSeq, nextSeq ▸ next⟩
  constructor
  · intro j b' at_'
    rcases update_cases at_' with ⟨rfl, new⟩ | ⟨-, at_'⟩
    · refine ⟨below, action, calls ++ [c], ?_⟩
      rw [TaskBuilder.run_concat, ← built, Option.some.inj new]
    · exact h.known j b' at_'
  · intro j t mem
    rcases mem_issued_call.mp mem with mem | ⟨rfl, answer⟩
    · obtain ⟨mine, known, numbers⟩ := h.numbered j t mem
      refine ⟨mine, known, fun b' at_' => ?_⟩
      rcases update_cases at_' with ⟨rfl, new⟩ | ⟨-, at_'⟩
      · cases new
        exact Nat.lt_of_lt_of_le (numbers b at_) (nextSeq ▸ moves.nextSeq_le)
      · exact numbers b' at_'
    · obtain ⟨mine, number, next⟩ := token answer
      refine ⟨mine, below, fun b' at_' => ?_⟩
      rcases update_cases at_' with ⟨-, new⟩ | ⟨other, -⟩
      · cases new
        rw [number, next]
        exact Nat.lt_succ_self _
      · exact (other rfl).elim
  · rw [call, List.map_append]
    refine List.nodup_append.mpr ⟨h.distinct, ?_, ?_⟩
    · rcases (b.perform c).2 with fault | _ | t <;> simp [tokens]
    · rintro _ old _ new rfl
      obtain ⟨e, mem, same⟩ := List.mem_map.mp old
      obtain ⟨_, given, rfl⟩ := List.mem_map.mp new
      obtain ⟨t, answer, rfl⟩ := List.mem_map.mp given
      obtain ⟨-, number, -⟩ := token (mem_tokens.mp answer)
      obtain ⟨j, t'⟩ := e
      obtain ⟨rfl, equal⟩ := Prod.mk.inj same
      have less := (h.numbered j t' mem).2.2 b at_
      dsimp only at equal
      omega
  · intro j b' s kind at_' mem
    rcases update_cases at_' with ⟨rfl, new⟩ | ⟨-, at_'⟩
    · cases new
      rcases moves.origin mem with old | ⟨kind', same, answer⟩
      · exact mem_issued_call.mpr (.inl (h.opened j b s kind at_ (scopes ▸ old)))
      · cases same
        rw [id, h.id at_] at answer
        exact mem_issued_call.mpr (.inr ⟨rfl, answer⟩)
    · exact mem_issued_call.mpr (.inl (h.opened j b' s kind at_' mem))

theorem finish_orderly (h : w.Orderly) (i : Nat) :
    Orderly { w with builders := Function.update w.builders i none } := by
  have others : ∀ {j b}, Function.update w.builders i none j = some b → w.builders j = some b := by
    intro j b at_
    rcases update_cases at_ with ⟨-, new⟩ | ⟨-, at_⟩
    · cases new
    · exact at_
  constructor
  · exact fun j b at_ => h.known j b (others at_)
  · intro j t mem
    obtain ⟨mine, below, numbers⟩ := h.numbered j t mem
    exact ⟨mine, below, fun b at_ => numbers b (others at_)⟩
  · exact h.distinct
  · exact fun j b s kind at_ mem => h.opened j b s kind (others at_) mem

theorem step_orderly (h : w.Orderly) (step : Step w w') : w'.Orderly := by
  cases step with
  | create action => exact create_orderly h action
  | call at_ c => exact call_orderly h at_ c
  | @finish i _ _ => exact finish_orderly h i

theorem leads_orderly (h : w.Orderly) (leads : Leads w w') : w'.Orderly := by
  induction leads with
  | refl => exact h
  | tail _ step ih => exact step_orderly ih step

/-! ### Scopes that stay open -/

/-- The token of an open scope of builder `i` is used up. -/
structure Stuck (w : Workbench) (i : Nat) (t : ScopeToken) : Prop where
  issued : (i, t) ∈ w.issued
  spent : t ∈ w.spent
  still : ∀ b, w.builders i = some b → (t.seq, some t.kind) ∈ b.ledger.scopes

/-- A scope leaves the stack through its own token only, and there is no second one. -/
theorem step_stuck {i : Nat} {t : ScopeToken} (h : w.Orderly) (step : Step w w')
    (stuck : w.Stuck i t) : w'.Stuck i t := by
  obtain ⟨issued, spent, still⟩ := stuck
  cases step with
  | create action =>
    refine ⟨issued, spent, fun b at_ => ?_⟩
    rcases update_cases at_ with ⟨rfl, -⟩ | ⟨-, at_⟩
    · exact (Nat.lt_irrefl _ (h.numbered _ t issued).2.1).elim
    · exact still b at_
  | @call j b at_ c held =>
    refine ⟨mem_issued_call.mpr (.inl issued), List.mem_append_left _ spent, fun b' at_' => ?_⟩
    rcases update_cases at_' with ⟨rfl, new⟩ | ⟨-, at_'⟩
    · cases new
      obtain ⟨l, ⟨id, -, scopes⟩, moves⟩ := TaskBuilder.perform_moves b c
      refine moves.keeps (scopes ▸ still b at_) fun t' call mine same => ?_
      subst call
      obtain ⟨⟨j', issued'⟩, unspent⟩ := held t' (List.mem_singleton_self _)
      have giver : j' = i := by
        rw [← (h.numbered j' t' issued').1, mine, id, h.id at_]
      subst giver
      exact unspent (h.token_inj issued' issued same ▸ spent)
    · exact still b' at_'
  | finish =>
    refine ⟨issued, spent, fun b at_ => ?_⟩
    rcases update_cases at_ with ⟨-, new⟩ | ⟨-, at_⟩
    · cases new
    · exact still b at_

theorem leads_stuck {i : Nat} {t : ScopeToken} (h : w.Orderly) (leads : Leads w w')
    (stuck : w.Stuck i t) : w'.Stuck i t := by
  induction leads with
  | refl => exact stuck
  | tail before step ih => exact step_stuck (leads_orderly h before) step ih

/-- The innermost scope, if it is closed with its token, is the one the token was given for. -/
theorem Orderly.innermost {i j : Nat} {b : TaskBuilder} {t : ScopeToken} (h : w.Orderly)
    (at_ : w.builders i = some b) (issued : (j, t) ∈ w.issued) (closed : (b.close t).2 = .ok ()) :
    (i, t) ∈ w.issued ∧ b.ledger.scopes.head? = some (t.seq, some t.kind) := by
  obtain ⟨mine, f, fs, frames, under, number⟩ := TaskBuilder.close_ok closed
  have giver : j = i := by rw [← (h.numbered j t issued).1, mine, h.id at_]
  subst giver
  obtain ⟨kind, scope⟩ :=
    FrameKind.scope?_of_ne_root ((frames ▸ (h.balanced at_).body).head_ne_root under)
  have head : b.ledger.scopes.head? = some (t.seq, some kind) := by
    rw [TaskBuilder.ledger, frames, List.map_cons, scope, number]
    rfl
  have given := h.opened j b t.seq kind at_ (List.mem_of_head? head)
  refine ⟨issued, ?_⟩
  rw [head, ← h.token_inj given issued rfl]

theorem close_lifo (reached : Leads {} w) :
    (∀ i b, w.builders i = some b → (b.frames.map (·.seq)).Pairwise (· > ·) ∧
      ∀ f ∈ b.frames, ∀ kind, f.kind.scope? = some kind → (i, ⟨i, f.seq, kind⟩) ∈ w.issued) ∧
    (w.issued.map fun e => (e.1, e.2.seq)).Nodup ∧
    ∀ i b t, w.builders i = some b → (∃ j, (j, t) ∈ w.issued) → t ∉ w.spent →
      ((b.close t).2 = .ok () →
        (i, t) ∈ w.issued ∧ b.ledger.scopes.head? = some (t.seq, some t.kind)) ∧
      ∀ fault, (b.close t).2 = .error fault → fault.refusesToken = true →
        (w.call i b (.close t)).builders = w.builders ∧
        ∀ j b₁, (j, t) ∈ w.issued → w.builders j = some b₁ →
          (t.seq, some t.kind) ∈ b₁.ledger.scopes →
          ∀ w', Leads (w.call i b (.close t)) w' → ∀ b₂, w'.builders j = some b₂ →
            (t.seq, some t.kind) ∈ b₂.ledger.scopes ∧
            ∃ kind, b₂.finish = .error (.neverClosed kind) := by
  have orderly := leads_orderly empty_orderly reached
  refine ⟨fun i b at_ => ⟨?_, ?_⟩, orderly.distinct, fun i b t at_ ⟨j, issued⟩ unspent => ⟨?_, ?_⟩⟩
  · simpa [TaskBuilder.ledger, Function.comp_def] using (orderly.ordered at_).descending
  · intro f mem kind same
    exact orderly.opened i b f.seq kind at_ (List.mem_map.mpr ⟨f, mem, by rw [same]⟩)
  · exact orderly.innermost at_ issued
  · intro fault failed refused
    have same : (w.call i b (.close t)).builders = w.builders := by
      change Function.update w.builders i (some (b.close t).1) = w.builders
      rw [TaskBuilder.close_refused failed refused, ← at_, Function.update_eq_self]
    refine ⟨same, fun j b₁ given at₁ still w' leads b₂ at₂ => ?_⟩
    have after := call_orderly orderly at_ (.close t)
    have stuck : (w.call i b (.close t)).Stuck j t := by
      refine ⟨mem_issued_call.mpr (.inl given), List.mem_append_right _ List.mem_cons_self, ?_⟩
      intro b' at_'
      rw [same, at₁] at at_'
      exact Option.some.inj at_' ▸ still
    have open₂ := (leads_stuck after leads stuck).still b₂ at₂
    exact ⟨open₂, ((leads_orderly after leads).balanced at₂).unfinished open₂⟩

/-- The outer of two scopes is closed too early: it stays open although the inner one is closed. -/
theorem close_lifo_crossed :
    let outer : ScopeToken := ⟨0, 1, .parallel⟩
    let inner : ScopeToken := ⟨0, 2, .serial⟩
    ∃ w b w' b', Leads {} w ∧ w.builders 0 = some b ∧ w.issued = [(0, outer), (0, inner)] ∧
      (b.close outer).2 = .error (.mismatchedClose .serial .parallel) ∧
      (w.call 0 b (.close outer)).builders = w.builders ∧
      Leads (w.call 0 b (.close outer)) w' ∧ w'.spent = [outer, inner] ∧
      w'.builders 0 = some b' ∧ (1, some .parallel) ∈ b'.ledger.scopes ∧
      ∃ kind, b'.finish = .error (.neverClosed kind) := by
  intro outer inner
  let start : TaskBuilder := .new 0 "act"
  let empty : Workbench :=
    { builders := Function.update (fun _ => none) 0 (some start), nextId := 1 }
  let b₁ := (start.perform .openParallel).1
  let w₁ := empty.call 0 start .openParallel
  let b := (b₁.perform .openSerial).1
  let w := w₁.call 0 b₁ .openSerial
  have at₀ : empty.builders 0 = some start := rfl
  have at₁ : w₁.builders 0 = some b₁ := builders_call ..
  have at_ : w.builders 0 = some b := builders_call ..
  have reached : Leads {} w :=
    ((Relation.ReflTransGen.single (.create {} "act")).tail (.call at₀ .openParallel nofun)).tail
      (.call at₁ .openSerial nofun)
  have issued : w.issued = [(0, outer), (0, inner)] := rfl
  have refused : (b.close outer).2 = .error (.mismatchedClose .serial .parallel) := rfl
  obtain ⟨same, stuck⟩ := ((close_lifo reached).2.2 0 b outer at_ ⟨0, by simp [issued]⟩
    (List.not_mem_nil)).2 _ refused rfl
  have left : (w.call 0 b (.close outer)).builders 0 = some b := same ▸ at_
  have held : ∀ t ∈ Call.spends (.close inner), (∃ j, (j, t) ∈ (w.call 0 b (.close outer)).issued) ∧
      t ∉ (w.call 0 b (.close outer)).spent := by
    intro t mem
    obtain rfl := List.mem_singleton.mp mem
    exact ⟨⟨0, by decide⟩, by decide⟩
  have leads := Relation.ReflTransGen.single (Step.call left (.close inner) held)
  have at' := builders_call (w.call 0 b (.close outer)) 0 b (.close inner)
  obtain ⟨still, finish⟩ := stuck 0 b (by simp [issued]) at_ (by decide) _ leads _ at'
  exact ⟨w, b, _, _, reached, at_, issued, refused, same, leads, rfl, at', still, finish⟩

end Workbench

end Blueprint
