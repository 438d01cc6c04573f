import Blueprint.Proofs.Builder.Run
import Mathlib.Logic.Basic

/-!
# The ledger of a builder

The names and the numbers that a builder has given out, and the scopes that are open, without the
tasks. `perform_books` is all that a call can do to them.
-/

namespace Blueprint

structure Ledger where
  id : Nat
  nextSeq : Nat
  names : List String
  /-- Number and kind of the open scopes, innermost first; the action body is of no kind. -/
  scopes : List (Nat × Option ScopeKind)

namespace Ledger

def take (l : Ledger) (name : String) : Ledger := { l with names := name :: l.names }

def push (l : Ledger) (kind : ScopeKind) : Ledger :=
  { l with nextSeq := l.nextSeq + 1, scopes := (l.nextSeq, some kind) :: l.scopes }

/-- A call takes no name but the one that it declares. -/
inductive Takes (l : Ledger) (c : Call ScopeToken) : Ledger → Prop where
  | nothing : Takes l c l
  | name {x : String} (declares : c.declares? = some x) (named : Text.blankText x = false)
      (fresh : x ∉ l.names) : Takes l c (l.take x)

/-- A call leaves the scopes alone, opens one, or closes the innermost one with its token. -/
inductive Moves (l : Ledger) (c : Call ScopeToken) :
    Ledger → Except TaskFault (Option ScopeToken) → Prop where
  | stays {answer : Except TaskFault (Option ScopeToken)} (none : ∀ t, answer ≠ .ok (some t)) :
      Moves l c l answer
  | opens (kind : ScopeKind) : Moves l c (l.push kind) (.ok (some ⟨l.id, l.nextSeq, kind⟩))
  | closes {t : ScopeToken} {kind : Option ScopeKind} {outer : List (Nat × Option ScopeKind)}
      {answer : Except TaskFault (Option ScopeToken)} (call : c = .close t)
      (mine : t.builder = l.id) (innermost : l.scopes = (t.seq, kind) :: outer)
      (none : ∀ t, answer ≠ .ok (some t)) : Moves l c { l with scopes := outer } answer

theorem Moves.names {l l' : Ledger} {c : Call ScopeToken}
    {answer : Except TaskFault (Option ScopeToken)} (h : l.Moves c l' answer) :
    l'.names = l.names := by
  cases h <;> rfl

end Ledger

namespace TaskBuilder

def ledger (b : TaskBuilder) : Ledger where
  id := b.id
  nextSeq := b.nextSeq
  names := b.names
  scopes := b.frames.map fun f => (f.seq, f.kind.scope?)

variable {b : TaskBuilder}

/-! ### Parts of calls -/

@[simp] theorem ledger_recordMember (b : TaskBuilder) (outflow : List String) :
    (b.recordMember outflow).ledger = b.ledger := by
  unfold recordMember
  cases frames : b.frames with
  | nil => rfl
  | cons f fs => cases kind : f.kind <;> simp [ledger, frames, kind]

@[simp] theorem ledger_place (b : TaskBuilder) (n : TaskNode) : (b.place n).ledger = b.ledger := by
  unfold place
  rw [ledger_recordMember]
  rfl

@[simp] theorem ledger_popLevel (b : TaskBuilder) : b.popLevel.2.ledger = b.ledger := by
  unfold popLevel
  split <;> rfl

@[simp] theorem ledger_fillBranch (b : TaskBuilder) (side : Branch) (t : TaskTree) :
    (b.fillBranch side t).1.ledger = b.ledger := by
  unfold fillBranch
  cases frames : b.frames with
  | nil => rfl
  | cons f fs =>
    cases kind : f.kind with
    | decision d => simp [ledger, frames, kind, FrameKind.scope?]
    | _ => simp only [kind]

@[simp] theorem ledger_closeFrame (b : TaskBuilder) (f : Frame) :
    (b.closeFrame f).1.ledger = b.ledger := by
  unfold closeFrame
  cases f.kind with
  | root => rfl
  | serial | parallel =>
    dsimp only
    split
    · exact ledger_recordMember b _
    · rfl
  | branch side =>
    dsimp only
    rw [ledger_fillBranch, ledger_popLevel]
  | decision d =>
    dsimp only
    split
    · exact ledger_place b _
    · rfl
    · rfl
  | loop l =>
    dsimp only
    split
    · exact ledger_popLevel b
    · rw [ledger_place, ledger_popLevel]

theorem ledger_pushFrame (b : TaskBuilder) {kind : FrameKind} {scope : ScopeKind}
    (same : kind.scope? = some scope) (predecessors : List String) :
    (b.pushFrame kind scope predecessors).1.ledger = b.ledger.push scope := by
  simp [pushFrame, ledger, Ledger.push, same]

theorem reserve_takes {name : String} {b' : TaskBuilder} {c : Call ScopeToken}
    (declares : c.declares? = some name) (h : b.reserve name = .ok b') :
    b.ledger.Takes c b'.ledger := by
  unfold reserve at h
  split at h
  · cases h
  · rename_i named
    split at h
    · cases h
    · rename_i fresh
      cases h
      exact .name declares (by simpa using named) (by simpa [ledger] using fresh)

/-! ### Calls -/

/-- What a call does to the ledger: it may take a name, and then it may move the scopes. -/
def Books (b : TaskBuilder) (c : Call ScopeToken) (outcome : Outcome (Option ScopeToken)) : Prop :=
  ∃ l, b.ledger.Takes c l ∧ l.Moves c outcome.1.ledger outcome.2

variable {c : Call ScopeToken}

theorem books_refused (fault : TaskFault) : Books b c (b, .error fault) :=
  ⟨_, .nothing, .stays nofun⟩

theorem books_done {b' : TaskBuilder} (takes : b.ledger.Takes c b'.ledger) :
    Books b c (b', .ok none) :=
  ⟨_, takes, .stays nofun⟩

theorem books_opened {b' : TaskBuilder} {l : Ledger} {kind : ScopeKind}
    (takes : b.ledger.Takes c l) (pushed : b'.ledger = l.push kind) :
    Books b c (b', .ok (some ⟨l.id, l.nextSeq, kind⟩)) := by
  refine ⟨l, takes, ?_⟩
  rw [pushed]
  exact .opens kind

section Parts

variable {α : Type} {token : α → Option ScopeToken}

theorem books_waiting {next : List String → Outcome α}
    (made : ∀ entry, Books b c (perform.opened token (next entry))) :
    Books b c (perform.opened token (b.waiting next)) :=
  waiting_cases (motive := fun o => Books b c (perform.opened token o))
    (fun fault _ => books_refused fault) fun entry _ => made entry

theorem books_naming {next : TaskBuilder → Outcome α} {name : String} {c : Call ScopeToken}
    (declares : c.declares? = some name)
    (made : ∀ b', b.ledger.Takes c b'.ledger → Books b c (perform.opened token (next b'))) :
    Books b c (perform.opened token (b.naming name next)) :=
  naming_cases (motive := fun o => Books b c (perform.opened token o))
    (fun fault _ => books_refused fault) fun b' named => made b' (reserve_takes declares named)

end Parts

theorem step_books (s : Step) : Books b (.step s) (b.perform (.step s)) := by
  refine books_waiting fun entry => books_naming rfl fun b' takes => ?_
  apply books_done
  rw [ledger_place]
  exact takes

theorem openSerial_books : Books b .openSerial (b.perform .openSerial) :=
  books_waiting fun entry => books_opened .nothing (ledger_pushFrame b rfl entry)

theorem openParallel_books : Books b .openParallel (b.perform .openParallel) :=
  books_waiting fun entry => books_opened .nothing (ledger_pushFrame b rfl entry)

theorem openDecision_books (d : DecisionHeader) :
    Books b (.openDecision d) (b.perform (.openDecision d)) :=
  books_waiting fun _ => books_naming rfl fun b' takes =>
    books_opened takes (ledger_pushFrame b' rfl [])

theorem openBranch_books (side : Branch) :
    Books b (.openBranch side) (b.perform (.openBranch side)) := by
  change Books b _ (perform.opened some (b.openBranch side))
  unfold openBranch
  split
  · split
    · exact books_refused _
    · exact books_opened .nothing (ledger_pushFrame b.pushLevel rfl [])
  · exact books_refused _

/-- A loop without a count takes its name all the same. -/
theorem openLoop_books (header : LoopHeader) :
    Books b (.openLoop header) (b.perform (.openLoop header)) := by
  refine books_waiting fun entry => books_naming rfl fun b' takes => ?_
  split
  · exact ⟨_, takes, .stays nofun⟩
  · exact books_opened takes (ledger_pushFrame b'.pushLevel rfl [])

theorem close_books (t : ScopeToken) : Books b (.close t) (b.perform (.close t)) := by
  have answered : ∀ {r : Except TaskFault Unit} (t' : ScopeToken),
      r.map (fun _ => none) ≠ .ok (some t') := by
    intro r t'
    cases r <;> exact nofun
  refine ⟨_, .nothing, ?_⟩
  change b.ledger.Moves _ (b.close t).1.ledger ((b.close t).2.map fun _ => none)
  unfold close
  split
  · exact .stays answered
  · rename_i mine
    split
    · exact .stays answered
    · exact .stays answered
    · rename_i f fs _ frames
      split
      · exact .stays answered
      · rename_i same
        rw [ledger_closeFrame]
        have innermost : b.ledger.scopes =
            (t.seq, f.kind.scope?) :: fs.map fun f => (f.seq, f.kind.scope?) := by
          rw [ledger, frames, List.map_cons, not_not.mp same]
        exact .closes rfl (not_not.mp mine) innermost answered

theorem perform_books (b : TaskBuilder) (c : Call ScopeToken) : Books b c (b.perform c) := by
  cases c with
  | step s => exact step_books s
  | openSerial => exact openSerial_books
  | openParallel => exact openParallel_books
  | openDecision d => exact openDecision_books d
  | openBranch side => exact openBranch_books side
  | openLoop l => exact openLoop_books l
  | close t => exact close_books t

end TaskBuilder

end Blueprint
