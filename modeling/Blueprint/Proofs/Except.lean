import Mathlib.Data.List.Forall2

/-!
# Computations that may fail

Walking an `Except` program whose result is known.
-/

namespace Blueprint

variable {ε α β : Type}

theorem bind_ok {x : Except ε α} {f : α → Except ε β} {r : β} (h : x >>= f = .ok r) :
    ∃ a, x = .ok a ∧ f a = .ok r := by
  cases x with
  | error e => cases h
  | ok a => exact ⟨a, rfl, h⟩

theorem bind_error {x : Except ε α} {f : α → Except ε β} {e : ε} (h : x >>= f = .error e) :
    x = .error e ∨ ∃ a, x = .ok a ∧ f a = .error e := by
  cases x with
  | error e' => exact Or.inl (congrArg Except.error (Except.error.inj h))
  | ok a => exact Or.inr ⟨a, rfl, h⟩

theorem bind_ok_iff {x : Except ε α} {f : α → Except ε β} {r : β} :
    x >>= f = .ok r ↔ ∃ a, x = .ok a ∧ f a = .ok r := by
  constructor
  · exact bind_ok
  · rintro ⟨a, made, rest⟩
    rw [made]
    exact rest

theorem ok_bind (a : α) (f : α → Except ε β) : (Except.ok a >>= f) = f a := rfl

theorem pure_ok {a b : α} (h : (pure a : Except ε α) = .ok b) : b = a := (Except.ok.inj h).symm

theorem pure_ok_iff {a b : α} : (pure a : Except ε α) = .ok b ↔ b = a :=
  ⟨pure_ok, fun same => congrArg Except.ok same.symm⟩

theorem map_ok {x : Except ε α} {f : α → β} {r : β} (h : x.map f = .ok r) :
    ∃ a, x = .ok a ∧ r = f a := by
  cases x with
  | error e => cases h
  | ok a => exact ⟨a, rfl, (Except.ok.inj h).symm⟩

theorem map_ok_iff {x : Except ε α} {f : α → β} {r : β} :
    f <$> x = .ok r ↔ ∃ a, x = .ok a ∧ f a = r := by
  constructor
  · intro made
    obtain ⟨a, first, rfl⟩ := map_ok made
    exact ⟨a, first, rfl⟩
  · rintro ⟨a, first, rfl⟩
    rw [first]
    rfl

theorem mapError_ok {ε' : Type} {x : Except ε α} {f : ε → ε'} {r : α} (h : x.mapError f = .ok r) :
    x = .ok r := by
  cases x with
  | error e => cases h
  | ok a => exact congrArg Except.ok (Except.ok.inj h)

theorem mapM_ok {f : α → Except ε β} {xs : List α} {ys : List β} (h : xs.mapM f = .ok ys) :
    List.Forall₂ (fun x y => f x = .ok y) xs ys := by
  induction xs generalizing ys with
  | nil =>
    rw [List.mapM_nil] at h
    rw [pure_ok h]
    exact .nil
  | cons x xs ih =>
    rw [List.mapM_cons] at h
    obtain ⟨y, first, h⟩ := bind_ok h
    obtain ⟨rest, others, h⟩ := bind_ok h
    rw [pure_ok h]
    exact .cons first (ih others)

theorem mapM_of_forall₂ {f : α → Except ε β} {xs : List α} {ys : List β}
    (h : List.Forall₂ (fun x y => f x = .ok y) xs ys) : xs.mapM f = .ok ys := by
  induction h with
  | nil => rfl
  | cons first _ ih =>
    rw [List.mapM_cons, first, ih]
    rfl

theorem mapM_eq_some_iff {f : α → Option β} {xs : List α} {ys : List β} :
    xs.mapM f = some ys ↔ List.Forall₂ (fun x y => f x = some y) xs ys := by
  induction xs generalizing ys with
  | nil => simp [eq_comm]
  | cons x xs ih =>
    rw [List.mapM_cons, List.forall₂_cons_left_iff]
    simp only [Option.bind_eq_bind, Option.pure_def, Option.bind_eq_some_iff, ih, Option.some.injEq,
      exists_and_left, @eq_comm _ _ ys]

theorem mapM_ok_mem {f : α → Except ε β} {xs : List α} {ys : List β} (h : xs.mapM f = .ok ys) :
    ∀ y ∈ ys, ∃ x ∈ xs, f x = .ok y := by
  have each := mapM_ok h
  clear h
  induction each with
  | nil => simp
  | cons first _ ih =>
    refine List.forall_mem_cons.mpr ⟨⟨_, List.mem_cons_self, first⟩, fun y mem => ?_⟩
    obtain ⟨x, inside, same⟩ := ih y mem
    exact ⟨x, List.mem_cons_of_mem _ inside, same⟩

theorem mapM_ok_all {f : α → Except ε β} {xs : List α} {ys : List β} (h : xs.mapM f = .ok ys) :
    ∀ x ∈ xs, ∃ y, f x = .ok y := by
  intro x mem
  have each := mapM_ok h
  clear h
  induction each with
  | nil => cases mem
  | cons first _ ih =>
    rcases List.mem_cons.mp mem with rfl | mem
    · exact ⟨_, first⟩
    · exact ih mem

theorem mapM_ok_eq {f : α → Except ε β} {g : α → β} {xs : List α} {ys : List β}
    (each : ∀ x ∈ xs, ∀ y, f x = .ok y → y = g x) (h : xs.mapM f = .ok ys) : ys = xs.map g := by
  have pairs := mapM_ok h
  clear h
  induction pairs with
  | nil => rfl
  | cons first _ ih =>
    rw [List.map_cons, each _ List.mem_cons_self _ first,
      ih fun x mem => each x (List.mem_cons_of_mem _ mem)]

theorem mapM_eq_ok {f : α → Except ε β} {g : α → β} {xs : List α} (h : ∀ x ∈ xs, f x = .ok (g x)) :
    xs.mapM f = .ok (xs.map g) := by
  induction xs with
  | nil => rfl
  | cons x xs ih =>
    rw [List.mapM_cons, h x List.mem_cons_self, ih fun x mem => h x (List.mem_cons_of_mem _ mem)]
    rfl

theorem forM_ok {f : α → Except ε PUnit} {xs : List α} (h : xs.forM f = .ok ()) :
    ∀ x ∈ xs, f x = .ok () := by
  induction xs with
  | nil => simp
  | cons x xs ih =>
    obtain ⟨_, first, h⟩ := bind_ok (f := fun _ => xs.forM f) h
    exact List.forall_mem_cons.mpr ⟨first, ih h⟩

theorem forM_eq_ok {f : α → Except ε PUnit} {xs : List α} (h : ∀ x ∈ xs, f x = .ok ()) :
    xs.forM f = .ok () := by
  induction xs with
  | nil => rfl
  | cons x xs ih =>
    obtain ⟨first, rest⟩ := List.forall_mem_cons.mp h
    change (f x >>= fun _ => xs.forM f) = .ok ()
    rw [first, ok_bind, ih rest]

/-- What every step keeps holds at the end of a fold. -/
theorem foldlM_ok {σ : Type} {P : σ → Prop} {f : σ → α → Except ε σ} {xs : List α}
    (step : ∀ s, ∀ x ∈ xs, ∀ s', P s → f s x = .ok s' → P s') {s s' : σ} (start : P s)
    (h : xs.foldlM f s = .ok s') : P s' := by
  induction xs generalizing s with
  | nil => exact pure_ok h ▸ start
  | cons x xs ih =>
    obtain ⟨next, first, h⟩ := bind_ok h
    exact ih (fun s y mem => step s y (List.mem_cons_of_mem _ mem))
      (step s x List.mem_cons_self next start first) h

/-! ### Runs that fail -/

theorem map_error {x : Except ε α} {f : α → β} {e : ε} (h : x.map f = .error e) : x = .error e := by
  cases x with
  | error e' => exact congrArg Except.error (Except.error.inj h)
  | ok a => cases h

theorem mapError_error {ε' : Type} {x : Except ε α} {f : ε → ε'} {e : ε'}
    (h : x.mapError f = .error e) : ∃ e', x = .error e' ∧ e = f e' := by
  cases x with
  | error e' => exact ⟨e', rfl, (Except.error.inj h).symm⟩
  | ok a => cases h

theorem mapM_error {f : α → Except ε β} {xs : List α} {e : ε} (h : xs.mapM f = .error e) :
    ∃ x ∈ xs, f x = .error e := by
  induction xs with
  | nil => cases h
  | cons x xs ih =>
    rw [List.mapM_cons] at h
    rcases bind_error h with first | ⟨y, -, h⟩
    · exact ⟨x, List.mem_cons_self, first⟩
    · rcases bind_error h with rest | ⟨ys, -, h⟩
      · obtain ⟨x', mem, fails⟩ := ih rest
        exact ⟨x', List.mem_cons_of_mem _ mem, fails⟩
      · cases h

theorem mapM_total {f : α → Except ε β} {xs : List α}
    (each : ∀ x ∈ xs, ∃ y, f x = .ok y) : ∃ ys, xs.mapM f = .ok ys := by
  cases run : xs.mapM f with
  | ok ys => exact ⟨ys, rfl⟩
  | error e =>
    obtain ⟨x, mem, failed⟩ := mapM_error run
    obtain ⟨y, made⟩ := each x mem
    cases failed.symm.trans made

theorem forM_error {f : α → Except ε Unit} {xs : List α} {e : ε} (h : xs.forM f = .error e) :
    ∃ x ∈ xs, f x = .error e := by
  induction xs with
  | nil => cases h
  | cons x xs ih =>
    rcases bind_error (f := fun _ => xs.forM f) h with first | ⟨_, -, h⟩
    · exact ⟨x, List.mem_cons_self, first⟩
    · obtain ⟨x', mem, fails⟩ := ih h
      exact ⟨x', List.mem_cons_of_mem _ mem, fails⟩

theorem foldlM_error {σ : Type} {f : σ → α → Except ε σ} {xs : List α} {s : σ} {e : ε}
    (h : xs.foldlM f s = .error e) : ∃ s', ∃ x ∈ xs, f s' x = .error e := by
  induction xs generalizing s with
  | nil => cases h
  | cons x xs ih =>
    rcases bind_error h with first | ⟨next, -, h⟩
    · exact ⟨s, x, List.mem_cons_self, first⟩
    · obtain ⟨s', x', mem, fails⟩ := ih h
      exact ⟨s', x', List.mem_cons_of_mem _ mem, fails⟩

/-! ### Runs over renamed lists -/

section Renamed

variable {σ : Type} {π : α → β} {xs : List α}

theorem mapM_map_eq {γ : Type} {f : α → Except ε γ} {f' : β → Except ε γ}
    (each : ∀ x ∈ xs, f' (π x) = f x) : (xs.map π).mapM f' = xs.mapM f := by
  induction xs with
  | nil => rfl
  | cons x xs ih =>
    obtain ⟨first, rest⟩ := List.forall_mem_cons.mp each
    rw [List.map_cons, List.mapM_cons, List.mapM_cons, first, ih rest]

theorem mapM_congr {γ : Type} {f g : α → Except ε γ} (each : ∀ x ∈ xs, f x = g x) :
    xs.mapM f = xs.mapM g := by
  have same := mapM_map_eq (π := id) fun x mem => each x mem
  rwa [List.map_id] at same

theorem forM_map_eq {f : α → Except ε PUnit} {f' : β → Except ε PUnit}
    (each : ∀ x ∈ xs, f' (π x) = f x) : (xs.map π).forM f' = xs.forM f := by
  induction xs with
  | nil => rfl
  | cons x xs ih =>
    obtain ⟨first, rest⟩ := List.forall_mem_cons.mp each
    change (f' (π x) >>= fun _ => (xs.map π).forM f') = (f x >>= fun _ => xs.forM f)
    rw [first, ih rest]

theorem foldlM_map_eq {f : σ → α → Except ε σ} {f' : σ → β → Except ε σ}
    (each : ∀ s, ∀ x ∈ xs, f' s (π x) = f s x) (s : σ) :
    (xs.map π).foldlM f' s = xs.foldlM f s := by
  induction xs generalizing s with
  | nil => rfl
  | cons x xs ih =>
    rw [List.map_cons, List.foldlM_cons, List.foldlM_cons, each s x List.mem_cons_self]
    exact congrArg _ (funext fun s => ih (fun s y mem => each s y (List.mem_cons_of_mem _ mem)) s)

end Renamed

/-- A computation whose result passes a test has a result. -/
theorem ok_of_test {x : Except ε α} {P : α → Prop} [DecidablePred P]
    (h : (x.toOption.any fun a => decide (P a)) = true) : ∃ a, x = .ok a ∧ P a := by
  cases x with
  | error e => cases h
  | ok a => exact ⟨a, rfl, of_decide_eq_true h⟩

/-- A test for an error, where results cannot be compared. -/
def failsWith [DecidableEq ε] (x : Except ε α) (e : ε) : Bool :=
  match x with
  | .error e' => e' = e
  | .ok _ => false

theorem error_of_test [DecidableEq ε] {x : Except ε α} {e : ε} (h : failsWith x e = true) :
    x = .error e := by
  cases x with
  | error e' => exact congrArg Except.error (of_decide_eq_true h)
  | ok a => cases h

end Blueprint
