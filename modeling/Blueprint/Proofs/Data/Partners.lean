import Mathlib.Data.List.Forall2

/-!
# Lists of partners

Two lists that are related item by item: partners stand at the same place, and what is made of one
list item by item has its partner in what is made of the other.
-/

namespace Blueprint

variable {α β γ δ : Type}

theorem getElem?_of_forall₂ {R : α → β → Prop} {xs : List α} {ys : List β}
    (h : List.Forall₂ R xs ys) {i : Nat} {x : α} (at_ : xs[i]? = some x) :
    ∃ y, ys[i]? = some y ∧ R x y := by
  obtain ⟨inside, rfl⟩ := List.getElem?_eq_some_iff.mp at_
  have inside' : i < ys.length := h.length_eq ▸ inside
  exact ⟨ys[i], List.getElem?_eq_getElem inside', h.get inside inside'⟩

theorem mem_forall₂ {R : α → β → Prop} {xs : List α} {ys : List β} (h : List.Forall₂ R xs ys) :
    ∀ x ∈ xs, ∃ y ∈ ys, R x y := by
  intro x mem
  obtain ⟨i, place⟩ := List.mem_iff_getElem?.mp mem
  obtain ⟨y, listed, related⟩ := getElem?_of_forall₂ h place
  exact ⟨y, List.mem_of_getElem? listed, related⟩

/-- What is found first among partners are partners. -/
theorem find?_partners {R : α → β → Prop} {p : α → Bool} {q : β → Bool}
    (same : ∀ x y, R x y → q y = p x) {xs : List α} {ys : List β} (h : List.Forall₂ R xs ys) :
    (xs.find? p = none ∧ ys.find? q = none) ∨
      ∃ x y, xs.find? p = some x ∧ ys.find? q = some y ∧ R x y := by
  induction h with
  | nil => exact .inl ⟨rfl, rfl⟩
  | @cons x y xs ys first _ ih =>
    cases here : p x with
    | true =>
      exact .inr ⟨x, y, List.find?_cons_of_pos here,
        List.find?_cons_of_pos ((same x y first).trans here), first⟩
    | false =>
      rw [List.find?_cons_of_neg (by simp [here]),
        List.find?_cons_of_neg (by simp [same x y first, here])]
      exact ih

theorem forall₂_takeWhile {R : α → β → Prop} {p : α → Bool} {q : β → Bool} {xs : List α}
    {ys : List β} (same : ∀ x y, R x y → p x = q y)
    (h : List.Forall₂ R xs ys) : List.Forall₂ R (xs.takeWhile p) (ys.takeWhile q) ∧
      List.Forall₂ R (xs.dropWhile p) (ys.dropWhile q) := by
  induction h with
  | nil => exact ⟨.nil, .nil⟩
  | @cons x y xs ys first rest ih =>
    rw [List.takeWhile_cons, List.takeWhile_cons, List.dropWhile_cons, List.dropWhile_cons,
      same x y first]
    split
    · exact ⟨.cons first ih.1, ih.2⟩
    · exact ⟨.nil, .cons first rest⟩

theorem forall₂_filterMap {R : β → γ → Prop} {f : α → Option β} {xs : List α} {ys : List γ}
    (h : List.Forall₂ (fun x y => ∃ b, f x = some b ∧ R b y) xs ys) :
    List.Forall₂ R (xs.filterMap f) ys := by
  induction h with
  | nil => exact .nil
  | cons first _ ih =>
    obtain ⟨b, found, related⟩ := first
    rw [List.filterMap_cons_some found]
    exact .cons related ih

theorem filterMap_sublist {f : α → Option β} {g : β → γ} {w : α → γ}
    (each : ∀ x b, f x = some b → g b = w x) (xs : List α) :
    ((xs.filterMap f).map g).Sublist (xs.map w) := by
  induction xs with
  | nil => exact List.Sublist.refl _
  | cons x xs ih =>
    cases found : f x with
    | none =>
      rw [List.filterMap_cons_none found]
      exact ih.cons _
    | some b =>
      rw [List.filterMap_cons_some found, List.map_cons, List.map_cons, each x b found]
      exact ih.cons_cons _

theorem forall₂_flatMap {R : β → γ → Prop} {f : α → List β} {g : α → List γ} {xs : List α}
    (h : ∀ x ∈ xs, List.Forall₂ R (f x) (g x)) :
    List.Forall₂ R (xs.flatMap f) (xs.flatMap g) := by
  induction xs with
  | nil => exact .nil
  | cons x xs ih =>
    obtain ⟨first, rest⟩ := List.forall_mem_cons.mp h
    exact List.rel_append first (ih rest)

/-- Two lists with the same partners agree in what the partners determine. -/
theorem map_eq_map {R : α → β → Prop} {S : α → γ → Prop} {f : β → δ} {g : γ → δ}
    (each : ∀ x y z, R x y → S x z → f y = g z) {xs : List α} {ys : List β} {zs : List γ}
    (left : List.Forall₂ R xs ys) (right : List.Forall₂ S xs zs) : ys.map f = zs.map g := by
  induction left generalizing zs with
  | nil =>
    cases right
    rfl
  | cons first _ ih =>
    cases right with
    | cons first' rest => rw [List.map_cons, List.map_cons, each _ _ _ first first', ih rest]

theorem map_eq_of_forall₂ {R : α → β → Prop} {f : α → γ} {g : β → γ}
    (each : ∀ x y, R x y → g y = f x) {xs : List α} {ys : List β} (h : List.Forall₂ R xs ys) :
    ys.map g = xs.map f := by
  induction h with
  | nil => rfl
  | cons first _ ih => rw [List.map_cons, List.map_cons, each _ _ first, ih]

/-- What holds of two items and their partners holds of the pairs. -/
theorem pairwise_zip {R : α → β → Prop} {S : α → α → Prop} {T : α × β → α × β → Prop} {xs : List α}
    {ys : List β} (h : List.Forall₂ R xs ys) (apart : xs.Pairwise S)
    (each : ∀ a ∈ xs, ∀ b ∈ xs, ∀ x y, R a x → R b y → S a b → T (a, x) (b, y)) :
    (xs.zip ys).Pairwise T := by
  induction h with
  | nil => exact .nil
  | @cons a x xs ys first rest ih =>
    obtain ⟨head, tail⟩ := List.pairwise_cons.mp apart
    refine List.pairwise_cons.mpr ⟨?_, ih tail fun b mem b' mem' =>
      each b (List.mem_cons_of_mem _ mem) b' (List.mem_cons_of_mem _ mem')⟩
    rintro ⟨b, y⟩ mem
    exact each a List.mem_cons_self b (List.mem_cons_of_mem _ (List.of_mem_zip mem).1) x y first
      (List.forall₂_zip rest mem) (head b (List.of_mem_zip mem).1)

end Blueprint
