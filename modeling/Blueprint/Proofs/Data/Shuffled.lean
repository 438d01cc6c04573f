import Blueprint.Data.OrderedMap
import Blueprint.Proofs.Data.Maps
import Mathlib.Data.List.Forall2
import Mathlib.Logic.Equiv.Basic

/-!
# Lists in another order

Items of different names change places; items of one name stay in their order, as the last of them
may count. An item without a name may stand anywhere. What is made of such lists item by item is in
another order too, and so is a map that is filled with them.
-/

namespace Blueprint

variable {α β κ : Type}

/-- Items change places unless they have one name. -/
inductive Shuffled (name : α → Option κ) : List α → List α → Prop where
  | nil : Shuffled name [] []
  | cons (x : α) {xs ys : List α} (rest : Shuffled name xs ys) : Shuffled name (x :: xs) (x :: ys)
  | swap {x y : α} (xs : List α) (apart : ∀ k, name x = some k → name y ≠ some k) :
      Shuffled name (x :: y :: xs) (y :: x :: xs)
  | trans {xs ys zs : List α} (first : Shuffled name xs ys) (second : Shuffled name ys zs) :
      Shuffled name xs zs

namespace Shuffled

variable {name : α → Option κ} {xs ys : List α}

theorem symm (h : Shuffled name xs ys) : Shuffled name ys xs := by
  induction h with
  | nil => exact .nil
  | cons x _ ih => exact .cons x ih
  | swap xs apart => exact .swap xs fun k here there => apart k there here
  | trans _ _ ih ih' => exact .trans ih' ih

/-- Items of which no two have one name may be put in any order. -/
theorem of_perm (h : xs.Perm ys) (distinct : (xs.filterMap name).Nodup) : Shuffled name xs ys := by
  induction h with
  | nil => exact .nil
  | cons x _ ih =>
    exact .cons x (ih (distinct.sublist ((List.sublist_cons_self x _).filterMap name)))
  | swap y x xs =>
    refine .swap xs fun k here there => ?_
    rw [List.filterMap_cons_some here, List.filterMap_cons_some there] at distinct
    exact (List.nodup_cons.mp distinct).1 List.mem_cons_self
  | trans first _ ih ih' =>
    exact .trans (ih distinct) (ih' ((first.filterMap name).nodup_iff.mp distinct))

/-- What is made of the items one by one goes with them, as long as it keeps their names. -/
theorem forall₂ {R : α → β → Prop} (h : Shuffled name xs ys) (name' : β → Option κ)
    (names : ∀ a b, R a b → name a = name' b) {as : List β} (made : List.Forall₂ R xs as) :
    ∃ bs, List.Forall₂ R ys bs ∧ Shuffled name' as bs := by
  induction h generalizing as with
  | nil =>
    cases made
    exact ⟨[], .nil, .nil⟩
  | cons x _ ih =>
    cases made with
    | cons first rest =>
      obtain ⟨bs, made, shuffled⟩ := ih rest
      exact ⟨_ :: bs, .cons first made, .cons _ shuffled⟩
  | swap xs apart =>
    cases made with
    | cons first made =>
      cases made with
      | cons second rest =>
        refine ⟨_, .cons second (.cons first rest), .swap _ ?_⟩
        rw [← names _ _ first, ← names _ _ second]
        exact apart
  | trans _ _ ih ih' =>
    obtain ⟨bs, made, first⟩ := ih made
    obtain ⟨cs, made, second⟩ := ih' made
    exact ⟨cs, made, .trans first second⟩

end Shuffled

namespace OrderedMap

theorem mem_entries {m : OrderedMap α} {e : String × α} : e ∈ m.entries ↔ m.get? e.1 = some e.2 :=
  ⟨Entries.get?_of_mem m.nodup, Entries.mem_of_get?⟩

/-- Maps that agree have the same entries, in some order. -/
theorem perm_of_get? {m n : OrderedMap α} (h : ∀ k, m.get? k = n.get? k) :
    m.entries.Perm n.entries := by
  refine (List.perm_ext_iff_of_nodup m.nodup.of_map n.nodup.of_map).mpr fun e => ?_
  rw [mem_entries, mem_entries, h]

theorem get?_foldl_insert_congr {es : List (String × α)} {m n : OrderedMap α}
    (h : ∀ k, m.get? k = n.get? k) (k : String) :
    (es.foldl (fun m (k, v) => m.insert k v) m).get? k =
      (es.foldl (fun m (k, v) => m.insert k v) n).get? k := by
  induction es generalizing m n with
  | nil => exact h k
  | cons e es ih => exact ih fun k' => by rw [get?_insert, get?_insert, h]

theorem get?_foldl_insert_shuffled {es fs : List (String × α)}
    (h : Shuffled (fun e => some e.1) es fs) (m : OrderedMap α) (k : String) :
    (es.foldl (fun m (k, v) => m.insert k v) m).get? k =
      (fs.foldl (fun m (k, v) => m.insert k v) m).get? k := by
  induction h generalizing m with
  | nil => rfl
  | cons x _ ih => exact ih _
  | @swap x y es apart =>
    change (es.foldl (fun m (k, v) => m.insert k v) ((m.insert x.1 x.2).insert y.1 y.2)).get? k =
      (es.foldl (fun m (k, v) => m.insert k v) ((m.insert y.1 y.2).insert x.1 x.2)).get? k
    refine get?_foldl_insert_congr (fun k' => ?_) k
    rw [get?_insert, get?_insert, get?_insert, get?_insert]
    by_cases here : x.1 = k'
    · have other : y.1 ≠ k' := fun there =>
        apart k' (congrArg some here) (congrArg some there)
      rw [if_neg other, if_pos here, if_pos here]
    · rw [if_neg here, if_neg here]
  | trans _ _ ih ih' => exact (ih m).trans (ih' m)

theorem ofList_shuffled {es fs : List (String × α)} (h : Shuffled (fun e => some e.1) es fs) :
    (ofList es).entries.Perm (ofList fs).entries :=
  perm_of_get? (get?_foldl_insert_shuffled h ∅)

end OrderedMap

/-! ### Places -/

/-- The same renumbering one place further on. -/
def shiftPlaces (π : Equiv.Perm Nat) : Equiv.Perm Nat where
  toFun
    | 0 => 0
    | i + 1 => π i + 1
  invFun
    | 0 => 0
    | i + 1 => π.symm i + 1
  left_inv i := by cases i <;> simp
  right_inv i := by cases i <;> simp

/-- Every item of a list has its place in the list in another order. -/
theorem exists_places {xs ys : List α} (h : xs.Perm ys) :
    ∃ π : Equiv.Perm Nat, ∀ i, ys[π i]? = xs[i]? := by
  induction h with
  | nil => exact ⟨Equiv.refl _, fun _ => rfl⟩
  | cons x _ ih =>
    obtain ⟨π, same⟩ := ih
    refine ⟨shiftPlaces π, fun i => ?_⟩
    cases i with
    | zero => rfl
    | succ i => exact same i
  | swap x y xs =>
    refine ⟨Equiv.swap 0 1, fun i => ?_⟩
    match i with
    | 0 => rw [Equiv.swap_apply_left]; rfl
    | 1 => rw [Equiv.swap_apply_right]; rfl
    | i + 2 => rw [Equiv.swap_apply_of_ne_of_ne (by omega) (by omega)]; rfl
  | trans _ _ ih ih' =>
    obtain ⟨π, same⟩ := ih
    obtain ⟨π', same'⟩ := ih'
    exact ⟨π.trans π', fun i => (same' (π i)).trans (same i)⟩

end Blueprint
