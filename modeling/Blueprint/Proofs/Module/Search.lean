import Blueprint.Module.Inheritance
import Mathlib.Data.List.Basic

/-!
# The search for an order

The search counts for every declaration how many of its bases are missing. `search_placed` says that
it places in every round the first declaration that is missing while its bases are not.
-/

namespace Blueprint.Inheritance

/-- The first place that is not in the order yet, although all its bases are. -/
def next? (bs : List (List Nat)) (placed : List Nat) : Option Nat :=
  (List.range bs.length).find? fun i =>
    !placed.contains i && ((bs[i]?).getD []).all placed.contains

def extend (bs : List (List Nat)) : Nat → List Nat → List Nat
  | 0, placed => placed
  | n + 1, placed =>
    match next? bs placed with
    | some i => extend bs n (placed ++ [i])
    | none => placed

variable {bs : List (List Nat)}

/-- A declaration is released by a base as often as it extends that base. -/
theorem count_dependents (bs : List (List Nat)) (i j : Nat) :
    (dependents bs j).count i = ((bs[i]?).getD []).count j := by
  suffices shifted : ∀ k, ((bs.zipIdx k).flatMap fun p => List.replicate (p.1.count j) p.2).count
      (k + i) = ((bs[i]?).getD []).count j by
    have unshifted := shifted 0
    rw [Nat.zero_add] at unshifted
    exact unshifted
  intro k
  induction bs generalizing i k with
  | nil => simp
  | cons js bs ih =>
    rw [List.zipIdx_cons, List.flatMap_cons, List.count_append, List.count_replicate]
    cases i with
    | zero =>
      have later : ((bs.zipIdx (k + 1)).flatMap fun p => List.replicate (p.1.count j) p.2).count
          k = 0 := by
        refine List.count_eq_zero.mpr fun mem => ?_
        obtain ⟨⟨js', i'⟩, there, same⟩ := List.mem_flatMap.mp mem
        have below := List.le_snd_of_mem_zipIdx there
        have here := (List.mem_replicate.mp same).2
        omega
      simp [later]
    | succ i =>
      have apart : (k == k + (i + 1)) = false := by simp
      rw [apart, if_neg (by simp), Nat.zero_add, show k + (i + 1) = k + 1 + i by omega, ih]
      simp

theorem lt_of_mem_dependents {i j : Nat} (mem : i ∈ dependents bs j) : i < bs.length := by
  have counted := List.count_pos_iff.mpr mem
  by_contra outside
  rw [count_dependents, List.getElem?_eq_none (Nat.le_of_not_lt outside)] at counted
  simp at counted

namespace Search

variable {s : Search}

/-! ### Ready declarations -/

theorem mem_insert {i j : Nat} {js : List Nat} : j ∈ insert i js ↔ j = i ∨ j ∈ js := by
  induction js with
  | nil => simp [insert]
  | cons k js ih =>
    rw [insert]
    split
    · rw [List.mem_cons]
    · split
      · rename_i same
        subst same
        simp
      · rw [List.mem_cons, ih, List.mem_cons]
        exact or_left_comm

theorem insert_sorted {i : Nat} {js : List Nat} (h : js.Pairwise (· < ·)) :
    (insert i js).Pairwise (· < ·) := by
  induction js with
  | nil => exact List.pairwise_singleton _ i
  | cons k js ih =>
    obtain ⟨first, rest⟩ := List.pairwise_cons.mp h
    rw [insert]
    split
    · rename_i below
      refine .cons (List.forall_mem_cons.mpr ⟨below, fun j mem => ?_⟩) h
      exact Nat.lt_trans below (first j mem)
    · split
      · exact h
      · refine .cons (fun j mem => ?_) (ih rest)
        rcases mem_insert.mp mem with rfl | mem
        · omega
        · exact first j mem

/-! ### Releasing -/

/-- What comes of a list of releases. A declaration that waits for no more is ready. -/
structure Released (s : Search) (ks : List Nat) (s' : Search) : Prop where
  placed : s'.placed = s.placed
  length : s'.waiting.length = s.waiting.length
  waiting : ∀ k, (s'.waiting[k]?).getD 0 = (s.waiting[k]?).getD 0 - ks.count k
  sorted : s'.ready.Pairwise (· < ·)
  ready : ∀ k, k ∈ s'.ready ↔ k ∈ s.ready ∨ k ∈ ks ∧ (s'.waiting[k]?).getD 0 = 0

theorem release_waiting (s : Search) (i k : Nat) :
    ((s.release i).waiting[k]?).getD 0 = (s.waiting[k]?).getD 0 - [i].count k := by
  unfold release
  dsimp only
  by_cases same : k = i
  · subst same
    by_cases inside : k < s.waiting.length <;> simp [inside]
  · have apart : [i].count k = 0 := List.count_eq_zero.mpr (by simpa using same)
    rw [List.getElem?_set_ne (Ne.symm same), apart, Nat.sub_zero]

theorem released_one (i : Nat) (sorted : s.ready.Pairwise (· < ·)) :
    Released s [i] (s.release i) := by
  have left := release_waiting s i i
  rw [List.count_singleton_self] at left
  refine ⟨rfl, List.length_set .., release_waiting s i, ?_, fun k => ?_⟩
  · unfold release
    dsimp only
    split
    · exact insert_sorted sorted
    · exact sorted
  · have added : k ∈ (s.release i).ready ↔
        k ∈ s.ready ∨ k = i ∧ (s.waiting[i]?).getD 0 - 1 = 0 := by
      unfold release
      dsimp only
      split
      · rename_i last
        rw [mem_insert]
        simp [last, or_comm]
      · rename_i more
        simp [more]
    rw [added, List.mem_singleton]
    refine or_congr_right (and_congr_right ?_)
    rintro rfl
    rw [left]

theorem Released.cons {s₁ s₂ : Search} {i : Nat} {ks : List Nat} (first : Released s [i] s₁)
    (rest : Released s₁ ks s₂) : Released s (i :: ks) s₂ := by
  have counts : ∀ k, (i :: ks).count k = [i].count k + ks.count k := by
    intro k
    rw [← List.count_append, List.singleton_append]
  refine ⟨rest.placed.trans first.placed, rest.length.trans first.length, fun k => ?_, rest.sorted,
    fun k => ?_⟩
  · rw [rest.waiting, first.waiting, counts, Nat.sub_sub]
  · have after := rest.waiting k
    rw [rest.ready, first.ready, List.mem_singleton, List.mem_cons]
    constructor
    · rintro ((old | ⟨rfl, done⟩) | ⟨mem, done⟩)
      · exact .inl old
      · exact .inr ⟨.inl rfl, by omega⟩
      · exact .inr ⟨.inr mem, done⟩
    · rintro (old | ⟨rfl | mem, done⟩)
      · exact .inl (.inl old)
      · by_cases again : k ∈ ks
        · exact .inr ⟨again, done⟩
        · rw [List.count_eq_zero.mpr again] at after
          exact .inl (.inr ⟨rfl, by omega⟩)
      · exact .inr ⟨mem, done⟩

theorem foldl_release (ks : List Nat) (sorted : s.ready.Pairwise (· < ·)) :
    Released s ks (ks.foldl release s) := by
  induction ks generalizing s with
  | nil => exact ⟨rfl, rfl, fun k => by simp, sorted, fun k => by simp⟩
  | cons i ks ih =>
    have first := released_one i sorted
    exact first.cons (ih first.sorted)

/-! ### Rounds -/

/-- What a search knows: for every declaration how many of its bases are missing, each as often as
it is extended, and which missing declarations wait for none. -/
structure Counts (bs : List (List Nat)) (s : Search) : Prop where
  length : s.waiting.length = bs.length
  waiting : ∀ i : Nat, (s.waiting[i]?).getD 0 = ((bs[i]?).getD []).countP (· ∉ s.placed)
  sorted : s.ready.Pairwise (· < ·)
  ready : ∀ i : Nat, i ∈ s.ready ↔ i < bs.length ∧ i ∉ s.placed ∧ (s.waiting[i]?).getD 0 = 0
  closed : ∀ i ∈ s.placed, (s.waiting[i]?).getD 0 = 0

theorem counts_start (bs : List (List Nat)) : Counts bs (start bs) where
  length := List.length_map ..
  waiting := by
    intro i
    simp only [start, List.getElem?_map]
    cases bs[i]? <;> simp
  sorted := List.Pairwise.filter _ List.pairwise_lt_range
  ready := by simp [start]
  closed := by simp [start]

theorem countP_placed {placed : List Nat} {i : Nat} (fresh : i ∉ placed) (js : List Nat) :
    js.countP (· ∉ placed) = js.countP (· ∉ placed ++ [i]) + js.count i := by
  induction js with
  | nil => rfl
  | cons j js ih =>
    rw [List.countP_cons, List.countP_cons, List.count_cons, ih]
    by_cases same : j = i
    · subst same
      simp [fresh]
      omega
    · simp [same]
      omega

/-- The bases of a declaration that are missing, those aside that are placed next. -/
theorem Counts.missing {i : Nat} (h : Counts bs s) (fresh : i ∉ s.placed) (k : Nat) :
    (s.waiting[k]?).getD 0 =
      ((bs[k]?).getD []).countP (· ∉ s.placed ++ [i]) + (dependents bs i).count k := by
  rw [h.waiting, countP_placed fresh, count_dependents]

/-- A round leaves what the search knows true. -/
theorem Counts.round {i : Nat} {ready : List Nat} (h : Counts bs s) (first : s.ready = i :: ready) :
    let s' := (dependents bs i).foldl release { s with ready, placed := s.placed ++ [i] }
    Counts bs s' ∧ s'.placed = s.placed ++ [i] := by
  obtain ⟨-, fresh, done⟩ := (h.ready i).mp (first ▸ List.mem_cons_self)
  obtain ⟨least, sorted⟩ := List.pairwise_cons.mp (first ▸ h.sorted)
  have released := foldl_release (s := { s with ready, placed := s.placed ++ [i] })
    (dependents bs i) sorted
  have waiting := released.waiting
  dsimp only at waiting
  refine ⟨⟨released.length.trans h.length, fun k => ?_, released.sorted, fun k => ?_,
    fun k mem => ?_⟩, released.placed⟩
  · rw [waiting, released.placed, h.missing fresh]
    exact Nat.add_sub_cancel ..
  · rw [released.ready, released.placed, List.mem_append, List.mem_singleton]
    have below : k ∈ ready → i < k := least k
    have known := h.ready k
    rw [first, List.mem_cons] at known
    have after := waiting k
    have room := h.missing fresh k
    constructor
    · rintro (old | ⟨mem, last⟩)
      · obtain ⟨inside, fresh', none⟩ := known.mp (.inr old)
        have other := below old
        refine ⟨inside, ?_, by omega⟩
        rintro (placed | rfl)
        · exact fresh' placed
        · omega
      · have counted := List.count_pos_iff.mpr mem
        refine ⟨lt_of_mem_dependents mem, ?_, last⟩
        rintro (placed | rfl)
        · have none := h.closed k placed
          omega
        · omega
    · rintro ⟨inside, fresh', last⟩
      by_cases mem : k ∈ dependents bs i
      · exact .inr ⟨mem, last⟩
      · rw [List.count_eq_zero.mpr mem] at after
        have unplaced : k ∉ s.placed := fun placed => fresh' (.inl placed)
        rcases known.mpr ⟨inside, unplaced, by omega⟩ with rfl | old
        · exact (fresh' (.inr rfl)).elim
        · exact .inl old
  · rw [released.placed, List.mem_append, List.mem_singleton] at mem
    have after := waiting k
    rcases mem with placed | rfl
    · have none := h.closed k placed
      omega
    · omega

theorem Counts.next? (h : Counts bs s) : next? bs s.placed = s.ready.head? := by
  have known : ∀ i, (i < bs.length ∧ (!s.placed.contains i &&
      ((bs[i]?).getD []).all s.placed.contains) = true) ↔ i ∈ s.ready := by
    intro i
    rw [h.ready, h.waiting]
    simp
  unfold Inheritance.next?
  cases first : s.ready with
  | nil =>
    refine List.find?_eq_none.mpr fun i mem ready => ?_
    have listed := (known i).mp ⟨List.mem_range.mp mem, ready⟩
    simp [first] at listed
  | cons i ready =>
    obtain ⟨inside, ready'⟩ := (known i).mpr (first ▸ List.mem_cons_self)
    refine List.find?_range_eq_some.mpr ⟨ready', List.mem_range.mpr inside, fun j below => ?_⟩
    by_contra other
    have listed := (known j).mp ⟨Nat.lt_trans below inside, by simpa using other⟩
    obtain ⟨least, -⟩ := List.pairwise_cons.mp (first ▸ h.sorted)
    rcases List.mem_cons.mp (first ▸ listed) with rfl | later
    · omega
    · have above := least j later
      omega

theorem run_placed (h : Counts bs s) (n : Nat) : (run bs n s).placed = extend bs n s.placed := by
  induction n generalizing s with
  | zero => rfl
  | succ n ih =>
    rw [run, extend, h.next?]
    cases first : s.ready with
    | nil => rfl
    | cons i ready =>
      obtain ⟨round, placed⟩ := h.round first
      dsimp only [List.head?_cons]
      rw [ih round, placed]

end Search

theorem search_placed (bs : List (List Nat)) (n : Nat) :
    (Search.run bs n (.start bs)).placed = extend bs n [] :=
  Search.run_placed (Search.counts_start bs) n

end Blueprint.Inheritance
