import Blueprint.Proofs.Module.Moved

/-!
# The nearest declaration of a name

What a declaration extends by a name is the nearest one that the name may mean. `bases_iff` says
that the bases of all declarations are found exactly where there is one nearest each time.
-/

namespace Blueprint.Inheritance

/-- The declaration at `j` may be a base of the one at `i` by this name. -/
structure Candidate (ds : List Declaration) (i : Nat) (name : String) (j : Nat) : Prop where
  other : j ≠ i
  fits : ∃ d e, ds[i]? = some d ∧ ds[j]? = some e ∧ e.label = name ∧ e.isRoot = false ∧
    (e.kind = d.kind ∨ e.kind = .mixin)

/-- A candidate at the least depth. -/
structure Nearest (ds : List Declaration) (i : Nat) (name : String) (j : Nat) : Prop where
  candidate : Candidate ds i name j
  least : ∀ k e e', Candidate ds i name k → ds[j]? = some e → ds[k]? = some e' → e.depth ≤ e'.depth

/-- Every name that a declaration extends has one nearest candidate. -/
def Resolves (ds : List Declaration) : Prop :=
  ∀ i d, ds[i]? = some d → ∀ name ∈ d.source.bases, ∃! j, Nearest ds i name j

/-- The declaration at `i` extends the one at `j`. -/
def Extends (ds : List Declaration) (i j : Nat) : Prop :=
  ∃ d, ds[i]? = some d ∧ ∃ name ∈ d.source.bases, Nearest ds i name j

variable {ds : List Declaration} {bs : List (List Nat)} {i j : Nat} {d : Declaration} {name : String}

/-! ### One name -/

theorem candidate_iff (here : ds[i]? = some d) :
    Candidate ds i name j ↔ j ∈ candidates ds i d.kind name := by
  rw [mem_candidates]
  simp only [offers, Bool.and_eq_true, Bool.or_eq_true, Bool.not_eq_true', beq_iff_eq, and_assoc]
  constructor
  · rintro ⟨other, d', e, here', there, fits⟩
    obtain rfl := Option.some.inj (here.symm.trans here')
    exact ⟨other, e, there, fits⟩
  · rintro ⟨other, e, there, fits⟩
    exact ⟨other, d, e, here, there, fits⟩

theorem Candidate.depth (h : Candidate ds i name j) : ∃ e, ds[j]? = some e ∧
    depthAt? ds j = some e.depth := by
  obtain ⟨_, e, -, there, -⟩ := h.fits
  exact ⟨e, there, by rw [depthAt?, there, Option.map_some]⟩

/-- No name is missing unless it has no candidate at all. -/
theorem no_candidate (here : ds[i]? = some d)
    (none : ((candidates ds i d.kind name).filterMap (depthAt? ds)).min? = none) :
    ¬Candidate ds i name j := by
  intro candidate
  obtain ⟨e, -, depth⟩ := candidate.depth
  rw [List.min?_eq_none_iff] at none
  have listed := List.mem_filterMap.mpr ⟨j, (candidate_iff here).mp candidate, depth⟩
  rw [none] at listed
  cases listed

theorem nearest_iff {depth : Nat} (here : ds[i]? = some d)
    (least : ((candidates ds i d.kind name).filterMap (depthAt? ds)).min? = some depth) :
    Nearest ds i name j ↔
      j ∈ (candidates ds i d.kind name).filter fun j => depthAt? ds j = some depth := by
  obtain ⟨reached, below⟩ := List.min?_eq_some_iff.mp least
  have bound : ∀ k e, Candidate ds i name k → ds[k]? = some e → depth ≤ e.depth := by
    intro k e candidate there
    refine below _ (List.mem_filterMap.mpr ⟨k, (candidate_iff here).mp candidate, ?_⟩)
    rw [depthAt?, there, Option.map_some]
  rw [List.mem_filter, ← candidate_iff here, decide_eq_true_eq]
  constructor
  · rintro ⟨candidate, nearest⟩
    obtain ⟨e, there, depth'⟩ := candidate.depth
    obtain ⟨k, listed, depthK⟩ := List.mem_filterMap.mp reached
    have candidateK := (candidate_iff here).mpr listed
    obtain ⟨e', thereK, depthK'⟩ := candidateK.depth
    have deep := nearest k e e' candidateK there thereK
    have deep' := bound j e candidate there
    obtain rfl := Option.some.inj (depthK.symm.trans depthK')
    exact ⟨candidate, by rw [depth', Nat.le_antisymm deep deep']⟩
  · rintro ⟨candidate, depth'⟩
    refine ⟨candidate, fun k e e' candidateK there thereK => ?_⟩
    rw [depthAt?, there, Option.map_some] at depth'
    exact Option.some.inj depth' ▸ bound k e' candidateK thereK

theorem base_ok_iff (here : ds[i]? = some d) :
    base ds i d name = .ok j ↔ Nearest ds i name j ∧ ∀ k, Nearest ds i name k → k = j := by
  unfold base
  dsimp only
  split
  · rename_i none
    refine ⟨nofun, fun ⟨nearest, _⟩ => (no_candidate here none nearest.candidate).elim⟩
  · rename_i depth least
    have near : ∀ k, Nearest ds i name k ↔ k ∈ _ := fun k => nearest_iff here least
    have distinct := (candidates_nodup ds i d.kind name).filter fun j => depthAt? ds j = some depth
    split
    · rename_i k single
      rw [single] at near
      simp only [near, List.mem_singleton, Except.ok.injEq]
      exact ⟨fun same => ⟨same.symm, fun _ same' => same'.trans same⟩, fun ⟨same, _⟩ => same.symm⟩
    · rename_i several
      refine ⟨nofun, fun ⟨nearest, only⟩ => (several j ?_).elim⟩
      have same : ((candidates ds i d.kind name).filter fun j =>
          depthAt? ds j = some depth).Perm [j] := by
        refine (List.perm_ext_iff_of_nodup distinct (List.nodup_singleton j)).mpr fun k => ?_
        rw [← near k, List.mem_singleton]
        exact ⟨only k, fun same => same ▸ nearest⟩
      exact List.perm_singleton.mp same

/-! ### All names -/

theorem bases_nearest (h : bases ds = .ok bs) (here : ds[i]? = some d) :
    List.Forall₂ (Nearest ds i) d.source.bases ((bs[i]?).getD []) :=
  ((bases_ok h).2 i d here).imp fun _ _ found => ((base_ok_iff here).mp found).1

theorem bases_iff : (∃ bs, bases ds = .ok bs) ↔ Resolves ds := by
  constructor
  · rintro ⟨bs, found⟩ i d here name extended
    obtain ⟨j, -, based⟩ := mem_forall₂ ((bases_ok found).2 i d here) name extended
    exact ⟨j, (base_ok_iff here).mp based⟩
  · intro resolves
    refine mapM_total fun x mem => mapM_total fun name extended => ?_
    have here := List.mem_zipIdx_iff_getElem?.mp mem
    obtain ⟨j, nearest⟩ := resolves _ _ here name extended
    exact ⟨j, (base_ok_iff here).mpr nearest⟩

theorem mem_bases_iff (h : bases ds = .ok bs) : j ∈ (bs[i]?).getD [] ↔ Extends ds i j := by
  obtain ⟨length, -⟩ := bases_ok h
  constructor
  · intro mem
    have inside : i < ds.length := by
      by_contra outside
      rw [List.getElem?_eq_none (by omega)] at mem
      cases mem
    have here := List.getElem?_eq_getElem inside
    obtain ⟨name, extended, nearest⟩ := mem_forall₂ (bases_nearest h here).flip j mem
    exact ⟨_, here, name, extended, nearest⟩
  · rintro ⟨d, here, name, extended, nearest⟩
    obtain ⟨k, mem, based⟩ := mem_forall₂ ((bases_ok h).2 i d here) name extended
    rw [((base_ok_iff here).mp based).2 j nearest]
    exact mem

theorem Extends.places (h : Extends ds i j) : i < ds.length ∧ j < ds.length := by
  obtain ⟨d, here, name, -, nearest⟩ := h
  obtain ⟨_, e, -, there, -⟩ := nearest.candidate.fits
  exact ⟨(List.getElem?_eq_some_iff.mp here).1, (List.getElem?_eq_some_iff.mp there).1⟩

end Blueprint.Inheritance
