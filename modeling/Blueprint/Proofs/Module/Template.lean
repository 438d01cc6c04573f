import Blueprint.Error
import Blueprint.Module.Template
import Blueprint.Proofs.Except
import Blueprint.Proofs.Text.Cut

/-!
# What a template is filled with

A template is read once from left to right, without a look at the parameters: `Reads` cuts it into
pieces at the first braces that open, where they first close. Filling goes from place to place in a
text that changes, and comes to the same as putting the values into the pieces (`fill_pass`). The
texts of a value are filled in turn, up to the first placeholder without a value
(`fillValue_needs`).
-/

namespace Blueprint.Params

variable {s before inner after rest : List Char} {key : String}

/-! ### Reading a template -/

/-- Text that stays, or a placeholder of a key. -/
inductive Piece where
  | text (cs : List Char)
  | key (k : String)
  deriving DecidableEq, Repr

/-- The first braces of a text, and what stands before, in and after them. -/
def Braced (s before inner after : List Char) : Prop :=
  ∃ inside, Text.First opener s before inside ∧ Text.First closer inside inner after

/-- What stands in braces is a placeholder of this key. -/
def Names (inner : List Char) (key : String) : Prop :=
  Text.trimChars inner = "params.".toList ++ key.toList

/-- The pieces of a template, up to the last braces that are closed, and the rest of it. -/
inductive Reads : List Char → List Piece → List Char → Prop where
  | rest {s : List Char} (open_ : ∀ before inner after, ¬Braced s before inner after) : Reads s [] s
  | kept {s before inner after rest : List Char} {pieces : List Piece}
      (braced : Braced s before inner after) (other : ∀ key, ¬Names inner key)
      (next : Reads after pieces rest) :
      Reads s (.text (before ++ opener ++ inner ++ closer) :: pieces) rest
  | placeholder {s before inner after rest : List Char} {key : String} {pieces : List Piece}
      (braced : Braced s before inner after) (names : Names inner key)
      (next : Reads after pieces rest) : Reads s (.text before :: .key key :: pieces) rest

theorem Names.unique {key' : String} (h : Names inner key) (h' : Names inner key') : key = key' :=
  String.toList_injective (List.append_cancel_left (h.symm.trans h'))

theorem Braced.unique {before' inner' after' : List Char} (h : Braced s before inner after)
    (h' : Braced s before' inner' after') : before = before' ∧ inner = inner' ∧ after = after' := by
  obtain ⟨inside, opens, closes⟩ := h
  obtain ⟨inside', opens', closes'⟩ := h'
  obtain ⟨rfl, rfl⟩ := opens.unique opens'
  obtain ⟨rfl, rfl⟩ := closes.unique closes'
  exact ⟨rfl, rfl, rfl⟩

theorem Braced.whole (h : Braced s before inner after) :
    s = before ++ opener ++ inner ++ closer ++ after := by
  obtain ⟨inside, opens, closes⟩ := h
  rw [opens.whole, closes.whole]
  simp

theorem key?_eq_some : key? inner = some key ↔ Names inner key := by
  rw [key?, Names]
  constructor
  · intro h
    split at h
    · rename_i found
      obtain rfl := Option.some.inj h
      have whole := Text.cut?_eq_some found
      simpa using whole
    · cases h
  · intro names
    rw [names]
    have found : Text.cut? "params.".toList ("params.".toList ++ key.toList) = some ([], key.toList) :=
      (Text.cut?_eq_some_iff (by decide)).mpr ⟨rfl, fun _ _ _ => Nat.zero_le _⟩
    rw [found]
    exact congrArg some String.ofList_toList

theorem key?_eq_none : key? inner = none ↔ ∀ key, ¬Names inner key := by
  rw [Option.eq_none_iff_forall_ne_some]
  exact forall_congr' fun key => not_congr key?_eq_some

theorem braced_iff : Braced s before inner after ↔
    ∃ inside, Text.cut? opener s = some (before, inside) ∧
      Text.cut? closer inside = some (inner, after) := by
  refine exists_congr fun inside => ?_
  rw [Text.cut?_eq_some_iff (by decide), Text.cut?_eq_some_iff (by decide)]

/-- A template has one reading. -/
theorem Reads.unique {pieces pieces' : List Piece} {rest' : List Char} (h : Reads s pieces rest)
    (h' : Reads s pieces' rest') : pieces = pieces' ∧ rest = rest' := by
  induction h generalizing pieces' rest' with
  | rest none =>
    cases h' with
    | rest => exact ⟨rfl, rfl⟩
    | kept braced | placeholder braced => exact absurd braced (none _ _ _)
  | kept braced other _ ih =>
    cases h' with
    | rest none => exact absurd braced (none _ _ _)
    | kept braced' _ next =>
      obtain ⟨rfl, rfl, rfl⟩ := braced.unique braced'
      obtain ⟨rfl, rfl⟩ := ih next
      exact ⟨rfl, rfl⟩
    | placeholder braced' names =>
      obtain ⟨rfl, rfl, rfl⟩ := braced.unique braced'
      exact absurd names (other _)
  | placeholder braced names _ ih =>
    cases h' with
    | rest none => exact absurd braced (none _ _ _)
    | kept braced' other =>
      obtain ⟨rfl, rfl, rfl⟩ := braced.unique braced'
      exact absurd names (other _)
    | placeholder braced' names' next =>
      obtain ⟨rfl, rfl, rfl⟩ := braced.unique braced'
      obtain rfl := names.unique names'
      obtain ⟨rfl, rfl⟩ := ih next
      exact ⟨rfl, rfl⟩

/-! ### The pieces of a template -/

/-- The reading of a template. -/
def pieces (cs : List Char) : List Piece × List Char :=
  match _ : Text.cut? opener cs with
  | none => ([], cs)
  | some (before, inside) =>
    match _ : Text.cut? closer inside with
    | none => ([], cs)
    | some (inner, after) =>
      let (next, rest) := pieces after
      match key? inner with
      | none => (.text (before ++ opener ++ inner ++ closer) :: next, rest)
      | some key => (.text before :: .key key :: next, rest)
termination_by cs.length
decreasing_by
  have h₁ := Text.length_of_cut? ‹Text.cut? opener cs = _›
  have h₂ := Text.length_of_cut? ‹Text.cut? closer inside = _›
  simp only [opener, closer, List.length_cons, List.length_nil] at h₁ h₂
  omega

theorem reads_pieces (cs : List Char) : Reads cs (pieces cs).1 (pieces cs).2 := by
  fun_induction pieces cs with
  | case1 cs none =>
    refine .rest fun before inner after braced => ?_
    obtain ⟨inside, opens, -⟩ := braced_iff.mp braced
    cases none.symm.trans opens
  | case2 cs before inside opens none =>
    refine .rest fun before' inner after braced => ?_
    obtain ⟨inside', opens', closes⟩ := braced_iff.mp braced
    obtain ⟨rfl, rfl⟩ := Prod.mk.inj (Option.some.inj (opens.symm.trans opens'))
    cases none.symm.trans closes
  | case3 cs before inside opens inner after closes next rest tail other ih =>
    rw [tail] at ih
    exact .kept (braced_iff.mpr ⟨inside, opens, closes⟩) (key?_eq_none.mp other) ih
  | case4 cs before inside opens inner after closes next rest tail key names ih =>
    rw [tail] at ih
    exact .placeholder (braced_iff.mpr ⟨inside, opens, closes⟩) (key?_eq_some.mp names) ih

/-! ### Filling a template -/

/-- The values in the places of the placeholders; the error is the first key without a value. -/
def put (ps : Params) : List Piece → Except String (List Char)
  | [] => .ok []
  | .text cs :: pieces => (put ps pieces).map (cs ++ ·)
  | .key k :: pieces =>
    match ps.get? k with
    | none => .error k
    | some v => (put ps pieces).map (v.text.toList ++ ·)

namespace Filling

variable {ps : Params}

theorem next?_open (open_ : ∀ before inner after, ¬Braced s before inner after)
    (done : List Char) : (ofParts done s).next? ps = .ok none := by
  have closed : (ofParts done s).braces? = none := by
    cases found : (ofParts done s).braces? with
    | none => rfl
    | some places =>
      rw [braces?_ofParts] at found
      obtain ⟨⟨before, inside⟩, first, found⟩ := Option.bind_eq_some_iff.mp found
      obtain ⟨⟨inner, after⟩, last, -⟩ := Option.bind_eq_some_iff.mp found
      exact absurd (braced_iff.mpr ⟨inside, first, last⟩) (open_ before inner after)
  unfold next?
  split
  · rfl
  · rename_i braced
    cases closed.symm.trans braced

theorem braces?_braced (braced : Braced s before inner after) (done : List Char) :
    (ofParts done s).braces? = some (Text.byteLength (done ++ before),
      Text.byteLength (done ++ before ++ opener ++ inner ++ closer)) := by
  obtain ⟨inside, first, last⟩ := braced_iff.mp braced
  rw [braces?_ofParts, first]
  simp only [Option.bind_eq_bind, Option.bind_some, last]
  rfl

/-- A round goes behind the next braces, with the value in their place if they are a placeholder. -/
theorem next?_braced (ps : Params) (braced : Braced s before inner after) (done : List Char) :
    (ofParts done s).next? ps =
      match key? inner with
      | none => .ok (some (ofParts (done ++ before ++ opener ++ inner ++ closer) after))
      | some key =>
        match ps.get? key with
        | none => .error key
        | some v => .ok (some (ofParts (done ++ before ++ v.text.toList) after)) := by
  have text : (ofParts done s).text =
      done ++ before ++ (opener ++ inner ++ closer ++ after) := by
    rw [ofParts, braced.whole]
    simp
  have places := braces?_braced braced done
  have inside : Text.slice (Text.byteLength (done ++ before) + 2)
      (Text.byteLength (done ++ before ++ opener ++ inner ++ closer) - 2) (ofParts done s).text =
      inner := by
    have start : Text.byteLength (done ++ before) + 2 =
        Text.byteLength (done ++ before ++ opener) := by
      rw [Text.byteLength_append _ opener]
      rfl
    have stop : Text.byteLength (done ++ before ++ opener ++ inner ++ closer) - 2 =
        Text.byteLength (done ++ before ++ opener) + Text.byteLength inner := by
      rw [Text.byteLength_append _ closer, Text.byteLength_append _ inner]
      rfl
    rw [start, stop, text]
    have shift : done ++ before ++ (opener ++ inner ++ closer ++ after) =
        done ++ before ++ opener ++ (inner ++ (closer ++ after)) := by simp
    rw [shift, Text.slice_append]
  unfold next?
  split
  · rename_i none
    cases none.symm.trans places
  · rename_i opened closed found
    obtain ⟨rfl, rfl⟩ := Prod.mk.inj (Option.some.inj (found.symm.trans places))
    rw [inside]
    cases key? inner with
    | none =>
      refine congrArg (Except.ok ∘ some) (Filling.ext ?_ rfl)
      rw [text]
      simp [ofParts]
    | some key =>
      dsimp only
      cases ps.get? key with
      | none => rfl
      | some v =>
        have stop : Text.byteLength (done ++ before ++ opener ++ inner ++ closer) =
            Text.byteLength (done ++ before) + Text.byteLength (opener ++ inner ++ closer) := by
          simp [Nat.add_assoc]
        have spliced : Text.splice (Text.byteLength (done ++ before))
            (Text.byteLength (done ++ before ++ opener ++ inner ++ closer)) v.text.toList
            (ofParts done s).text = done ++ before ++ v.text.toList ++ after := by
          rw [stop, text, Text.splice_append]
        exact congrArg (Except.ok ∘ some) (Filling.ext spliced (Text.byteLength_append _ _).symm)

end Filling

variable {ps : Params} {pieces : List Piece}

theorem fillFrom_eq (f : Filling) : ps.fillFrom f =
    match f.next? ps with
    | .error key => .error key
    | .ok none => .ok f.text
    | .ok (some g) => ps.fillFrom g := by
  rw [fillFrom]
  split <;> rename_i round <;> rw [round]

/-- From any place on, filling puts the values into the pieces of what is left. -/
theorem fillFrom_reads (reads : Reads s pieces rest) (done : List Char) :
    ps.fillFrom (.ofParts done s) = (put ps pieces).map fun cs => done ++ cs ++ rest := by
  induction reads generalizing done with
  | @rest s open_ =>
    rw [fillFrom_eq, Filling.next?_open open_ done]
    simp [put, Filling.ofParts, Except.map]
  | @kept s before inner after rest pieces braced other _ ih =>
    have step := Filling.next?_braced ps braced done
    rw [key?_eq_none.mpr other] at step
    rw [fillFrom_eq, step]
    dsimp only
    rw [ih, put]
    cases put ps pieces <;> simp [Except.map]
  | @placeholder s before inner after rest key pieces braced names _ ih =>
    have step := Filling.next?_braced ps braced done
    rw [key?_eq_some.mpr names] at step
    rw [put, put]
    cases declared : ps.get? key with
    | none =>
      simp only [declared] at step
      rw [fillFrom_eq, step]
      rfl
    | some v =>
      simp only [declared] at step
      rw [fillFrom_eq, step]
      dsimp only
      rw [ih]
      cases put ps pieces <;> simp [Except.map]

theorem fill_reads {template : String} (reads : Reads template.toList pieces rest) (ps : Params) :
    ps.fill template = (put ps pieces).map fun cs => String.ofList (cs ++ rest) := by
  rw [fill, fillFrom_reads reads]
  cases put ps pieces <;> rfl

/-- **Filling is one pass over the template.** Whatever the parameters are, a template has one
reading; filling puts the values into its placeholders and leaves all other text, and fails with the
first key that has no value. What is put in, be it empty or full of braces, is not read. -/
theorem fill_pass (template : String) : ∃ pieces rest, Reads template.toList pieces rest ∧
    (∀ pieces' rest', Reads template.toList pieces' rest' → pieces' = pieces ∧ rest' = rest) ∧
    ∀ ps : Params,
      (ps.fill template).mapError (fun key => (ParseFault.unknownParam key).message) =
        ((put ps pieces).mapError ("unknown param: " ++ ·)).map fun cs =>
          String.ofList (cs ++ rest) := by
  have reads := reads_pieces template.toList
  refine ⟨_, _, reads, fun pieces' rest' other => other.unique reads, fun ps => ?_⟩
  rw [fill_reads reads]
  cases put ps _ <;> rfl

-- A value that looks like its own placeholder is put in once, and the bytes before it may be many.
example : Params.fill (.ofList [("a", .str "\x7b\x7bparams.a\x7d\x7d")])
    "\u00e9\x7b\x7b params.a \x7d\x7d\x7b\x7bx\x7d\x7d" =
      .ok "\u00e9\x7b\x7bparams.a\x7d\x7d\x7b\x7bx\x7d\x7d" := by decide +kernel

/-! ### Filling a value -/

def Piece.key? : Piece → Option String
  | .text _ => none
  | .key k => some k

mutual

/-- The keys of the placeholders in the texts of a value, in the order in which they are filled. -/
def keysIn : Yaml.Value → List String
  | .str s => (Params.pieces s.toList).1.filterMap Piece.key?
  | .sequence items => keysInItems items
  | .mapping entries => keysInEntries entries
  | .tagged _ v => keysIn v
  | _ => []

def keysInItems : List Yaml.Value → List String
  | [] => []
  | v :: vs => keysIn v ++ keysInItems vs

def keysInEntries : List (Yaml.Value × Yaml.Value) → List String
  | [] => []
  | (_, v) :: es => keysIn v ++ keysInEntries es

end

/-- A computation fails with the first of some keys that has no value, and only so. -/
def Needs (ps : Params) {α : Type} (keys : List String) (x : Except String α) : Prop :=
  ∀ k, x = .error k ↔ keys.find? (fun k => (ps.get? k).isNone) = some k

namespace Needs

variable {α β : Type} {ks ls : List String} {x : Except String α} {f : α → Except String β}

theorem ok (a : α) : ps.Needs [] (.ok a) := fun _ => ⟨nofun, nofun⟩

theorem map (h : ps.Needs ks x) (g : α → β) : ps.Needs ks (x.map g) := by
  intro k
  rw [← h k]
  cases x <;> simp [Except.map]

theorem bind (h : ps.Needs ks x) (next : ∀ a, ps.Needs ls (f a)) : ps.Needs (ks ++ ls) (x >>= f) := by
  intro k
  rw [List.find?_append]
  cases x with
  | error e =>
    rw [(h e).mp rfl]
    exact ⟨fun same => congrArg some (Except.error.inj same),
      fun same => congrArg Except.error (Option.some.inj same)⟩
  | ok a =>
    have none : ks.find? (fun k => (ps.get? k).isNone) = none :=
      Option.eq_none_iff_forall_ne_some.mpr fun k found => nomatch (h k).mpr found
    rw [none, Option.none_or]
    exact next a k

end Needs

theorem put_needs (ps : Params) (pieces : List Piece) :
    ps.Needs (pieces.filterMap Piece.key?) (put ps pieces) := by
  induction pieces with
  | nil => exact .ok []
  | cons piece pieces ih =>
    cases piece with
    | text cs => exact ih.map (cs ++ ·)
    | key key =>
      intro k
      rw [put, List.filterMap_cons, Piece.key?, List.find?_cons]
      cases ps.get? key with
      | none => simp
      | some v => exact ih.map (v.text.toList ++ ·) k

theorem fill_needs (ps : Params) (s : String) :
    ps.Needs ((Params.pieces s.toList).1.filterMap Piece.key?) (ps.fill s) := by
  rw [fill_reads (reads_pieces s.toList) ps]
  exact (put_needs ps _).map _

mutual

theorem fillValue_needs (ps : Params) : ∀ v, ps.Needs (keysIn v) (ps.fillValue v)
  | .str s => (fill_needs ps s).map _
  | .sequence items => (fillItems_needs ps items).map _
  | .mapping entries => (fillEntries_needs ps entries).map _
  | .tagged tag v => (fillValue_needs ps v).map (Yaml.Value.tagged tag)
  | .null => .ok _
  | .bool _ => .ok _
  | .int _ => .ok _
  | .float _ => .ok _

theorem fillItems_needs (ps : Params) : ∀ vs, ps.Needs (keysInItems vs) (ps.fillItems vs)
  | [] => .ok []
  | v :: vs => (fillValue_needs ps v).bind fun w => (fillItems_needs ps vs).map (w :: ·)

theorem fillEntries_needs (ps : Params) : ∀ es, ps.Needs (keysInEntries es) (ps.fillEntries es)
  | [] => .ok []
  | (k, v) :: es =>
    (fillValue_needs ps v).bind fun w => (fillEntries_needs ps es).map ((k, w) :: ·)

end

end Blueprint.Params
