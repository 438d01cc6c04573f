import Blueprint.Proofs.Module.Template
import Blueprint.Proofs.Text.Digits

/-!
# A placeholder among other text

Text before a placeholder can take its opening braces for itself: braces that it leaves open, or its
last brace and the first of the placeholder, then go up to the closing braces of the placeholder
(`Opens`). Where a text leaves none open, the placeholder is filled (`fill_placeholder`); where it
does, the longer braces are, and mostly they are kept.
-/

namespace Blueprint.Params

variable {ps : Params} {s t a before tail inner after rest : List Char} {p q : List Piece}
  {k : String}

/-! ### Readings of longer texts -/

theorem Braced.append (h : Braced s before inner after) (t : List Char) :
    Braced (s ++ t) before inner (after ++ t) := by
  obtain ⟨inside, opens, closes⟩ := h
  exact ⟨inside ++ t, opens.append t, closes.append t⟩

/-- A longer text is read on from the rest. -/
theorem Reads.extend (reads : Reads s p rest) (next : Reads (rest ++ t) q after) :
    Reads (s ++ t) (p ++ q) after := by
  induction reads with
  | rest => exact next
  | kept braced other _ ih => exact .kept (braced.append t) other (ih next)
  | placeholder braced names _ ih => exact .placeholder (braced.append t) names (ih next)

theorem Reads.open_rest (reads : Reads s p rest) : ¬Braced rest before inner after := by
  induction reads with
  | rest none => exact none _ _ _
  | kept _ _ _ ih | placeholder _ _ _ ih => exact ih

theorem put_append {filled : List Char} (h : put ps p = .ok filled) :
    put ps (p ++ q) = (put ps q).map (filled ++ ·) := by
  induction p generalizing filled with
  | nil =>
    obtain rfl := Except.ok.inj h
    rw [List.nil_append]
    cases put ps q <;> rfl
  | cons piece p ih =>
    have step : ∀ cs : List Char, (put ps p).map (cs ++ ·) = .ok filled →
        (put ps (p ++ q)).map (cs ++ ·) = (put ps q).map (filled ++ ·) := by
      intro cs h
      cases first : put ps p with
      | error => rw [first] at h; cases h
      | ok filled' =>
        rw [first] at h
        obtain rfl := Except.ok.inj h
        rw [ih first]
        cases put ps q <;> simp [Except.map]
    rw [List.cons_append]
    cases piece with
    | text cs => exact step cs h
    | key k =>
      rw [put] at h ⊢
      cases declared : ps.get? k with
      | none =>
        rw [declared] at h
        cases h
      | some v =>
        rw [declared] at h
        exact step _ h

/-! ### The placeholder -/

/-- What stands in the braces of a placeholder. -/
def inside (k : String) : List Char := ("params." ++ k).toList

def placeholder (k : String) : String := "\x7b\x7bparams." ++ k ++ "\x7d\x7d"

theorem inside_eq (k : String) : inside k = "params.".toList ++ k.toList := String.toList_append

/-- A key that can stand in a placeholder. -/
structure Plain (k : String) : Prop where
  braceless : ∀ c ∈ k.toList, c ≠ '\x7b' ∧ c ≠ '\x7d'
  trimmed : Text.trim k = k

theorem toList_placeholder (k : String) :
    (placeholder k).toList = opener ++ inside k ++ closer := by
  simp only [placeholder, inside, String.toList_append]
  rfl

namespace Plain

variable (plain : Plain k)
include plain

theorem names : Names (inside k) k := by
  rw [Names, inside_eq]
  apply Text.trimChars_eq_self
  · intro c first
    rw [List.head?_append] at first
    obtain rfl : 'p' = c := by simpa using first
    rfl
  · intro c last
    have trimmed : Text.trimChars k.toList = k.toList := by
      rw [← String.toList_ofList (l := Text.trimChars k.toList)]
      exact congrArg String.toList plain.trimmed
    rw [List.getLast?_append] at last
    cases empty : k.toList.getLast? with
    | none =>
      rw [empty] at last
      obtain rfl : '.' = c := by simpa using last
      rfl
    | some d =>
      rw [empty] at last
      obtain rfl : d = c := Option.some.inj last
      rw [← trimmed] at empty
      exact Text.trimChars_last _ d empty

theorem not_mem_inside : '\x7d' ∉ inside k := by
  have fresh : '\x7d' ∉ k.toList := fun mem => (plain.braceless _ mem).2 rfl
  rw [inside_eq, List.mem_append, not_or]
  exact ⟨by decide, fresh⟩

/-- The braces of a placeholder close behind its key. -/
theorem not_closer : ¬closer <:+: inside k ++ ['\x7d'] := by
  intro early
  have twice := early.sublist.count_le '\x7d'
  rw [List.count_append, List.count_eq_zero_of_not_mem plain.not_mem_inside] at twice
  revert twice
  decide

end Plain

/-! ### Braces that stay open -/

/-- The first braces that a text leaves open if one more brace follows, with what is in them. -/
def Opens (a before tail : List Char) : Prop :=
  ∃ pieces rest, Reads a pieces rest ∧ Text.First opener (rest ++ ['\x7b']) before tail

theorem opens_iff : Opens a before tail ↔
    Text.cut? opener ((pieces a).2 ++ ['\x7b']) = some (before, tail) := by
  rw [Text.cut?_eq_some_iff (by decide)]
  constructor
  · rintro ⟨p, rest, reads, first⟩
    rwa [← (reads.unique (reads_pieces a)).2]
  · exact fun first => ⟨_, _, reads_pieces a, first⟩

theorem Reads.not_closer (reads : Reads s p rest)
    (first : Text.First opener (rest ++ ['\x7b']) before tail) : ¬closer <:+: tail := by
  intro closes
  -- Closing braces in the tail would stand in the rest, behind its first opening ones.
  rcases List.eq_nil_or_concat tail with rfl | ⟨tail', c, rfl⟩
  · exact absurd closes (by decide)
  · have whole := first.whole
    rw [List.concat_eq_append, ← List.append_assoc] at whole
    obtain ⟨rfl, same⟩ := List.append_inj' whole rfl
    obtain rfl := (List.cons.inj same).1
    have opens : Text.First opener (before ++ opener ++ tail') before tail' :=
      ⟨rfl, fun b a here => first.least b (a ++ ['\x7b']) (by rw [here]; simp)⟩
    rw [List.concat_eq_append] at closes
    rcases Text.infix_split (by decide) closes with closes | closes
    · obtain ⟨inner, after, closes⟩ := Text.exists_first (by decide) closes
      exact reads.open_rest ⟨tail', opens, closes⟩
    · exact absurd closes (by decide)

variable {b : List Char} {pb : List Piece} {rb : List Char}

/-- Behind a text that leaves no braces open a placeholder is read as one. -/
theorem Reads.closed (plain : Plain k) (reads : Reads a p rest) (next : Reads b pb rb)
    (closed : ¬opener <:+: rest ++ ['\x7b']) :
    Reads (a ++ (opener ++ inside k ++ closer) ++ b) (p ++ .text rest :: .key k :: pb) rb := by
  have braced : Braced (rest ++ (opener ++ inside k ++ closer ++ b)) rest (inside k) b := by
    refine ⟨inside k ++ closer ++ b, ?_, Text.first_of_not_infix plain.not_closer b⟩
    have first := Text.first_of_not_infix closed (inside k ++ closer ++ b)
    simpa using first
  rw [List.append_assoc a]
  exact reads.extend (.placeholder braced plain.names next)

/-- Braces left open go up to the end of the placeholder. -/
theorem Reads.braced_open (plain : Plain k) (reads : Reads a p rest)
    (first : Text.First opener (rest ++ ['\x7b']) before tail) (b : List Char) :
    Braced (rest ++ (opener ++ inside k ++ closer ++ b)) before (tail ++ '\x7b' :: inside k) b := by
  refine ⟨tail ++ '\x7b' :: inside k ++ closer ++ b, ?_, Text.first_of_not_infix ?_ b⟩
  · have longer := first.append ('\x7b' :: inside k ++ closer ++ b)
    simpa [opener] using longer
  · intro early
    rw [List.append_assoc] at early
    rcases Text.infix_split (by decide) early with early | early
    · exact reads.not_closer first early
    · exact plain.not_closer early

theorem longer_braces (first : Text.First opener (rest ++ ['\x7b']) before tail) :
    before ++ opener ++ (tail ++ '\x7b' :: inside k) ++ closer =
      rest ++ (opener ++ inside k ++ closer) := by
  have moved : before ++ opener ++ (tail ++ '\x7b' :: inside k) ++ closer =
      before ++ opener ++ tail ++ ('\x7b' :: inside k ++ closer) := by simp
  rw [moved, ← first.whole]
  simp [opener]

/-- The longer braces are not those of a key without braces. -/
theorem mem_of_names {other : String} (names : Names (tail ++ '\x7b' :: inside k) other) :
    '\x7b' ∈ other.toList := by
  have mem : '\x7b' ∈ tail ++ '\x7b' :: inside k := by simp
  have stays := Text.mem_trimChars mem (by rfl)
  rw [names, List.mem_append] at stays
  exact stays.resolve_left (by decide)

/-! ### Filling it -/

theorem fill_ok {a ra : String} (h : ps.fill a = .ok ra) : ∃ p rest filled,
    Reads a.toList p rest ∧ put ps p = .ok filled ∧ ra.toList = filled ++ rest := by
  have reads := reads_pieces a.toList
  rw [fill_reads reads] at h
  cases done : put ps (pieces a.toList).1 with
  | error => rw [done] at h; cases h
  | ok filled =>
    rw [done] at h
    obtain rfl := Except.ok.inj h
    exact ⟨_, _, filled, reads, done, String.toList_ofList⟩

theorem fill_append {template : String} {filled : List Char}
    (reads : Reads template.toList (p ++ q) rest) (first : put ps p = .ok filled) :
    ps.fill template = (put ps q).map fun cs => String.ofList (filled ++ cs ++ rest) := by
  rw [fill_reads reads, put_append first]
  cases put ps q <;> rfl

theorem fill_append_ok {template whole : String} {filled more : List Char}
    (reads : Reads template.toList (p ++ q) rest) (first : put ps p = .ok filled)
    (second : put ps q = .ok more) (text : filled ++ more ++ rest = whole.toList) :
    ps.fill template = .ok whole := by
  rw [fill_append reads first, second, Except.map, text, String.ofList_toList]

/-- **What becomes of a placeholder.** Between two texts that can be filled, the placeholder of a
declared key is filled if the first leaves no braces open. If it does, with `tail` in them, they
close with the placeholder, and it is not filled: the whole text stays, unless the longer braces are
a placeholder themselves; their key has a brace in it and is another one. -/
theorem fill_placeholder {v : Yaml.Value} {a b ra rb : String} (declared : ps.get? k = some v)
    (plain : Plain k) (first : ps.fill a = .ok ra) (second : ps.fill b = .ok rb) :
    ((∀ before tail, ¬Opens a.toList before tail) →
      ps.fill (a ++ placeholder k ++ b) = .ok (ra ++ v.text ++ rb)) ∧
    ∀ before tail, Opens a.toList before tail →
      ∃ done, ra.toList ++ ['\x7b'] = done ++ before ++ opener ++ tail ∧
        ((∀ other, ¬Names (tail ++ '\x7b' :: inside k) other) →
          ps.fill (a ++ placeholder k ++ b) = .ok (ra ++ placeholder k ++ rb)) ∧
        ∀ other, Names (tail ++ '\x7b' :: inside k) other → other ≠ k ∧
          ps.fill (a ++ placeholder k ++ b) =
            match ps.get? other with
            | none => .error other
            | some w => .ok (String.ofList (done ++ before) ++ w.text ++ rb) := by
  obtain ⟨pa, resta, filleda, readsa, puta, texta⟩ := fill_ok first
  obtain ⟨pb, restb, filledb, readsb, putb, textb⟩ := fill_ok second
  have whole : (a ++ placeholder k ++ b).toList =
      a.toList ++ (opener ++ inside k ++ closer) ++ b.toList := by
    simp [toList_placeholder]
  constructor
  · intro closed
    have fresh : ¬opener <:+: resta ++ ['\x7b'] := by
      intro here
      obtain ⟨before, tail, opens⟩ := Text.exists_first (by decide) here
      exact closed before tail ⟨pa, resta, readsa, opens⟩
    have reads := readsa.closed plain readsb fresh
    rw [← whole] at reads
    have filled : put ps (.text resta :: .key k :: pb) =
        .ok (resta ++ (v.text.toList ++ filledb)) := by
      rw [put, put, declared, putb]
      rfl
    exact fill_append_ok reads puta filled (by simp [texta, textb])
  · rintro before tail ⟨pa', resta', readsa', opens⟩
    obtain ⟨rfl, rfl⟩ := readsa'.unique readsa
    have braced := readsa.braced_open plain opens b.toList
    refine ⟨filleda, ?_, fun none => ?_, fun other names => ⟨?_, ?_⟩⟩
    · rw [texta, List.append_assoc, opens.whole]
      simp
    · -- The longer braces are kept, and the placeholder in them.
      have reads := readsa.extend (.kept braced none readsb)
      rw [longer_braces opens, ← List.append_assoc, ← whole] at reads
      have filled : put ps (.text (resta' ++ (opener ++ inside k ++ closer)) :: pb) =
          .ok (resta' ++ (opener ++ inside k ++ closer) ++ filledb) := by
        rw [put, putb]
        rfl
      exact fill_append_ok reads puta filled (by simp [texta, textb, toList_placeholder])
    · rintro rfl
      exact (plain.braceless _ (mem_of_names names)).1 rfl
    · -- The longer braces are those of a key themselves.
      have reads := readsa.extend (.placeholder braced names readsb)
      rw [← List.append_assoc, ← whole] at reads
      cases value : ps.get? other with
      | none =>
        rw [fill_append reads puta, put, put, value]
        rfl
      | some w =>
        have filled : put ps (.text before :: .key other :: pb) =
            .ok (before ++ (w.text.toList ++ filledb)) := by
          rw [put, put, value, putb]
          rfl
        exact fill_append_ok reads puta filled (by simp [textb])

/-- A parameter for a script. -/
def portParams : Params := .ofList [("port", .str "80")]

theorem portParams_port : portParams.get? "port" = some (.str "80") := by
  simp [portParams, OrderedMap.ofList, OrderedMap.get?_insert]

theorem plain_port : Plain "port" := ⟨by simp, by decide +kernel⟩

theorem fill_placeholder_shell :
    portParams.fill ("awk \x7b\x7bp\x7d\x7d " ++ placeholder "port" ++ "\x7d") =
        .ok "awk \x7b\x7bp\x7d\x7d 80\x7d" ∧
      portParams.fill ("$\x7b" ++ placeholder "port" ++ "\x7d") =
        .ok "$\x7b\x7b\x7bparams.port\x7d\x7d\x7d" := by
  have awk : portParams.fill "awk \x7b\x7bp\x7d\x7d " = .ok "awk \x7b\x7bp\x7d\x7d " := by
    decide +kernel
  have brace : portParams.fill "$\x7b" = .ok "$\x7b" := by decide +kernel
  have last : portParams.fill "\x7d" = .ok "\x7d" := by decide +kernel
  have closed : ∀ before tail, ¬Opens "awk \x7b\x7bp\x7d\x7d ".toList before tail := by
    intro before tail opens
    have none : Text.cut? opener ((pieces "awk \x7b\x7bp\x7d\x7d ".toList).2 ++ ['\x7b']) =
        none := by decide +kernel
    cases none.symm.trans (opens_iff.mp opens)
  have opens : Opens "$\x7b".toList ['$'] [] := opens_iff.mpr (by decide +kernel)
  have unnamed : ∀ other, ¬Names ([] ++ '\x7b' :: inside "port") other :=
    key?_eq_none.mp (by decide +kernel)
  obtain ⟨-, -, kept, -⟩ := (fill_placeholder portParams_port plain_port brace last).2 _ _ opens
  exact ⟨(fill_placeholder portParams_port plain_port awk last).1 closed, kept unnamed⟩

/-- The brace of a shell variable opens with the first brace of the placeholder in it. -/
theorem placeholder_survives :
    ¬∀ (ps : Params) (k : String) (v : Yaml.Value) (a b ra rb : String), ps.get? k = some v →
      Plain k → ps.fill a = .ok ra → ps.fill b = .ok rb →
      ps.fill (a ++ placeholder k ++ b) = .ok (ra ++ v.text ++ rb) := by
  intro filled
  have one := filled portParams "port" (.str "80") "$\x7b" "\x7d" "$\x7b" "\x7d" portParams_port
    plain_port (by decide +kernel) (by decide +kernel)
  have other : portParams.fill ("$\x7b" ++ placeholder "port" ++ "\x7d") =
      .ok "$\x7b\x7b\x7bparams.port\x7d\x7d\x7d" := by decide +kernel
  have same := Except.ok.inj (other.symm.trans one)
  revert same
  decide

end Blueprint.Params
