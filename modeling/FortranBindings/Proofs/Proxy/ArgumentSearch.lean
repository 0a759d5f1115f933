import FortranBindings.Proofs.Proxy.ArgumentName

/-!
# The search for a name

There is no end to the names that can be tried for a parameter (`ArgumentName.attempt`). The name
that is chosen is the first of them that is free, and as many are tried at most as there are used
names and four more (`exists_choose_eq_attempt`). Whatever the parameter is called, all that is
tried is valid (`isValid_attempt`), and it is made of the parameter's own name or starts with `arg`
(`attempt_cases`).
-/

namespace FortranBindings.ArgumentName

variable {used : List String} {number i : Nat} {name : String}

/-! ## Valid names -/

theorem isValid_iff : isValid name = true ↔
    ∃ first rest, name.toList = first :: rest ∧ first.isAlpha = true ∧
      ∀ c ∈ rest, c.isAlphanum = true ∨ c = '_' := by
  unfold isValid
  cases name.toList with
  | nil => simp
  | cons first rest => simp

/-- A valid name stays valid with more characters behind it. -/
theorem isValid_append {text : String} (h : isValid name = true)
    (htext : ∀ c ∈ text.toList, c.isAlphanum = true ∨ c = '_') :
    isValid (name ++ text) = true := by
  obtain ⟨first, rest, hname, hfirst, hrest⟩ := isValid_iff.1 h
  refine isValid_iff.2 ⟨first, rest ++ text.toList, ?_, hfirst, ?_⟩
  · rw [String.toList_append, hname, List.cons_append]
  · exact List.forall_mem_append.2 ⟨hrest, htext⟩

/-- A valid name stays valid with a number behind it. -/
theorem isValid_append_toString (h : isValid name = true) (k : Nat) :
    isValid (name ++ toString k) = true := by
  refine isValid_append h fun c hc => .inl ?_
  have hdigits : c ∈ Nat.toDigits 10 k := by simpa [Nat.toString_eq_ofList_toDigits] using hc
  have hdigit : c.isDigit = true :=
    Nat.isDigit_of_mem_toDigits (by decide) (by decide) hdigits
  rw [Char.isAlphanum, hdigit, Bool.or_true]

theorem isValid_arg (number : Nat) : isValid ("arg" ++ toString number) = true :=
  isValid_append_toString (by decide) number

theorem isValid_numbered (number k : Nat) : isValid (numbered number k) = true := by
  have hunderscore : ∀ c ∈ "_".toList, c.isAlphanum = true ∨ c = '_' := fun c hc =>
    .inr (by simpa using hc)
  exact isValid_append_toString (isValid_append (isValid_arg number) hunderscore) k

/-! ## Attempts -/

/-- The names that are tried first: the parameter's own name, by itself and with the number behind
it, if it is valid, and a name made of the number. -/
def firstAttempts (number : Nat) (name : String) : List String :=
  (if isValid name then [name, name ++ toString number] else []) ++ ["arg" ++ toString number]

/-- The names that are tried for the parameter with a number, one after the other. Behind the first
ones a second number is counted up. -/
def attempt (number : Nat) (name : String) (i : Nat) : String :=
  (firstAttempts number name)[i]?.getD
    (numbered number (number + (i - (firstAttempts number name).length)))

theorem length_firstAttempts_le (number : Nat) (name : String) :
    (firstAttempts number name).length ≤ 3 := by
  unfold firstAttempts
  split <;> simp

/-- The candidates are the attempts, as far as they go. -/
theorem candidates_eq_map_attempt (used : List String) (number : Nat) (name : String) :
    candidates used number name =
      (List.range ((firstAttempts number name).length + (used.length + 1))).map
        (attempt number name) := by
  have hfirst : (List.range (firstAttempts number name).length).map (attempt number name) =
      firstAttempts number name :=
    List.ext_getElem (by simp) fun i _ hi => by simp [attempt, hi]
  have hcounted : ∀ k, attempt number name ((firstAttempts number name).length + k) =
      numbered number (number + k) := fun k => by simp [attempt]
  rw [List.range_add, List.map_append, hfirst, List.map_map]
  refine congrArg (firstAttempts number name ++ ·) (List.map_congr_left fun k _ => ?_)
  exact (hcounted k).symm

/-- **The search ends** at the first attempt that is free. -/
theorem exists_choose_eq_attempt (used : List String) (number : Nat) (name : String) :
    ∃ i < used.length + 4, choose used number name = attempt number name i ∧
      isFree used (attempt number name i) = true ∧
      ∀ j < i, isFree used (attempt number name j) = false := by
  have hfound := find?_candidates used number name
  rw [candidates_eq_map_attempt, List.find?_map] at hfound
  obtain ⟨i, hi, hchosen⟩ := Option.map_eq_some_iff.1 hfound
  obtain ⟨hfree, hrange, hbefore⟩ := List.find?_range_eq_some.1 hi
  have hlength := length_firstAttempts_le number name
  have hlt := List.mem_range.1 hrange
  exact ⟨i, by omega, hchosen.symm, hfree, fun j hj => by simpa using hbefore j hj⟩

/-- The name made of the number is taken, so that the number is counted up behind it. -/
example : choose ["arg2"] 2 "" = "arg2_2" := by decide +kernel

/-- An attempt is made of the parameter's own name or starts with `arg`. -/
theorem attempt_cases (number : Nat) (name : String) (i : Nat) :
    (isValid name = true ∧
      (attempt number name i = name ∨ attempt number name i = name ++ toString number)) ∨
    attempt number name i = "arg" ++ toString number ∨
    ∃ k, attempt number name i = numbered number k := by
  unfold attempt
  cases h : (firstAttempts number name)[i]? with
  | none => exact .inr (.inr ⟨_, rfl⟩)
  | some first =>
    have hmem := List.mem_of_getElem? h
    unfold firstAttempts at hmem
    split at hmem
    · next hvalid =>
      simp only [List.cons_append, List.nil_append, List.mem_cons, List.not_mem_nil,
        or_false] at hmem
      rcases hmem with rfl | rfl | rfl
      · exact .inl ⟨hvalid, .inl rfl⟩
      · exact .inl ⟨hvalid, .inr rfl⟩
      · exact .inr (.inl rfl)
    · exact .inr (.inl (List.mem_singleton.1 hmem))

theorem isValid_attempt (number : Nat) (name : String) (i : Nat) :
    isValid (attempt number name i) = true := by
  rcases attempt_cases number name i with ⟨hvalid, h | h⟩ | h | ⟨k, h⟩
  · rwa [h]
  · rw [h]
    exact isValid_append_toString hvalid number
  · rw [h]
    exact isValid_arg number
  · rw [h]
    exact isValid_numbered number k

/-! ## All parameters -/

/-- Each chosen name was tried for one of the parameters. -/
theorem exists_attempt_of_mem_chooseAll {pairs : List (Nat × String)}
    (h : name ∈ chooseAll used pairs) : ∃ pair ∈ pairs, ∃ i, name = attempt pair.1 pair.2 i := by
  induction pairs generalizing used with
  | nil => cases h
  | cons pair rest ih =>
    rcases List.mem_cons.1 h with rfl | h
    · obtain ⟨i, -, hchosen, -⟩ := exists_choose_eq_attempt used pair.1 pair.2
      exact ⟨pair, List.mem_cons_self, i, hchosen⟩
    · obtain ⟨other, hother, hname⟩ := ih h
      exact ⟨other, List.mem_cons_of_mem _ hother, hname⟩

theorem isValid_of_mem_chooseAll {pairs : List (Nat × String)}
    (h : name ∈ chooseAll used pairs) : isValid name = true := by
  obtain ⟨pair, -, i, rfl⟩ := exists_attempt_of_mem_chooseAll h
  exact isValid_attempt pair.1 pair.2 i

/-- **A name is kept** if it is valid and free and none of the names chosen before agrees with it up
to case. -/
theorem getElem?_chooseAll_of_isFree {pairs : List (Nat × String)}
    (hpair : pairs[i]? = some (number, name)) (hvalid : isValid name = true)
    (hfree : isFree used name = true)
    (hbefore : ∀ d ∈ (chooseAll used pairs).take i, d.toLower ≠ name.toLower) :
    (chooseAll used pairs)[i]? = some name := by
  induction pairs generalizing used i with
  | nil => cases hpair
  | cons pair rest ih =>
    cases i with
    | zero =>
      obtain rfl := Option.some.inj hpair
      exact congrArg some (choose_of_isFree hvalid hfree)
    | succ i =>
      obtain ⟨hreserved, hused⟩ := isFree_iff.1 hfree
      rw [chooseAll, List.take_succ_cons, List.forall_mem_cons] at hbefore
      refine ih hpair (isFree_iff.2 ⟨hreserved, fun hmem => ?_⟩) hbefore.2
      rcases List.mem_cons.1 hmem with hlast | hmem
      · exact hbefore.1 hlast.symm
      · exact hused hmem

end FortranBindings.ArgumentName
