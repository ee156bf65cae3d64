import LessonShell.Proofs.Text.Substitution

/-! Filling in placeholders in succession. What the values of the first table bring into a text is read
again for the second one, so the two agree with a single table exactly if the first values form no
placeholder of the second, which the number of places where it stands tells. -/
namespace LessonShell.Text

/-- In how many places the mark stands in the text. -/
def occurrences (mark : List Char) : List Char → Nat
  | [] => 0
  | c :: rest => occurrences mark rest + if mark.isPrefixOf (c :: rest) then 1 else 0

section occurrences
variable {mark text : List Char}

theorem occurrences_eq_zero_iff (filled : mark ≠ []) : occurrences mark text = 0 ↔ ¬ mark <:+: text := by
  induction text with
  | nil => simp [occurrences, filled]
  | cons c rest ih =>
    rw [occurrences, Nat.add_eq_zero_iff, ih, List.infix_cons_iff, not_or, ← List.isPrefixOf_iff_prefix, and_comm]
    simp

theorem occurrences_append_brace (placeholder : IsPlaceholder mark) (before rest : List Char) :
    occurrences mark (before ++ '\x7b' :: rest) = occurrences mark before + occurrences mark ('\x7b' :: rest) := by
  induction before with
  | nil => simp [occurrences]
  | cons c before ih =>
    rw [List.cons_append, occurrences, ih, placeholder.isPrefixOf_append, Nat.add_right_comm]
    rfl

theorem occurrences_unbraced (placeholder : IsPlaceholder mark) {before : List Char} (unbraced : '\x7b' ∉ before)
    (rest : List Char) : occurrences mark (before ++ rest) = occurrences mark rest := by
  induction before with
  | nil => rfl
  | cons c before ih =>
    obtain ⟨differs, others⟩ := List.ne_and_not_mem_of_not_mem_cons unbraced
    have apart := placeholder.isPrefixOf_of_ne (Ne.symm differs) (before ++ rest)
    rw [List.cons_append, occurrences, ih others, apart]
    rfl

theorem occurrences_append (placeholder : IsPlaceholder mark) (before after : List Char) :
    occurrences mark (before ++ mark ++ after) = occurrences mark before + 1 + occurrences mark after := by
  have here : mark.isPrefixOf (mark ++ after) = true := by simp
  obtain ⟨tail, spelled, unbraced⟩ := placeholder.exists_cons
  have own : occurrences mark (mark ++ after) = occurrences mark after + 1 := by
    have step : occurrences mark ('\x7b' :: (tail ++ after)) =
        occurrences mark (tail ++ after) + if mark.isPrefixOf ('\x7b' :: (tail ++ after)) then 1 else 0 := rfl
    rw [← List.cons_append, ← spelled, if_pos here, occurrences_unbraced placeholder unbraced] at step
    exact step
  have cut := occurrences_append_brace placeholder before (tail ++ after)
  rw [← List.cons_append, ← spelled, own] at cut
  rw [List.append_assoc, cut]
  omega

end occurrences

/-! One more row, which fills in a placeholder that the table does not have. -/
section another
variable {values : Values} {mark : List Char} (marked : ∀ row ∈ values, IsPlaceholder row.1)
  (placeholder : IsPlaceholder mark) (fresh : ∀ row ∈ values, row.1 ≠ mark) (value : List Char)

theorem substituteFrom_concat_of_absent {text : List Char} (absent : ¬ mark <:+: text) (skip : Nat) :
    substituteFrom (values ++ [(mark, value)]) skip text = substituteFrom values skip text := by
  induction text generalizing skip with
  | nil => simp [substituteFrom]
  | cons c rest ih =>
    have later : ¬ mark <:+: rest := fun inside => absent (List.infix_cons inside)
    cases skip with
    | succ skip => rw [substituteFrom, substituteFrom, ih later]
    | zero =>
      have apart : mark.isPrefixOf (c :: rest) = false := by
        rw [Bool.eq_false_iff, ne_eq, List.isPrefixOf_iff_prefix]
        exact fun begins => absent begins.isInfix
      have same : (values ++ [(mark, value)]).find? (·.1.isPrefixOf (c :: rest)) =
          values.find? (·.1.isPrefixOf (c :: rest)) := by
        simp [List.find?_append, apart]
      rw [substituteFrom, substituteFrom, same]
      simp only [ih later]

theorem substitute_concat_of_absent {text : List Char} (absent : ¬ mark <:+: text) :
    substitute (values ++ [(mark, value)]) text = substitute values text :=
  substituteFrom_concat_of_absent value absent 0

include fresh in
theorem find?_fresh : values.find? (·.1 = mark) = none := by
  simpa [List.find?_eq_none] using fresh

include fresh in
theorem valueOf_fresh : valueOf values mark = mark := by
  rw [valueOf, find?_fresh fresh]
  rfl

include fresh in
theorem valueOf_concat : valueOf (values ++ [(mark, value)]) mark = value := by
  simp [valueOf, List.find?_append, find?_fresh fresh]

include marked placeholder fresh

theorem substitute_cut (before after : List Char) : substitute values (before ++ mark ++ after) =
    substitute values before ++ mark ++ substitute values after := by
  rw [substitute_append marked placeholder, valueOf_fresh fresh]

theorem substitute_concat_cut (before after : List Char) :
    substitute (values ++ [(mark, value)]) (before ++ mark ++ after) =
      substitute (values ++ [(mark, value)]) before ++ value ++ substitute (values ++ [(mark, value)]) after := by
  have all : ∀ row ∈ values ++ [(mark, value)], IsPlaceholder row.1 := by
    intro row member
    rcases List.mem_append.mp member with inside | last
    · exact marked row inside
    · exact placeholder.single value row last
  rw [substitute_append all placeholder, valueOf_concat fresh]

theorem occurrences_le (text : List Char) : occurrences mark text ≤ occurrences mark (substitute values text) := by
  induction text using mark_induction placeholder.ne_nil with
  | absent text absent =>
    rw [(occurrences_eq_zero_iff placeholder.ne_nil).mpr absent]
    exact Nat.zero_le _
  | cut before after left right =>
    rw [substitute_cut marked placeholder fresh, occurrences_append placeholder, occurrences_append placeholder]
    omega

theorem length_substitute_concat (text : List Char) :
    (substitute (values ++ [(mark, value)]) text).length + occurrences mark text * mark.length =
      (substitute values text).length + occurrences mark text * value.length := by
  induction text using mark_induction placeholder.ne_nil with
  | absent text absent =>
    rw [substitute_concat_of_absent value absent, (occurrences_eq_zero_iff placeholder.ne_nil).mpr absent,
      Nat.zero_mul, Nat.zero_mul]
  | cut before after left right =>
    rw [substitute_cut marked placeholder fresh, substitute_concat_cut marked placeholder fresh,
      occurrences_append placeholder]
    simp only [List.length_append, Nat.add_mul, Nat.one_mul]
    omega

/-- A row that puts a placeholder in its own place changes nothing. -/
theorem substitute_concat_self (text : List Char) :
    substitute (values ++ [(mark, mark)]) text = substitute values text := by
  induction text using mark_induction placeholder.ne_nil with
  | absent text absent => exact substitute_concat_of_absent mark absent
  | cut before after left right =>
    rw [substitute_cut marked placeholder fresh, substitute_concat_cut marked placeholder fresh, left, right]

end another

/-! Two tables in a row, the second of which has a single placeholder that the first does not have. -/
section twice
variable {values : Values} {mark : List Char} (marked : ∀ row ∈ values, IsPlaceholder row.1)
  (placeholder : IsPlaceholder mark) (fresh : ∀ row ∈ values, row.1 ≠ mark) {value : List Char}

theorem substitute_nil (text : List Char) : substitute [] text = text := substitute_of_absent nofun

theorem no_rows_marked : ∀ row ∈ ([] : Values), IsPlaceholder row.1 := nofun

include placeholder

theorem substitute_single_cut (before after : List Char) : substitute [(mark, value)] (before ++ mark ++ after) =
    substitute [(mark, value)] before ++ value ++ substitute [(mark, value)] after :=
  substitute_concat_cut no_rows_marked placeholder nofun value before after

theorem length_substitute_single (value text : List Char) :
    (substitute [(mark, value)] text).length + occurrences mark text * mark.length =
      text.length + occurrences mark text * value.length := by
  have length := length_substitute_concat no_rows_marked placeholder nofun value text
  rwa [substitute_nil] at length

theorem absent_of_substitute_single {text : List Char} (size : value.length = mark.length) (differs : value ≠ mark)
    (same : substitute [(mark, value)] text = text) : ¬ mark <:+: text := by
  rintro ⟨before, after, rfl⟩
  rw [substitute_single_cut placeholder, List.append_assoc, List.append_assoc] at same
  have length := length_substitute_single placeholder value before
  obtain ⟨-, behind⟩ := List.append_inj same (by rw [size] at length; omega)
  exact differs (List.append_inj behind size).1

include marked fresh

theorem substitute_twice_of_occurrences {text : List Char}
    (same : occurrences mark (substitute values text) = occurrences mark text) :
    substitute [(mark, value)] (substitute values text) = substitute (values ++ [(mark, value)]) text := by
  induction text using mark_induction placeholder.ne_nil with
  | absent text absent =>
    rw [(occurrences_eq_zero_iff placeholder.ne_nil).mpr absent, occurrences_eq_zero_iff placeholder.ne_nil] at same
    rw [substitute_concat_of_absent value absent, substitute_of_absent (List.forall_mem_singleton.mpr same)]
  | cut before after left right =>
    have front := occurrences_le marked placeholder fresh before
    have back := occurrences_le marked placeholder fresh after
    rw [substitute_cut marked placeholder fresh, occurrences_append placeholder, occurrences_append placeholder] at same
    rw [substitute_cut marked placeholder fresh, substitute_single_cut placeholder, left (by omega), right (by omega),
      substitute_concat_cut marked placeholder fresh]

theorem occurrences_of_substitute_twice {text : List Char} (differs : value ≠ mark)
    (same : substitute [(mark, value)] (substitute values text) = substitute (values ++ [(mark, value)]) text) :
    occurrences mark (substitute values text) = occurrences mark text := by
  by_cases size : value.length = mark.length
  · -- Values as long as the placeholder leave every place where it was.
    induction text using mark_induction placeholder.ne_nil with
    | absent text absent =>
      rw [substitute_concat_of_absent value absent] at same
      rw [(occurrences_eq_zero_iff placeholder.ne_nil).mpr absent, occurrences_eq_zero_iff placeholder.ne_nil]
      exact absent_of_substitute_single placeholder size differs same
    | cut before after left right =>
      have once := length_substitute_concat marked placeholder fresh value before
      have twice := length_substitute_single placeholder value (substitute values before)
      rw [size] at once twice
      rw [substitute_cut marked placeholder fresh, substitute_single_cut placeholder,
        substitute_concat_cut marked placeholder fresh, List.append_assoc, List.append_assoc] at same
      obtain ⟨front, behind⟩ := List.append_inj same (by omega)
      rw [substitute_cut marked placeholder fresh, occurrences_append placeholder, occurrences_append placeholder,
        left front, right (List.append_cancel_left behind)]
  · -- Every other value would change the length at each place that the first table has made.
    have once := length_substitute_concat marked placeholder fresh value text
    have twice := length_substitute_single placeholder value (substitute values text)
    obtain ⟨made, more⟩ := Nat.exists_eq_add_of_le (occurrences_le marked placeholder fresh text)
    rw [same, more, Nat.add_mul, Nat.add_mul] at twice
    have balanced : made * mark.length = made * value.length := by omega
    rcases Nat.eq_zero_or_pos made with none | some
    · rw [more, none, Nat.add_zero]
    · exact absurd (Nat.eq_of_mul_eq_mul_left some balanced).symm size

/-- One placeholder after the others does the same as all of them at once exactly if it is put in its own
place or the others make no more of it. -/
theorem substitute_twice_iff {text : List Char} :
    substitute [(mark, value)] (substitute values text) = substitute (values ++ [(mark, value)]) text ↔
      value = mark ∨ occurrences mark (substitute values text) = occurrences mark text := by
  constructor
  · intro same
    exact or_iff_not_imp_left.mpr fun differs => occurrences_of_substitute_twice marked placeholder fresh differs same
  · rintro (rfl | same)
    · have kept := substitute_concat_self no_rows_marked placeholder nofun (substitute values text)
      rw [substitute_nil] at kept
      exact kept.trans (substitute_concat_self marked placeholder fresh text).symm
    · exact substitute_twice_of_occurrences marked placeholder fresh same

end twice
end LessonShell.Text
