import LessonShell.Proofs.Text.Words

/-! Cutting a text at the first place where a mark stands. The cut is found by reading the text once;
it is the first one, and a character outside of the mark divides the search. -/
namespace LessonShell.Text
variable {mark text before after : List Char}

/-- The text with a mark taken out at the first place where it stands. -/
structure FirstCut (mark text before after : List Char) : Prop where
  whole : text = before ++ mark ++ after
  first : ∀ early late, text = early ++ mark ++ late → before.length ≤ early.length

theorem isPrefixOf_append_cons {x : Char} (outside : x ∉ mark) (text rest : List Char) :
    mark.isPrefixOf (text ++ x :: rest) = mark.isPrefixOf text := by
  induction mark generalizing text with
  | nil => simp
  | cons m others ih =>
    obtain ⟨differs, below⟩ := List.ne_and_not_mem_of_not_mem_cons outside
    cases text with
    | nil => simp [List.isPrefixOf, Ne.symm differs]
    | cons c text => simp only [List.cons_append, List.isPrefixOf, ih below]

/-- A character that is not in the mark stands in no place of it. -/
theorem cutAt_append_cons {x : Char} (filled : mark ≠ []) (outside : x ∉ mark) (text rest : List Char) :
    cutAt mark (text ++ x :: rest) = match cutAt mark text with
      | some (before, after) => some (before, after ++ x :: rest)
      | none => (cutAt mark rest).map fun (before, after) => (text ++ x :: before, after) := by
  induction text with
  | nil =>
    have apart := isPrefixOf_append_cons outside [] rest
    have ends : mark.isPrefixOf [] = false := by cases mark <;> simp_all
    rw [ends, List.nil_append] at apart
    simp [cutAt, apart, filled]
  | cons c text ih =>
    have same : mark.isPrefixOf (c :: (text ++ x :: rest)) = mark.isPrefixOf (c :: text) :=
      isPrefixOf_append_cons outside (c :: text) rest
    rw [List.cons_append, cutAt, cutAt, same]
    split
    · next here =>
      have short := (List.isPrefixOf_iff_prefix.mp here).length_le
      rw [← List.cons_append, List.drop_append_of_le_length short]
    · rw [ih]
      cases cutAt mark text with
      | some cut => rfl
      | none => cases cutAt mark rest <;> rfl

/-- Characters that are not in the mark can stand before a text, -/
theorem cutAt_append_left (filled : mark ≠ []) {lead : List Char} (outside : ∀ x ∈ lead, x ∉ mark)
    (text : List Char) : cutAt mark (lead ++ text) =
      (cutAt mark text).map fun (before, after) => (lead ++ before, after) := by
  induction lead with
  | nil => simp
  | cons x rest ih =>
    obtain ⟨first, others⟩ := List.forall_mem_cons.mp outside
    have cut := cutAt_append_cons filled first [] (rest ++ text)
    have ends : cutAt mark [] = none := by simp [cutAt, filled]
    rw [ends, ih others] at cut
    rw [List.cons_append, ← List.nil_append (x :: (rest ++ text)), cut]
    cases cutAt mark text <;> rfl

/-- and after it. -/
theorem cutAt_append_right (filled : mark ≠ []) {tail : List Char} (outside : ∀ x ∈ tail, x ∉ mark)
    (text : List Char) : cutAt mark (text ++ tail) =
      (cutAt mark text).map fun (before, after) => (before, after ++ tail) := by
  have ends : cutAt mark tail = none := by
    have cut := cutAt_append_left filled outside []
    simpa [cutAt, filled] using cut
  cases tail with
  | nil => simp
  | cons x rest =>
    have later : cutAt mark rest = none := by
      rw [← List.nil_append (x :: rest), cutAt_append_cons filled (outside x List.mem_cons_self)] at ends
      simpa [cutAt, filled] using ends
    rw [cutAt_append_cons filled (outside x List.mem_cons_self), later]
    cases cutAt mark text <;> rfl

theorem cutAt_append_self (after : List Char) : cutAt mark (mark ++ after) = some ([], after) := by
  have begins : mark.isPrefixOf (mark ++ after) = true := by simp
  generalize whole : mark ++ after = text at begins ⊢
  cases text with
  | nil =>
    obtain ⟨rfl, rfl⟩ := List.append_eq_nil_iff.mp whole
    rfl
  | cons c rest => rw [cutAt, if_pos begins, ← whole, List.drop_left]

theorem firstCut_of_cutAt (cut : cutAt mark text = some (before, after)) : FirstCut mark text before after := by
  induction text generalizing before with
  | nil =>
    rw [cutAt] at cut
    split at cut
    · next empty =>
      cases cut
      exact ⟨by simpa using empty, fun _ _ _ => Nat.zero_le _⟩
    · cases cut
  | cons c rest ih =>
    rw [cutAt] at cut
    split at cut
    · next here =>
      obtain ⟨tail, whole⟩ := List.isPrefixOf_iff_prefix.mp here
      cases cut
      refine ⟨?_, fun _ _ _ => Nat.zero_le _⟩
      rw [← whole, List.drop_left, List.nil_append]
    · next elsewhere =>
      obtain ⟨⟨front, back⟩, later, parts⟩ := Option.map_eq_some_iff.mp cut
      cases parts
      obtain ⟨whole, first⟩ := ih later
      refine ⟨by rw [whole]; rfl, fun early late split => ?_⟩
      cases early with
      | nil => exact absurd (List.isPrefixOf_iff_prefix.mpr ⟨late, split.symm⟩) elsewhere
      | cons d early => exact Nat.succ_le_succ (first early late (List.cons.inj split).2)

theorem cutAt_eq_none_iff : cutAt mark text = none ↔ ¬ mark <:+: text := by
  induction text with
  | nil => simp [cutAt]
  | cons c rest ih =>
    rw [cutAt, List.infix_cons_iff, not_or, ← List.isPrefixOf_iff_prefix]
    split
    · next here => exact iff_of_false nofun fun apart => apart.1 here
    · next elsewhere => rw [Option.map_eq_none_iff, ih, and_iff_right elsewhere]

theorem cutAt_eq_some_iff : cutAt mark text = some (before, after) ↔ FirstCut mark text before after := by
  refine ⟨firstCut_of_cutAt, fun cut => ?_⟩
  cases found : cutAt mark text with
  | none =>
    refine absurd ?_ (cutAt_eq_none_iff.mp found)
    exact ⟨before, after, cut.whole.symm⟩
  | some other =>
    obtain ⟨front, back⟩ := other
    have least := firstCut_of_cutAt found
    have size := Nat.le_antisymm (least.first before after cut.whole) (cut.first front back least.whole)
    have same := least.whole.symm.trans cut.whole
    rw [List.append_assoc, List.append_assoc] at same
    obtain ⟨rfl, tail⟩ := List.append_inj same size
    rw [List.append_cancel_left tail]

end LessonShell.Text
