import LessonShell.Text.Pieces

/-! Cutting a text, stated over its concatenations: a mark separates what stands on its
two sides, and a text without marks is one piece. -/
namespace LessonShell.Text
variable {cut : Char → Bool} {mark : Char}

theorem pieces_ne_nil (cut : Char → Bool) (text : List Char) : pieces cut text ≠ [] := by
  induction text with
  | nil => simp [pieces]
  | cons c rest ih =>
    rw [pieces]
    split
    · simp
    · split <;> simp

theorem pieces_append_mark (before after : List Char) {m : Char} (isMark : cut m = true) :
    pieces cut (before ++ m :: after) = pieces cut before ++ pieces cut after := by
  induction before with
  | nil => simp [pieces, isMark]
  | cons c rest ih =>
    obtain ⟨first, others, parts⟩ := List.exists_cons_of_ne_nil (pieces_ne_nil cut rest)
    rw [List.cons_append, pieces, pieces, ih, parts]
    cases cut c <;> rfl

theorem pieces_of_unmarked {text : List Char} (unmarked : ∀ c ∈ text, cut c = false) :
    pieces cut text = [text] := by
  induction text with
  | nil => rfl
  | cons c rest ih =>
    have first : cut c = false := unmarked c List.mem_cons_self
    have others := ih fun d member => unmarked d (List.mem_cons_of_mem c member)
    simp [pieces, first, others]

theorem unmarked_of_not_mem {text : List Char} (absent : mark ∉ text) :
    ∀ c ∈ text, (c == mark) = false := by
  intro c member
  have differs : c ≠ mark := fun same => absent (same ▸ member)
  simpa using differs

theorem unmarked_of_mem_pieces {text piece : List Char} (member : piece ∈ pieces cut text) :
    ∀ c ∈ piece, cut c = false := by
  induction text generalizing piece with
  | nil =>
    have blank : piece = [] := by simpa [pieces] using member
    simp [blank]
  | cons c rest ih =>
    obtain ⟨first, others, parts⟩ := List.exists_cons_of_ne_nil (pieces_ne_nil cut rest)
    rw [pieces, parts] at member
    rw [parts] at ih
    cases isMark : cut c with
    | true =>
      rw [isMark, if_pos rfl] at member
      rcases List.mem_cons.mp member with rfl | inside
      · simp
      · exact ih inside
    | false =>
      rw [isMark, if_neg Bool.false_ne_true] at member
      rcases List.mem_cons.mp member with rfl | inside
      · intro d held
        rcases List.mem_cons.mp held with rfl | later
        · exact isMark
        · exact ih List.mem_cons_self d later
      · exact ih (List.mem_cons_of_mem first inside)

theorem not_mem_of_mem_pieces {text piece : List Char} (member : piece ∈ pieces (· == mark) text) :
    mark ∉ piece := by
  intro inside
  have unmarked := unmarked_of_mem_pieces member mark inside
  simp at unmarked

theorem intercalate_pieces (mark : Char) (text : List Char) :
    [mark].intercalate (pieces (· == mark) text) = text := by
  induction text with
  | nil => rfl
  | cons c rest ih =>
    obtain ⟨first, others, parts⟩ := List.exists_cons_of_ne_nil (pieces_ne_nil (· == mark) rest)
    rw [pieces, parts]
    rw [parts] at ih
    by_cases same : c = mark
    · rw [if_pos (by simpa using same), List.intercalate_cons_cons, ih, same]
      rfl
    · rw [if_neg (by simpa using same)]
      cases others with
      | nil => simpa using ih
      | cons next more =>
        rw [List.intercalate_cons_cons] at ih ⊢
        rw [List.cons_append, List.cons_append, ih]

theorem pieces_eq_pair_iff {text front back : List Char} :
    pieces (· == mark) text = [front, back] ↔ text = front ++ mark :: back ∧ mark ∉ front ∧ mark ∉ back := by
  constructor
  · intro cut
    have unmarked (piece : List Char) (member : piece ∈ [front, back]) : mark ∉ piece :=
      not_mem_of_mem_pieces (cut ▸ member)
    refine ⟨?_, unmarked front (by simp), unmarked back (by simp)⟩
    rw [← intercalate_pieces mark text, cut]
    simp [List.intercalate]
  · rintro ⟨rfl, before, after⟩
    rw [pieces_append_mark front back (by simp), pieces_of_unmarked (unmarked_of_not_mem before),
      pieces_of_unmarked (unmarked_of_not_mem after)]
    rfl

theorem splitOn_eq_pair_iff {text front back : String} :
    splitOn mark text = [front, back] ↔
      text = front ++ String.ofList [mark] ++ back ∧ mark ∉ front.toList ∧ mark ∉ back.toList := by
  have spelled : [front, back] = [front.toList, back.toList].map String.ofList := by simp
  rw [splitOn, spelled, List.map_inj_right fun _ _ => String.ofList_injective, pieces_eq_pair_iff,
    ← String.toList_inj]
  simp

theorem fields_append_mark (before after : List Char) {m : Char} (isMark : cut m = true) :
    fields cut (before ++ m :: after) = fields cut before ++ fields cut after := by
  simp [fields, pieces_append_mark before after isMark]

@[simp] theorem fields_nil : fields cut [] = [] := by simp [fields, pieces]

theorem fields_of_unmarked {text : List Char} (unmarked : ∀ c ∈ text, cut c = false)
    (nonempty : text ≠ []) : fields cut text = [text] := by
  simp [fields, pieces_of_unmarked unmarked, nonempty]

theorem field_ne_nil {text field : List Char} (member : field ∈ fields cut text) : field ≠ [] := by
  simpa using (List.mem_filter.mp member).2

theorem unmarked_of_mem_fields {text field : List Char} (member : field ∈ fields cut text) :
    ∀ c ∈ field, cut c = false :=
  unmarked_of_mem_pieces (List.mem_filter.mp member).1

theorem fields_cons_mark {m : Char} (text : List Char) (isMark : cut m = true) :
    fields cut (m :: text) = fields cut text := by
  simpa using fields_append_mark [] text isMark

theorem fields_cons_ne_nil {c : Char} (rest : List Char) (unmarked : cut c = false) :
    fields cut (c :: rest) ≠ [] := by
  obtain ⟨first, others, parts⟩ := List.exists_cons_of_ne_nil (pieces_ne_nil cut rest)
  simp [fields, pieces, unmarked, parts]

theorem exists_last_mark {text : List Char} (member : mark ∈ text) :
    ∃ before after, text = before ++ mark :: after ∧ mark ∉ after := by
  induction text with
  | nil => simp at member
  | cons c rest ih =>
    by_cases later : mark ∈ rest
    · obtain ⟨before, after, parts, last⟩ := ih later
      exact ⟨c :: before, after, by simp [parts], last⟩
    · have first : mark = c := by simpa [later] using member
      exact ⟨[], rest, by simp [first], later⟩

theorem beforeLast?_of_not_mem {text : List Char} (absent : mark ∉ text) :
    beforeLast? mark text = none := by
  cases text with
  | nil => rfl
  | cons c rest =>
    have first : c ≠ mark := fun same => absent (by simp [same])
    have others : mark ∉ rest := fun later => absent (List.mem_cons_of_mem c later)
    simp [beforeLast?, others, first]

theorem beforeLast?_append (before : List Char) {after : List Char} (last : mark ∉ after) :
    beforeLast? mark (before ++ mark :: after) = some before := by
  induction before with
  | nil => simp [beforeLast?, last]
  | cons c rest ih =>
    rw [List.cons_append, beforeLast?, if_pos (by simp), ih]
    rfl

theorem afterLast_of_not_mem {text : List Char} (absent : mark ∉ text) : afterLast mark text = text := by
  cases text with
  | nil => rfl
  | cons c rest =>
    rw [List.mem_cons, not_or] at absent
    rw [afterLast, if_neg absent.2, if_neg (Ne.symm absent.1)]

theorem afterLast_append (before : List Char) {after : List Char} (last : mark ∉ after) :
    afterLast mark (before ++ mark :: after) = after := by
  induction before with
  | nil => rw [List.nil_append, afterLast, if_neg last, if_pos rfl]
  | cons c rest ih => rw [List.cons_append, afterLast, if_pos (by simp), ih]

theorem getLastD_splitOn (mark : Char) (text : String) :
    (splitOn mark text).getLastD "" = String.ofList (afterLast mark text.toList) := by
  by_cases marked : mark ∈ text.toList
  · obtain ⟨before, after, parts, last⟩ := exists_last_mark marked
    rw [splitOn, parts, pieces_append_mark _ _ (by simp), pieces_of_unmarked (unmarked_of_not_mem last),
      List.map_append, List.map_singleton, List.getLastD_concat, afterLast_append _ last]
  · rw [splitOn, pieces_of_unmarked (unmarked_of_not_mem marked), afterLast_of_not_mem marked]
    rfl

theorem occurs_cons_of_not_mem {text : List Char} (absent : mark ∉ text) (needle : List Char) :
    occurs (mark :: needle) text = false := by
  induction text with
  | nil => rfl
  | cons c rest ih =>
    obtain ⟨differs, later⟩ := List.ne_and_not_mem_of_not_mem_cons absent
    have first : (mark :: needle).isPrefixOf (c :: rest) = false := by
      simp [List.isPrefixOf, differs]
    rw [occurs, first, ih later]
    rfl

theorem occurs_singleton_of_mem {text : List Char} (member : mark ∈ text) : occurs [mark] text = true := by
  induction text with
  | nil => cases member
  | cons c rest ih =>
    rw [occurs, Bool.or_eq_true]
    rcases List.mem_cons.mp member with rfl | later
    · exact .inl (by simp [List.isPrefixOf])
    · exact .inr (ih later)

theorem startsWith_iff {text start : String} :
    startsWith text start = true ↔ ∃ rest, text = start ++ rest := by
  rw [startsWith, List.isPrefixOf_iff_prefix]
  constructor
  · rintro ⟨rest, parts⟩
    refine ⟨String.ofList rest, ?_⟩
    rw [← String.toList_inj]
    simp [parts]
  · rintro ⟨rest, rfl⟩
    simp

theorem startsWith_append {text start : String} (begins : startsWith text start = true) (rest : String) :
    startsWith (text ++ rest) start = true := by
  obtain ⟨tail, rfl⟩ := startsWith_iff.mp begins
  rw [String.append_assoc]
  exact startsWith_iff.mpr ⟨tail ++ rest, rfl⟩

theorem stripStart?_eq_some_iff {text start rest : String} :
    stripStart? text start = some rest ↔ text = start ++ rest := by
  unfold stripStart?
  split
  · next begins =>
    obtain ⟨tail, rfl⟩ := startsWith_iff.mp begins
    simp
  · next other => exact iff_of_false nofun fun same => other (startsWith_iff.mpr ⟨rest, same⟩)

end LessonShell.Text
