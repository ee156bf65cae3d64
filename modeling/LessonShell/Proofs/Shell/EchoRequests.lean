import LessonShell.Proofs.Text.Cuts
import LessonShell.Shell.Echo

/-! What a line of `echo` asks for. The text after the first word is cut at its first `>>`, and what
stands on either side is taken without the blanks around it; so a line that was put together from a
text and a target asks for just these, however the text was quoted. -/
namespace LessonShell

namespace Text

/-- `rest` is what is left of a text without its first word and the blanks on both sides of it. -/
structure FollowsWord (text rest : List Char) : Prop where
  parts : ∃ lead word gap, text = lead ++ word ++ gap ++ rest ∧ (∀ c ∈ lead, isBlank c = true) ∧
    (∀ c ∈ word, isBlank c = false) ∧ (∀ c ∈ gap, isBlank c = true) ∧
    (word = [] → rest = []) ∧ (gap = [] → rest = [])
  front : ∀ c ∈ rest.head?, isBlank c = false

theorem followsWord_afterWord (text : List Char) : FollowsWord text (afterWord text) := by
  obtain ⟨lead, before, whole⟩ := exists_trimStart text
  obtain ⟨gap, between, behind⟩ := exists_trimStart ((trimStart text).dropWhile fun c => !isBlank c)
  have word := List.takeWhile_append_dropWhile (p := fun c => !isBlank c) (l := trimStart text)
  have first : ∀ c ∈ (trimStart text).head?, isBlank c = false := head_dropWhile
  have ended : ∀ c ∈ ((trimStart text).dropWhile fun c => !isBlank c).head?, (!isBlank c) = false := head_dropWhile
  have front : ∀ c ∈ (afterWord text).head?, isBlank c = false := head_dropWhile
  refine ⟨⟨lead, (trimStart text).takeWhile fun c => !isBlank c, gap, ?_, before, ?_, between, ?_, ?_⟩, front⟩
  · conv_lhs => rw [whole, ← word, behind]
    simp only [List.append_assoc]
    rfl
  · intro c member
    simpa using List.mem_takeWhile_imp member
  · intro empty
    rw [afterWord]
    cases left : trimStart text with
    | nil => rfl
    | cons c rest =>
      rw [left] at empty first
      simp [first c rfl] at empty
  · rintro rfl
    -- Without a gap the text after the word starts with a blank and with none.
    have same : (trimStart text).dropWhile (fun c => !isBlank c) = afterWord text := behind
    rw [same] at ended
    cases rest : afterWord text with
    | nil => rfl
    | cons c others =>
      rw [rest] at ended front
      simp [front c rfl] at ended

end Text

/-- A text that `echo` prints: without quotes and without blanks at its ends. -/
structure Bare (text : String) : Prop where
  double : '"' ∉ text.toList
  single : '\'' ∉ text.toList
  trimmed : Text.trimmed text = text

namespace EchoRequest
open Text

/-- The request in the text after the command word. -/
def ofText (text : List Char) : Except Diagnostic EchoRequest :=
  match cutAt ['>', '>'] text with
  | none => .ok (.print (unquoted text))
  | some (content, target) => match trim target with
    | [] => .error .appendNowhere
    | name => .ok (.append (unquoted content) (String.ofList name))

theorem ofLine_eq (line : String) : ofLine line = ofText (afterWord line.toList) := rfl

theorem bare_unquoted (text : List Char) : Bare (unquoted text) := by
  have kept : ∀ c ∈ (unquoted text).toList, c ≠ '"' ∧ c ≠ '\'' := by
    intro c member
    rw [unquoted, String.toList_ofList] at member
    simpa using (List.mem_filter.mp (mem_of_mem_trim member)).2
  refine ⟨fun quote => (kept _ quote).1 rfl, fun quote => (kept _ quote).2 rfl, ?_⟩
  rw [unquoted, trimmed, String.toList_ofList, trim_trim]

section blanks
variable {blanks : List Char} (blank : ∀ c ∈ blanks, isBlank c = true)
include blank

private theorem unquoted_blank : ∀ c ∈ blanks.filter (fun c => c ≠ '"' ∧ c ≠ '\''), isBlank c = true :=
  fun c member => blank c (List.mem_filter.mp member).1

private theorem blank_unmarked : ∀ c ∈ blanks, c ∉ ['>', '>'] := by
  intro c member mark
  obtain rfl : c = '>' := by simpa using mark
  exact absurd (blank '>' member) (by decide)

theorem unquoted_append_left (text : List Char) : unquoted (blanks ++ text) = unquoted text := by
  rw [unquoted, List.filter_append, trim_append_left (unquoted_blank blank), unquoted]

theorem unquoted_append_right (text : List Char) : unquoted (text ++ blanks) = unquoted text := by
  rw [unquoted, List.filter_append, trim_append_right (unquoted_blank blank), unquoted]

/-- Blanks before the text after the command word do not count. -/
theorem ofText_append_left (text : List Char) : ofText (blanks ++ text) = ofText text := by
  rw [ofText, cutAt_append_left (by simp) (blank_unmarked blank), ofText]
  cases cutAt ['>', '>'] text with
  | none => simp only [Option.map_none, unquoted_append_left blank]
  | some cut => simp only [Option.map_some, unquoted_append_left blank]

end blanks

theorem ofText_trimStart (text : List Char) : ofText (trimStart text) = ofText text := by
  obtain ⟨lead, before, whole⟩ := exists_trimStart text
  conv_rhs => rw [whole, ofText_append_left before]

theorem ofLine_of_toList {line : String} {text : List Char} (spelled : line.toList = "echo ".toList ++ text) :
    ofLine line = ofText text := by
  have read : afterWord line.toList = trimStart text := by
    rw [spelled]
    rfl
  rw [ofLine_eq, read, ofText_trimStart]

theorem ofText_of_unmarked {text : List Char} (unmarked : ¬ ['>', '>'] <:+: text) :
    ofText text = .ok (.print (unquoted text)) := by
  rw [ofText, cutAt_eq_none_iff.mpr unmarked]

theorem ofText_of_blank {text before after : List Char} (cut : FirstCut ['>', '>'] text before after)
    (blank : ∀ c ∈ after, isBlank c = true) : ofText text = .error .appendNowhere := by
  rw [ofText, cutAt_eq_some_iff.mpr cut]
  dsimp only
  rw [trim_eq_nil_iff.mpr blank]

theorem ofText_of_filled {text before after : List Char} (cut : FirstCut ['>', '>'] text before after)
    (filled : ∃ c ∈ after, isBlank c = false) :
    ofText text = .ok (.append (unquoted before) (String.ofList (trim after))) := by
  obtain ⟨c, member, seen⟩ := filled
  rw [ofText, cutAt_eq_some_iff.mpr cut]
  dsimp only
  split
  · next empty =>
    rw [trim_eq_nil_iff.mp empty c member] at seen
    cases seen
  · rfl

/-- A text has no `>>`, or only blanks after the first one, or more than blanks. -/
theorem firstCut_cases (text : List Char) :
    ¬ ['>', '>'] <:+: text ∨ ∃ before after, FirstCut ['>', '>'] text before after ∧
      ((∀ c ∈ after, isBlank c = true) ∨ ∃ c ∈ after, isBlank c = false) := by
  cases found : cutAt ['>', '>'] text with
  | none => exact .inl (cutAt_eq_none_iff.mp found)
  | some cut =>
    refine .inr ⟨cut.1, cut.2, cutAt_eq_some_iff.mp found, ?_⟩
    by_cases blank : ∀ c ∈ cut.2, isBlank c = true
    · exact .inl blank
    · exact .inr (by simpa using blank)

theorem ofText_eq_error_iff {text : List Char} {cause : Diagnostic} : ofText text = .error cause ↔
    cause = .appendNowhere ∧ ∃ before after, FirstCut ['>', '>'] text before after ∧
      ∀ c ∈ after, isBlank c = true := by
  constructor
  · intro failed
    rcases firstCut_cases text with unmarked | ⟨before, after, cut, blank | filled⟩
    · rw [ofText_of_unmarked unmarked] at failed
      cases failed
    · rw [ofText_of_blank cut blank] at failed
      exact ⟨(Except.error.inj failed).symm, before, after, cut, blank⟩
    · rw [ofText_of_filled cut filled] at failed
      cases failed
  · rintro ⟨rfl, before, after, cut, blank⟩
    exact ofText_of_blank cut blank

theorem ofText_eq_append_iff {text : List Char} {content target : String} :
    ofText text = .ok (.append content target) ↔
      ∃ before after, FirstCut ['>', '>'] text before after ∧ (∃ c ∈ after, isBlank c = false) ∧
        content = unquoted before ∧ target = String.ofList (trim after) := by
  constructor
  · intro read
    rcases firstCut_cases text with unmarked | ⟨before, after, cut, blank | filled⟩
    · rw [ofText_of_unmarked unmarked] at read
      cases read
    · rw [ofText_of_blank cut blank] at read
      cases read
    · rw [ofText_of_filled cut filled] at read
      cases read
      exact ⟨before, after, cut, filled, rfl, rfl⟩
  · rintro ⟨before, after, cut, filled, rfl, rfl⟩
    exact ofText_of_filled cut filled

theorem ofText_eq_print_iff {text : List Char} {shown : String} :
    ofText text = .ok (.print shown) ↔ ¬ ['>', '>'] <:+: text ∧ shown = unquoted text := by
  constructor
  · intro read
    rcases firstCut_cases text with unmarked | ⟨before, after, cut, blank | filled⟩
    · rw [ofText_of_unmarked unmarked] at read
      cases read
      exact ⟨unmarked, rfl⟩
    · rw [ofText_of_blank cut blank] at read
      cases read
    · rw [ofText_of_filled cut filled] at read
      cases read
  · rintro ⟨unmarked, rfl⟩
    exact ofText_of_unmarked unmarked

section spelling
variable {content : String}

theorem unquoted_of_bare (bare : Bare content) : unquoted content.toList = content := by
  have kept : content.toList.filter (fun c => c ≠ '"' ∧ c ≠ '\'') = content.toList := by
    refine List.filter_eq_self.mpr fun c member => ?_
    have double : c ≠ '"' := fun same => bare.double (same ▸ member)
    have single : c ≠ '\'' := fun same => bare.single (same ▸ member)
    simp [double, single]
  rw [unquoted, kept]
  exact bare.trimmed

/-- The ways in which a text can be quoted: not at all, or with the same quote on both sides. -/
def quotings : List (List Char) := [['"'], ['\''], []]

theorem unquoted_quoted {quote : List Char} (quoting : quote ∈ quotings) (bare : Bare content) :
    unquoted (quote ++ content.toList ++ quote) = content := by
  have gone : quote.filter (fun c => c ≠ '"' ∧ c ≠ '\'') = [] := by
    revert quote
    decide
  rw [unquoted, List.filter_append, List.filter_append, gone, List.nil_append, List.append_nil]
  exact unquoted_of_bare bare

theorem cutAt_quoted {quote : List Char} (quoting : quote ∈ quotings)
    (unmarked : ¬ ['>', '>'] <:+: content.toList) :
    cutAt ['>', '>'] (quote ++ content.toList ++ quote) = none := by
  have outside : ∀ c ∈ quote, c ∉ ['>', '>'] := by
    simp only [quotings, List.mem_cons, List.not_mem_nil, or_false] at quoting
    rcases quoting with rfl | rfl | rfl <;> simp
  rw [cutAt_append_right (by simp) outside, cutAt_append_left (by simp) outside,
    cutAt_eq_none_iff.mpr unmarked]
  rfl

theorem ofText_quoted {quote : List Char} (quoting : quote ∈ quotings) (bare : Bare content)
    (unmarked : ¬ ['>', '>'] <:+: content.toList) :
    ofText (quote ++ content.toList ++ quote) = .ok (.print content) := by
  rw [ofText, cutAt_quoted quoting unmarked, unquoted_quoted quoting bare]

theorem ofText_quoted_append {quote : List Char} (quoting : quote ∈ quotings) (bare : Bare content)
    (unmarked : ¬ ['>', '>'] <:+: content.toList) {target : String} (ends : trimmed target = target)
    (filled : target ≠ "") :
    ofText (quote ++ content.toList ++ quote ++ ' ' :: (['>', '>'] ++ ' ' :: target.toList)) =
      .ok (.append content target) := by
  have cut : FirstCut ['>', '>'] (quote ++ content.toList ++ quote ++ ' ' :: (['>', '>'] ++ ' ' :: target.toList))
      (quote ++ content.toList ++ quote ++ [' ']) (' ' :: target.toList) := by
    rw [← cutAt_eq_some_iff, cutAt_append_cons (by simp) (by decide), cutAt_quoted quoting unmarked,
      cutAt_append_self]
    rfl
  have space : ∀ c ∈ [' '], isBlank c = true := List.forall_mem_singleton.mpr (by decide)
  have named : trim (' ' :: target.toList) = target.toList := by
    have alone : trim ([' '] ++ target.toList) = trim target.toList := trim_append_left space target.toList
    rw [← String.toList_inj, trimmed, String.toList_ofList] at ends
    exact alone.trans ends
  have seen : ∃ c ∈ ' ' :: target.toList, isBlank c = false := by
    have unblank : ¬ ∀ c ∈ ' ' :: target.toList, isBlank c = true := by
      rw [← trim_eq_nil_iff, named]
      simpa using filled
    simpa only [not_forall, exists_prop, Bool.not_eq_true] using unblank
  rw [ofText_of_filled cut seen, named, String.ofList_toList, unquoted_append_right space,
    unquoted_quoted quoting bare]

end spelling

/-- A line of `echo` fails exactly if its first `>>` is followed by blanks only, is an append exactly if
something else follows it, and otherwise is to be printed. What is printed or appended is bare; and a
bare text without `>>` is asked for by a line that spells it in quotes of either kind or in none. -/
theorem ofLine_grammar :
    (∀ line : String,
      let rest := afterWord line.toList
      FollowsWord line.toList rest ∧
      (∀ cause, ofLine line = .error cause ↔ cause = .appendNowhere ∧
        ∃ before after, FirstCut ['>', '>'] rest before after ∧ ∀ c ∈ after, isBlank c = true) ∧
      (∀ content target, ofLine line = .ok (.append content target) ↔
        ∃ before after, FirstCut ['>', '>'] rest before after ∧ (∃ c ∈ after, isBlank c = false) ∧
          content = unquoted before ∧ target = String.ofList (trim after)) ∧
      (∀ text, ofLine line = .ok (.print text) ↔ ¬ ['>', '>'] <:+: rest ∧ text = unquoted rest) ∧
      ∀ text, (ofLine line = .ok (.print text) ∨ ∃ target, ofLine line = .ok (.append text target)) →
        Bare text) ∧
    ∀ content, Bare content → ¬ ['>', '>'] <:+: content.toList →
      ofLine ("echo \"" ++ content ++ "\"") = .ok (.print content) ∧
      ∀ target, trimmed target = target → target ≠ "" →
        ofLine ("echo \"" ++ content ++ "\" >> " ++ target) = .ok (.append content target) ∧
        ofLine ("echo '" ++ content ++ "' >> " ++ target) = .ok (.append content target) ∧
        ofLine ("echo " ++ content ++ " >> " ++ target) = .ok (.append content target) := by
  constructor
  · intro line rest
    refine ⟨followsWord_afterWord line.toList, fun cause => ofText_eq_error_iff,
      fun content target => ofText_eq_append_iff, fun text => ofText_eq_print_iff, ?_⟩
    rintro text (printed | ⟨target, appended⟩)
    · obtain ⟨_, rfl⟩ := ofText_eq_print_iff.mp printed
      exact bare_unquoted rest
    · obtain ⟨before, after, _, _, rfl, _⟩ := ofText_eq_append_iff.mp appended
      exact bare_unquoted before
  · intro content bare unmarked
    constructor
    · have double : ['"'] ∈ quotings := by decide
      exact (ofLine_of_toList (by simp)).trans (ofText_quoted double bare unmarked)
    · intro target ends filled
      have double : ['"'] ∈ quotings := by decide
      have single : ['\''] ∈ quotings := by decide
      have plain : [] ∈ quotings := by decide
      refine ⟨?_, ?_, ?_⟩
      · exact (ofLine_of_toList (by simp)).trans (ofText_quoted_append double bare unmarked ends filled)
      · exact (ofLine_of_toList (by simp)).trans (ofText_quoted_append single bare unmarked ends filled)
      · exact (ofLine_of_toList (by simp)).trans (ofText_quoted_append plain bare unmarked ends filled)

theorem ofLine_of_marks_near_the_operator :
    ofLine "echo \"a >\" >> > b" = .ok (.append "a >" "> b") ∧ ofLine "echo >\t>>\u3000" = .error .appendNowhere ∧
      ofLine "echo \"a >\"" = .ok (.print "a >") := by
  have bare : Bare "a >" := ⟨by decide, by decide, by decide⟩
  have unmarked : ¬ ['>', '>'] <:+: "a >".toList := by decide
  obtain ⟨reads, spells⟩ := ofLine_grammar
  obtain ⟨prints, appends⟩ := spells "a >" bare unmarked
  obtain ⟨_, fails, -⟩ := reads "echo >\t>>\u3000"
  have cut : FirstCut ['>', '>'] (afterWord "echo >\t>>\u3000".toList) ['>', '\t'] ['\u3000'] :=
    cutAt_eq_some_iff.mp (by decide)
  have blank : ∀ c ∈ ['\u3000'], isBlank c = true := List.forall_mem_singleton.mpr (by decide)
  exact ⟨(appends "> b" (by decide) (by decide)).1, (fails _).mpr ⟨rfl, _, _, cut, blank⟩, prints⟩

end EchoRequest
end LessonShell
