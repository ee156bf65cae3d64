import LessonShell.Lesson
import LessonShell.Proofs.Text.Succession

/-! The welcome line. The host is filled in first and the user in what has come of it, so a host that brings
a placeholder of the user into the line, whole or in parts, is taken for a part of the welcome. -/
namespace LessonShell.Lesson

def hostMark : List Char := "\x7bhost\x7d".toList

def userMark : List Char := "\x7buser\x7d".toList

/-- The placeholders of a welcome line and what stands for them. -/
def placeholders (lesson : Lesson) : Text.Values :=
  [(hostMark, lesson.host.toList), (userMark, lesson.user.toList)]

theorem isPlaceholder_host : Text.IsPlaceholder hostMark := ⟨"host".toList, by decide⟩

theorem isPlaceholder_user : Text.IsPlaceholder userMark := ⟨"user".toList, by decide⟩

theorem hostMark_ne_userMark : hostMark ≠ userMark := by decide

theorem marked_placeholders (lesson : Lesson) : ∀ row ∈ lesson.placeholders, Text.IsPlaceholder row.1 := by
  intro row member
  rcases List.mem_pair.mp member with rfl | rfl
  · exact isPlaceholder_host
  · exact isPlaceholder_user

theorem distinct_placeholders (lesson : Lesson) : (lesson.placeholders.map (·.1)).Nodup := by
  simp [placeholders, hostMark_ne_userMark]

theorem toList_replace (text mark value : String) : (Text.replace text mark value).toList =
    Text.substitute [(mark.toList, value.toList)] text.toList := by
  rw [Text.replace, String.toList_ofList, Text.replaceFrom_eq]
  rfl

theorem filled_replace {mark : String} (placeholder : Text.IsPlaceholder mark.toList) (text value : String) :
    Text.Filled [(mark.toList, value.toList)] text.toList (Text.replace text mark value).toList := by
  rw [Text.filled_iff (placeholder.single value.toList) (List.nodup_singleton _)]
  exact toList_replace text mark value

/-- A welcome is always answered with a line: the host is filled in, and in the result the user. This is the
welcome with both filled in at once exactly if the user is the own placeholder or filling in the host makes
no more placeholders of the user than the welcome has. -/
theorem motdLine_filled_iff (lesson : Lesson) (greets : lesson.motd ≠ "") :
    ∃ line, lesson.motdLine? = some line ∧
      (∃ between, Text.Filled [(hostMark, lesson.host.toList)] lesson.motd.toList between ∧
        Text.Filled [(userMark, lesson.user.toList)] between line.toList) ∧
      (Text.Filled lesson.placeholders lesson.motd.toList line.toList ↔ lesson.user.toList = userMark ∨
        Text.occurrences userMark (Text.replace lesson.motd "\x7bhost\x7d" lesson.host).toList =
          Text.occurrences userMark lesson.motd.toList) := by
  have first := filled_replace isPlaceholder_host lesson.motd lesson.host
  have second := filled_replace isPlaceholder_user (Text.replace lesson.motd "\x7bhost\x7d" lesson.host) lesson.user
  refine ⟨_, by rw [motdLine?, if_neg greets], ⟨_, first, second⟩, ?_⟩
  have fresh : ∀ row ∈ [(hostMark, lesson.host.toList)], row.1 ≠ userMark := by
    intro row member
    rw [List.mem_singleton.mp member]
    exact hostMark_ne_userMark
  rw [Text.filled_iff lesson.marked_placeholders lesson.distinct_placeholders, toList_replace, toList_replace]
  exact Text.substitute_twice_iff (isPlaceholder_host.single _) isPlaceholder_user fresh

theorem motdLine_filled_around_a_brace :
    let lesson : Lesson := { Lesson.default with
      host := "\x7bus", user := "er", motd := "\x7b\x7buser\x7d\x7bhost\x7d\x7d" }
    lesson.motd ≠ "" ∧ lesson.motdLine? = some "\x7ber\x7bus\x7d" ∧
    Text.Filled lesson.placeholders lesson.motd.toList "\x7ber\x7bus\x7d".toList := by
  intro lesson
  have greets : lesson.motd ≠ "" := by decide
  obtain ⟨line, shown, -, once⟩ := motdLine_filled_iff lesson greets
  have found : lesson.motdLine? = some "\x7ber\x7bus\x7d" := by decide
  rw [found, Option.some.injEq] at shown
  subst shown
  exact ⟨greets, found, once.mpr (.inr (by decide))⟩

/-- The host brings in a placeholder of the user, which is filled in as if the welcome had it. -/
theorem host_taken_for_the_user :
    let lesson : Lesson := { Lesson.default with host := "\x7buser\x7d", motd := "\x7bhost\x7d" }
    lesson.motdLine? = some "alumno" ∧
    Text.Filled lesson.placeholders lesson.motd.toList "\x7buser\x7d".toList ∧
    ¬ Text.Filled lesson.placeholders lesson.motd.toList "alumno".toList := by
  intro lesson
  rw [Text.filled_iff lesson.marked_placeholders lesson.distinct_placeholders,
    Text.filled_iff lesson.marked_placeholders lesson.distinct_placeholders]
  decide

end LessonShell.Lesson
