import LessonShell.Lesson
import Mathlib.Data.List.Perm.Basic

/-! Accounts of the target. Only the first account of a user is asked for a password, so the order of the
list counts where a user is listed with different passwords, and nowhere else. -/
namespace LessonShell

def Account.Accepts (account : Account) (secret : String) : Prop :=
  account.password = none ∨ account.password = some secret

/-- Every secret of `other` is one of `account`. -/
def Account.Covers (account other : Account) : Prop :=
  account.password = none ∨ account.password = other.password

theorem Account.covers_iff {account other : Account} :
    account.Covers other ↔ ∀ secret, other.Accepts secret → account.Accepts secret := by
  constructor
  · rintro (free | same) secret accepted
    · exact .inl free
    · rwa [Accepts, same]
  · intro covered
    cases own : account.password with
    | none => exact .inl own
    | some password =>
      refine .inr ?_
      cases given : other.password with
      | none =>
        -- An account without password accepts more than any password.
        have longer := (covered (password ++ " ") (.inl given)).resolve_left (by simp [own])
        rw [own, Option.some.injEq] at longer
        exact absurd (congrArg String.length longer) (by simp)
      | some secret =>
        have found := (covered secret (.inr given)).resolve_left (by simp [own])
        rw [found]

namespace Target
variable {target : Target} {user secret : String}

theorem verifyPassword_iff : target.verifyPassword user secret = true ↔ target.accounts = [] ∨
    ∃ account, target.accounts.find? (·.user = user) = some account ∧ account.Accepts secret := by
  rw [verifyPassword, Bool.or_eq_true, List.isEmpty_iff]
  cases target.accounts.find? (·.user = user) with
  | none => simp
  | some account => cases password : account.password <;> simp [Account.Accepts, password]

/-- Users without an account depend on whether the target is open, all others on their password. -/
theorem verifyLogin_iff_password : target.verifyLogin user secret = true ↔
    target.verifyPassword user secret = true ∨
      (∀ account ∈ target.accounts, account.user ≠ user) ∧ target.openLogin = true := by
  rw [verifyLogin]
  split
  · next listed =>
    have known : ¬ ∀ account ∈ target.accounts, account.user ≠ user := by simpa using listed
    rw [or_iff_left fun stranger => known stranger.1]
  · next unlisted =>
    have strangers : ∀ account ∈ target.accounts, account.user ≠ user := by simpa using unlisted
    have unfound : target.accounts.find? (·.user = user) = none := by
      simpa [List.find?_eq_none] using strangers
    rw [verifyPassword_iff, unfound, Bool.or_eq_true, List.isEmpty_iff, and_iff_right strangers, or_comm]
    simp

/-- Some account of the user accepts the secret, or there are no accounts at all. -/
def AnyAccepts (target : Target) (user secret : String) : Prop :=
  target.accounts = [] ∨ ∃ account ∈ target.accounts, account.user = user ∧ account.Accepts secret

/-- No user is listed with two different passwords. -/
def Unambiguous (target : Target) : Prop :=
  ∀ first ∈ target.accounts, ∀ second ∈ target.accounts, first.user = second.user →
    first.password = second.password

instance (target : Target) : Decidable target.Unambiguous :=
  inferInstanceAs (Decidable (∀ first ∈ _, ∀ second ∈ _, _ → _))

/-- The target with the same accounts in another order. -/
def reordered (target : Target) (accounts : List Account) : Target := { target with accounts := accounts }

theorem mem_of_leader {leader : Account} (first : target.accounts.find? (·.user = user) = some leader) :
    leader ∈ target.accounts ∧ leader.user = user :=
  ⟨List.mem_of_find?_eq_some first, by simpa using List.find?_some first⟩

theorem exists_leader {account : Account} (member : account ∈ target.accounts) (named : account.user = user) :
    ∃ leader, target.accounts.find? (·.user = user) = some leader := by
  rw [← Option.isSome_iff_exists, List.find?_isSome]
  exact ⟨account, member, by simpa using named⟩

theorem anyAccepts_of_verifyPassword (right : target.verifyPassword user secret = true) :
    target.AnyAccepts user secret := by
  rcases verifyPassword_iff.mp right with empty | ⟨leader, first, accepted⟩
  · exact .inl empty
  · obtain ⟨member, named⟩ := mem_of_leader first
    exact .inr ⟨leader, member, named, accepted⟩

/-- Any account of a user opens the target exactly if the first of them accepts what the others accept. -/
theorem verifyPassword_iff_anyAccepts :
    (∀ secret, target.verifyPassword user secret = true ↔ target.AnyAccepts user secret) ↔
    ∀ leader, target.accounts.find? (·.user = user) = some leader →
      ∀ account ∈ target.accounts, account.user = user → leader.Covers account := by
  constructor
  · intro alike leader first account member named
    rw [Account.covers_iff]
    intro secret accepted
    have opened := (alike secret).mpr (.inr ⟨account, member, named, accepted⟩)
    rcases verifyPassword_iff.mp opened with empty | ⟨other, found, right⟩
    · simp [empty] at member
    · rw [first, Option.some.injEq] at found
      rwa [found]
  · intro covers secret
    refine ⟨anyAccepts_of_verifyPassword, ?_⟩
    rintro (empty | ⟨account, member, named, accepted⟩)
    · exact verifyPassword_iff.mpr (.inl empty)
    · obtain ⟨leader, first⟩ := exists_leader member named
      have right := Account.covers_iff.mp (covers leader first account member named) secret accepted
      exact verifyPassword_iff.mpr (.inr ⟨leader, first, right⟩)

theorem Unambiguous.covers (unambiguous : target.Unambiguous) {leader account : Account}
    (first : target.accounts.find? (·.user = user) = some leader) (member : account ∈ target.accounts)
    (named : account.user = user) : leader.Covers account := by
  obtain ⟨inside, leads⟩ := mem_of_leader first
  exact .inr (unambiguous leader inside account member (leads.trans named.symm))

theorem Unambiguous.verifyPassword_iff (unambiguous : target.Unambiguous) :
    target.verifyPassword user secret = true ↔ target.AnyAccepts user secret :=
  verifyPassword_iff_anyAccepts.mpr (fun _ first _ member named => unambiguous.covers first member named) secret

section order
variable {accounts : List Account}

theorem AnyAccepts.congr (perm : accounts.Perm target.accounts) :
    (target.reordered accounts).AnyAccepts user secret ↔ target.AnyAccepts user secret := by
  have empty : accounts = [] ↔ target.accounts = [] := by
    rw [← List.length_eq_zero_iff, ← List.length_eq_zero_iff, perm.length_eq]
  simp only [AnyAccepts, reordered, empty, perm.mem_iff]

theorem Unambiguous.reordered (unambiguous : target.Unambiguous) (perm : accounts.Perm target.accounts) :
    (target.reordered accounts).Unambiguous :=
  fun first one second other => unambiguous first (perm.mem_iff.mp one) second (perm.mem_iff.mp other)

theorem verifyLogin_congr (perm : accounts.Perm target.accounts)
    (same : (target.reordered accounts).verifyPassword user secret = target.verifyPassword user secret) :
    (target.reordered accounts).verifyLogin user secret = target.verifyLogin user secret := by
  rw [Bool.eq_iff_iff, verifyLogin_iff_password, verifyLogin_iff_password, same]
  simp only [reordered, perm.mem_iff]

theorem verifyPassword_leader (target : Target) (first : Account) (rest : List Account) :
    (target.reordered (first :: rest)).verifyPassword first.user secret = true ↔ first.Accepts secret := by
  simp [verifyPassword_iff, reordered]

theorem unambiguous_of_alike (alike : ∀ accounts, accounts.Perm target.accounts → ∀ user secret,
    (target.reordered accounts).verifyPassword user secret = target.verifyPassword user secret) :
    target.Unambiguous := by
  -- Either account can come first, and then it alone decides.
  have covers (first : Account) (one : first ∈ target.accounts) (second : Account)
      (other : second ∈ target.accounts) (named : first.user = second.user) : first.Covers second := by
    rw [Account.covers_iff]
    intro secret accepted
    have ahead := (List.perm_cons_erase other).symm
    have before := (List.perm_cons_erase one).symm
    rw [← verifyPassword_leader target first (target.accounts.erase first), alike _ before, named,
      ← alike _ ahead, verifyPassword_leader]
    exact accepted
  intro first one second other named
  rcases covers first one second other named with free | same
  · rcases covers second other first one named.symm with unguarded | same
    · rw [free, unguarded]
    · exact same.symm
  · exact same

end order

/-- Users without an account depend on whether the target is open, whatever their secret. Any account of a
user opens the target exactly if the first of them accepts what the others accept, and the order of the
accounts does not count exactly if no user is listed with two different passwords. -/
theorem accounts_in_any_order_iff (target : Target) :
    (∀ user secret, target.verifyLogin user secret = true ↔ target.verifyPassword user secret = true ∨
      (∀ account ∈ target.accounts, account.user ≠ user) ∧ target.openLogin = true) ∧
    (∀ user, (∀ secret, target.verifyPassword user secret = true ↔ target.AnyAccepts user secret) ↔
      ∀ leader, target.accounts.find? (·.user = user) = some leader →
        ∀ account ∈ target.accounts, account.user = user → leader.Covers account) ∧
    ((∀ accounts, accounts.Perm target.accounts → ∀ user secret,
        (target.reordered accounts).verifyPassword user secret = target.verifyPassword user secret ∧
        (target.reordered accounts).verifyLogin user secret = target.verifyLogin user secret) ↔
      target.Unambiguous) := by
  refine ⟨fun user secret => verifyLogin_iff_password, fun user => verifyPassword_iff_anyAccepts, ?_⟩
  constructor
  · intro alike
    exact unambiguous_of_alike fun accounts perm user secret => (alike accounts perm user secret).1
  · intro unambiguous accounts perm user secret
    have same : (target.reordered accounts).verifyPassword user secret = target.verifyPassword user secret := by
      rw [Bool.eq_iff_iff, (unambiguous.reordered perm).verifyPassword_iff, unambiguous.verifyPassword_iff,
        AnyAccepts.congr perm]
    exact ⟨same, verifyLogin_congr perm same⟩

theorem repeated_account_in_any_order :
    let target := Target.default.reordered [⟨"root", some "1234"⟩, ⟨"alumno", none⟩, ⟨"root", some "1234"⟩]
    let other := target.reordered [⟨"alumno", none⟩, ⟨"root", some "1234"⟩, ⟨"root", some "1234"⟩]
    target.Unambiguous ∧
    (∀ secret, target.verifyPassword "root" secret = true ↔ target.AnyAccepts "root" secret) ∧
    other.verifyPassword "root" "4321" = target.verifyPassword "root" "4321" ∧
    other.verifyLogin "teacher" "4321" = target.verifyLogin "teacher" "4321" := by
  intro target other
  have unambiguous : target.Unambiguous := by decide
  have swapped : other.accounts.Perm target.accounts := .swap _ _ _
  obtain ⟨-, listed, order⟩ := accounts_in_any_order_iff target
  have alike := order.mpr unambiguous other.accounts swapped
  have any := (listed "root").mpr fun _ first _ member named => unambiguous.covers first member named
  exact ⟨unambiguous, any, (alike "root" "4321").1, (alike "teacher" "4321").2⟩

/-- An account that needs no password is not asked behind one that does. -/
theorem free_account_not_asked :
    let target := Target.default.reordered [⟨"root", some "1234"⟩, ⟨"root", none⟩]
    let other := target.reordered [⟨"root", none⟩, ⟨"root", some "1234"⟩]
    target.AnyAccepts "root" "4321" ∧ target.verifyPassword "root" "4321" = false ∧
    target.verifyLogin "root" "4321" = false ∧ other.accounts.Perm target.accounts ∧
    other.verifyPassword "root" "4321" = true ∧ other.verifyLogin "root" "4321" = true := by
  have listed : (⟨"root", none⟩ : Account) ∈ [⟨"root", some "1234"⟩, ⟨"root", none⟩] := by simp
  exact ⟨.inr ⟨_, listed, rfl, .inl rfl⟩, by decide, by decide, .swap _ _ _, by decide, by decide⟩

end Target
end LessonShell
