import CargoDeps.Version.Basic
import Mathlib.Data.Prod.Lex

namespace CargoDeps.Version

/-!
# Precedence by numbers

Versions of other numbers compare as their numbers do, the major number first.  Pre-release
identifiers decide only between versions of the same numbers, and build identifiers never.
-/

/-- The three numbers of a version, of which the first that differs decides. -/
def numbers (version : Version) : ℕ ×ₗ ℕ ×ₗ ℕ :=
  toLex (version.major, toLex (version.minor, version.patch))

variable {first second : Version}

theorem numbers_lt_iff :
    first.numbers < second.numbers ↔
      first.major < second.major ∨
        first.major = second.major ∧
          (first.minor < second.minor ∨
            first.minor = second.minor ∧ first.patch < second.patch) := by
  simp [numbers, Prod.Lex.toLex_lt_toLex]

theorem numbers_eq_iff :
    first.numbers = second.numbers ↔
      first.major = second.major ∧ first.minor = second.minor ∧ first.patch = second.patch := by
  simp [numbers]

theorem numbers_eq_iff_core_eq :
    first.numbers = second.numbers ↔ first.core = second.core := by
  simp [numbers_eq_iff, core, release]

theorem precedes_iff :
    first.precedes second = true ↔
      first.numbers < second.numbers ∨
        first.numbers = second.numbers ∧
          orderPrerelease first.prerelease second.prerelease = .lt := by
  simp only [precedes, order, decide_eq_true_eq, Ordering.then_eq_lt, Nat.compare_eq_lt,
    Nat.compare_eq_eq, numbers_lt_iff, numbers_eq_iff]
  tauto

theorem atMost_iff :
    first.atMost second = true ↔
      first.numbers < second.numbers ∨
        first.numbers = second.numbers ∧
          orderPrerelease first.prerelease second.prerelease ≠ .gt := by
  simp only [atMost, order, decide_eq_true_eq, ne_eq, Ordering.then_eq_gt, Nat.compare_eq_gt,
    Nat.compare_eq_eq, numbers_lt_iff, numbers_eq_iff]
  by_cases later : orderPrerelease first.prerelease second.prerelease = .gt
  · simp only [later, and_true, not_true_eq_false, and_false, or_false]
    omega
  · simp only [later, and_false, or_false, not_false_eq_true, and_true]
    omega

/-! ### Releases and pre-releases of the same numbers -/

theorem Identifier.order_self
    (identifier : Identifier) :
    identifier.order identifier = .eq := by
  cases identifier with
  | numeric n =>
      exact Nat.compare_eq_eq.mpr rfl
  | alphanumeric text =>
      change compare text text = .eq
      exact Std.ReflCmp.compare_self

theorem orderIdentifiers_self
    (identifiers : List Identifier) :
    orderIdentifiers identifiers identifiers = .eq := by
  induction identifiers with
  | nil =>
      rfl
  | cons identifier rest inductionHypothesis =>
      rw [orderIdentifiers, Identifier.order_self, inductionHypothesis]
      rfl

theorem orderPrerelease_self
    (identifiers : List Identifier) :
    orderPrerelease identifiers identifiers = .eq := by
  cases identifiers with
  | nil =>
      rfl
  | cons identifier rest =>
      exact orderIdentifiers_self (identifier :: rest)

theorem atMost_self
    (version : Version) :
    version.atMost version = true := by
  rw [atMost_iff, orderPrerelease_self]
  exact Or.inr ⟨rfl, by decide⟩

/-- Before a release come just its own pre-releases and all versions of lower numbers. -/
theorem precedes_release_iff
    (isRelease : second.prerelease = []) :
    first.precedes second = true ↔
      first.numbers < second.numbers ∨
        first.numbers = second.numbers ∧ first.isPrerelease = true := by
  rw [precedes_iff, isRelease]
  have onlyPrereleases :
      orderPrerelease first.prerelease [] = .lt ↔ first.isPrerelease = true := by
    cases shape : first.prerelease <;>
      simp [orderPrerelease, isPrerelease, shape]
  rw [onlyPrereleases]

/-- Between releases the numbers decide. -/
theorem atMost_release_iff
    (isRelease : second.prerelease = []) :
    first.atMost second = true ↔ first.numbers ≤ second.numbers := by
  have notLater : orderPrerelease first.prerelease [] ≠ .gt := by
    cases first.prerelease <;> simp [orderPrerelease]
  rw [atMost_iff, isRelease, le_iff_lt_or_eq]
  simp only [notLater, ne_eq, not_false_eq_true, and_true]

theorem numbers_le_of_atMost
    (atMost : first.atMost second = true) :
    first.numbers ≤ second.numbers := by
  rcases atMost_iff.mp atMost with lower | ⟨same, -⟩
  · exact le_of_lt lower
  · exact le_of_eq same

end CargoDeps.Version
