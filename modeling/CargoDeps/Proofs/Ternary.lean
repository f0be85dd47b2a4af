import CargoDeps.Ternary

namespace CargoDeps.Ternary

/-!
# What answers tell

A known answer tells whether something is the case, and one answer refines another if they differ
only where the other is unknown.  Both carry over from the parts of a condition to the whole.
-/

/-- An answer tells whether a fact is the case. -/
structure Tells
    (answer : Ternary)
    (fact : Prop) : Prop where
  eq_yes_iff : answer = yes ↔ fact
  eq_no_iff : answer = no ↔ ¬fact

/-- An answer is the same as another one, unless the other is unknown. -/
def Refines (answer other : Ternary) : Prop :=
  other ≠ unknown → answer = other

theorem negation_eq_yes_iff
    {answer : Ternary} :
    answer.negation = yes ↔ answer = no := by
  cases answer <;> simp [negation]

theorem negation_eq_no_iff
    {answer : Ternary} :
    answer.negation = no ↔ answer = yes := by
  cases answer <;> simp [negation]

theorem negation_eq_unknown_iff
    {answer : Ternary} :
    answer.negation = unknown ↔ answer = unknown := by
  cases answer <;> simp [negation]

/-- An answer counts as yes if it is yes, or if it is unknown and the fallback is. -/
theorem toBool_eq_true_iff
    {fallback : Bool}
    {answer : Ternary} :
    answer.toBool fallback = true ↔ answer = yes ∨ answer = unknown ∧ fallback = true := by
  cases answer <;> simp [toBool, toBool?]

/-- What counts as yes still does where unknown answers count as yes too. -/
theorem toBool_of_fallback
    {answer : Ternary}
    {fallback other : Bool}
    (relaxed : fallback = true → other = true)
    (accepted : answer.toBool fallback = true) :
    answer.toBool other = true := by
  rw [toBool_eq_true_iff] at accepted ⊢
  exact accepted.imp_right (And.imp_right relaxed)

namespace Tells

variable {answer : Ternary} {fact : Prop}

theorem ne_unknown
    (tells : Tells answer fact) :
    answer ≠ unknown := by
  rintro rfl
  have holds : fact := by
    simpa using tells.eq_no_iff
  exact absurd (tells.eq_yes_iff.mpr holds) (by simp)

theorem of_iff
    {other : Prop}
    (tells : Tells answer fact)
    (same : fact ↔ other) :
    Tells answer other :=
  propext same ▸ tells

theorem negation
    (tells : Tells answer fact) :
    Tells answer.negation (¬fact) where
  eq_yes_iff := negation_eq_yes_iff.trans tells.eq_no_iff
  eq_no_iff := by
    rw [negation_eq_no_iff, tells.eq_yes_iff, Classical.not_not]

end Tells

theorem tells_ofBool
    (fact : Prop)
    [Decidable fact] :
    Tells (ofBool fact) fact := by
  constructor <;> simp [ofBool]

theorem tells_no
    {fact : Prop}
    (fails : ¬fact) :
    Tells no fact := by
  constructor <;> simp [fails]

theorem Refines.negation
    {answer other : Ternary}
    (refines : Refines answer other) :
    Refines answer.negation other.negation := by
  intro known
  cases other with
  | yes =>
      rw [refines (by simp)]
  | no =>
      rw [refines (by simp)]
  | unknown =>
      exact absurd rfl known

/-- What counts as yes even if unknown answers do not, still does once more is known. -/
theorem Refines.toBool_of_toBool_false
    {answer other : Ternary}
    (refines : Refines answer other)
    (fallback : Bool)
    (accepted : other.toBool false = true) :
    answer.toBool fallback = true := by
  have isYes : other = yes := by
    simpa [toBool_eq_true_iff] using accepted
  have same : answer = other := refines (by simp [isYes])
  exact toBool_eq_true_iff.mpr (Or.inl (same.trans isYes))

/-- What counts as yes did so before more was known, if unknown answers did. -/
theorem Refines.toBool_true_of_toBool
    {answer other : Ternary}
    (refines : Refines answer other)
    {fallback : Bool}
    (accepted : answer.toBool fallback = true) :
    other.toBool true = true := by
  by_cases isUnknown : other = unknown
  · exact toBool_eq_true_iff.mpr (Or.inr ⟨isUnknown, rfl⟩)
  · have same : answer = other := refines isUnknown
    rcases toBool_eq_true_iff.mp accepted with isYes | ⟨unclear, -⟩
    · exact toBool_eq_true_iff.mpr (Or.inl (same.symm.trans isYes))
    · exact absurd (same.symm.trans unclear) isUnknown

/-! ### Several answers -/

/-- Some answer is yes if not all opposite answers are. -/
theorem disjunction_eq
    (answers : List Ternary) :
    disjunction answers = (conjunction (answers.map negation)).negation := by
  have accepted : no ∈ answers.map negation ↔ yes ∈ answers := by
    simp [negation_eq_no_iff]
  have unclear : unknown ∈ answers.map negation ↔ unknown ∈ answers := by
    simp [negation_eq_unknown_iff]
  simp only [conjunction, disjunction, accepted, unclear]
  split
  · rfl
  · split <;> rfl

theorem conjunction_eq_unknown_iff
    {answers : List Ternary} :
    conjunction answers = unknown ↔ no ∉ answers ∧ unknown ∈ answers := by
  by_cases refused : no ∈ answers
  · simp [conjunction, refused]
  · by_cases unclear : unknown ∈ answers <;> simp [conjunction, refused, unclear]

section

variable {ι : Type} {items : List ι} {answer other : ι → Ternary} {fact : ι → Prop}

/-- Where answers tell whether facts are the case, their conjunction tells whether all are. -/
theorem tells_conjunction
    (each : ∀ item ∈ items, Tells (answer item) (fact item)) :
    Tells (conjunction (items.map answer)) (∀ item ∈ items, fact item) := by
  have noneUnknown : unknown ∉ items.map answer := by
    intro unclear
    obtain ⟨item, member, isUnknown⟩ := List.mem_map.mp unclear
    exact (each item member).ne_unknown isUnknown
  have refused : no ∈ items.map answer ↔ ¬∀ item ∈ items, fact item := by
    simp only [List.mem_map, Classical.not_forall, exists_prop]
    exact exists_congr fun item =>
      and_congr_right fun member => (each item member).eq_no_iff
  rw [conjunction, if_neg noneUnknown]
  constructor <;> simp [refused]

/-- Where answers tell whether facts are the case, their disjunction tells whether some fact is. -/
theorem tells_disjunction
    (each : ∀ item ∈ items, Tells (answer item) (fact item)) :
    Tells (disjunction (items.map answer)) (∃ item ∈ items, fact item) := by
  have opposite :
      Tells (conjunction (items.map fun item => (answer item).negation))
        (∀ item ∈ items, ¬fact item) :=
    tells_conjunction fun item member => (each item member).negation
  have turned : (¬∀ item ∈ items, ¬fact item) = ∃ item ∈ items, fact item := by
    simp
  rw [disjunction_eq, List.map_map, ← turned]
  exact opposite.negation

/-- Where answers refine others, so does their conjunction. -/
theorem refines_conjunction
    (each : ∀ item ∈ items, Refines (answer item) (other item)) :
    Refines (conjunction (items.map answer)) (conjunction (items.map other)) := by
  by_cases refused : no ∈ items.map other
  · obtain ⟨item, member, isNo⟩ := List.mem_map.mp refused
    have alsoNo : answer item = no := by
      rw [each item member (by simp [isNo]), isNo]
    intro _
    rw [conjunction, if_pos (List.mem_map.mpr ⟨item, member, alsoNo⟩), conjunction, if_pos refused]
  · intro known
    have noneUnknown : unknown ∉ items.map other := by
      intro unclear
      exact known (by rw [conjunction, if_neg refused, if_pos unclear])
    have same : items.map answer = items.map other := by
      apply List.map_congr_left
      intro item member
      apply each item member
      intro isUnknown
      exact noneUnknown (List.mem_map.mpr ⟨item, member, isUnknown⟩)
    rw [same]

/-- Where answers refine others, so does their disjunction. -/
theorem refines_disjunction
    (each : ∀ item ∈ items, Refines (answer item) (other item)) :
    Refines (disjunction (items.map answer)) (disjunction (items.map other)) := by
  rw [disjunction_eq, disjunction_eq, List.map_map, List.map_map]
  exact (refines_conjunction fun item member => (each item member).negation).negation

end

end CargoDeps.Ternary
