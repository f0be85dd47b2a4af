import CargoDeps.Feature.Id
import CargoDeps.Package.Id
import CargoDeps.Proofs.Sequence.Sorted
import CargoDeps.Sequence.Basic
import Mathlib.Data.List.Lex
import Mathlib.Data.List.Nodup
import Mathlib.Data.Prod.Lex
import Mathlib.Data.String.Basic
import Mathlib.Order.Bounds.Defs
import Mathlib.Order.Defs.LinearOrder
import Mathlib.Order.WithBot

namespace CargoDeps

/-!
# The orders of ids

Package ids are in a linear order, that of their texts, and sorted ids begin with the least of them.
Hence a component has one least member, and components can be put in order by it.  Nodes of a feature
graph are in a linear order too: by their packages, and in one package the base is below all
features, which are in order by their names.  Lists of nodes are in the lexicographic order that
comes with it.
-/

/-! ### Packages -/

namespace PackageId

instance : LE PackageId := ⟨fun first second => first.text ≤ second.text⟩

instance (first second : PackageId) : Decidable (first ≤ second) :=
  inferInstanceAs (Decidable (first.text ≤ second.text))

/-- Of two ids one is not before the other, and only equal ids are neither before nor behind. -/
instance : LinearOrder PackageId where
  le_refl id := String.le_refl id.text
  le_trans _ _ _ := String.le_trans
  le_antisymm _ _ below above := PackageId.ext (String.le_antisymm below above)
  le_total first second := String.le_total first.text second.text
  lt_iff_le_not_ge first second := by
    constructor
    · intro before
      exact ⟨String.not_lt.mp (String.lt_asymm before), String.not_le.mpr before⟩
    · rintro ⟨-, notAbove⟩
      exact String.not_le.mp notAbove
  toDecidableLE := inferInstance
  toDecidableLT := inferInstance
  toDecidableEq := inferInstance

/-- Ids are in order by their texts. -/
theorem orders
    (ids : List PackageId) :
    Sequence.Orders (fun first second : PackageId => first < second) ids :=
  Sequence.orders_of_lt_iff (fun _ _ => decide_eq_true_iff) ids

/-- Sorted ids begin with the least of them. -/
theorem isLeast_of_head?_sorted
    {ids : List PackageId}
    {least : PackageId}
    (isHead : (Sequence.sorted (fun first second => first < second) ids).head? = some least) :
    IsLeast {id | id ∈ ids} least := by
  obtain ⟨rest, shape⟩ := List.head?_eq_some_iff.mp isHead
  have ordered :
      Sequence.Ordered (fun first second : PackageId => first < second) (least :: rest) :=
    shape ▸ Sequence.ordered_sorted (orders ids)
  have mem_iff : ∀ id, id ∈ least :: rest ↔ id ∈ ids := by
    intro id
    rw [← shape, Sequence.mem_sorted]
  refine ⟨(mem_iff least).mp (by simp), ?_⟩
  intro id member
  rcases List.mem_cons.mp ((mem_iff id).mpr member) with rfl | inRest
  · exact le_refl id
  · exact not_lt.mp (of_decide_eq_false ((List.pairwise_cons.mp ordered).1 id inRest))

/-- Sorted lists of distinct ids are told by what they hold. -/
theorem sorted_distinct_eq
    {first second : List PackageId}
    (same : ∀ id, id ∈ first ↔ id ∈ second) :
    Sequence.sorted (fun a b => a < b) (Sequence.distinct first) =
      Sequence.sorted (fun a b => a < b) (Sequence.distinct second) := by
  apply Sequence.sorted_eq_of_mem_iff (fun _ _ => decide_eq_true_iff)
    (Sequence.nodup_distinct first) (Sequence.nodup_distinct second)
  intro id
  rw [Sequence.mem_distinct, Sequence.mem_distinct, same]

end PackageId

/-! ### Features -/

namespace FeatureId

/-- What a node is ordered by. -/
def rank (id : FeatureId) : PackageId ×ₗ WithBot String :=
  toLex (id.package, id.feature.elim ⊥ fun feature => (feature : WithBot String))

theorem rank_injective : Function.Injective rank := by
  intro first second same
  obtain ⟨package, feature⟩ := first
  obtain ⟨other, otherFeature⟩ := second
  obtain ⟨rfl, sameFeature⟩ := Prod.mk.inj (toLex.injective same)
  cases feature <;> cases otherFeature <;> simp_all

instance : LinearOrder FeatureId :=
  LinearOrder.lift' rank rank_injective

/-- The test of the order of nodes. -/
theorem before_iff_lt
    (first second : FeatureId) :
    first.before second = true ↔ first < second := by
  change first.before second = true ↔ rank first < rank second
  rw [rank, rank, Prod.Lex.toLex_lt_toLex, before]
  by_cases same : first.package = second.package
  · cases first.feature <;> cases second.feature <;> simp [same]
  · simp [same]

/-- Of two bases, that of the lower package is lower. -/
theorem base_lt_base_iff
    {first second : PackageId} :
    base first < base second ↔ first < second := by
  rw [← before_iff_lt, before]
  by_cases same : first = second
  · simp [base, same]
  · simp only [base, same, if_false]
    exact decide_eq_true_iff

/-- The test of the order of lists of nodes. -/
theorem listBefore_iff_lt
    (first second : List FeatureId) :
    listBefore first second = true ↔ first < second := by
  induction first generalizing second with
  | nil =>
      cases second <;> simp [listBefore]
  | cons node rest inductionHypothesis =>
      cases second with
      | nil =>
          simp [listBefore]
      | cons other others =>
          rw [List.cons_lt_cons_iff, ← inductionHypothesis]
          by_cases same : node = other
          · simp [listBefore, same]
          · simp [listBefore, same, before_iff_lt]

end FeatureId

end CargoDeps
