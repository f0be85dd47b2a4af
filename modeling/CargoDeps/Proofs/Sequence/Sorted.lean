import CargoDeps.Sequence.Basic
import Mathlib.Data.List.Sort
import Mathlib.Order.Defs.LinearOrder

namespace CargoDeps.Sequence

/-!
# Order of sorted lists

Sorting by a test is the library's insertion sort (`sorted_eq_insertionSort`), so it puts no item
behind one that it is before.  The test has to be an order on the items of the list only: cycles, say,
have an order because none of them is empty.  Where the test is that of a linear order, distinct items
come out strictly ascending, and the sorted list is told by what it holds.
-/

variable {α : Type}

/-- A test puts the items of a list in order: it does not hold both ways, and not being before is
passed on. -/
structure Orders
    (before : α → α → Bool)
    (items : List α) : Prop where
  asymm :
    ∀ first ∈ items, ∀ second ∈ items,
      before first second = true →
      before second first = false
  compose :
    ∀ first ∈ items, ∀ second ∈ items, ∀ third ∈ items,
      before second first = false →
      before third second = false →
      before third first = false

/-- No item of a list is before an earlier one. -/
abbrev Ordered
    (before : α → α → Bool)
    (items : List α) : Prop :=
  items.Pairwise fun first second => before second first = false

variable {before : α → α → Bool}

/-! ### The library's insertion sort -/

theorem insertSorted_eq_orderedInsert
    (before : α → α → Bool)
    (item : α)
    (items : List α) :
    insertSorted before item items =
      items.orderedInsert (fun first second => before second first = false) item := by
  induction items with
  | nil =>
      rfl
  | cons front rest inductionHypothesis =>
      by_cases frontFirst : before front item = true
      · simp [insertSorted, frontFirst, inductionHypothesis]
      · simp [insertSorted, Bool.eq_false_iff.mpr frontFirst]

/-- Sorting by a test is sorting by the order in which no item is before an earlier one. -/
theorem sorted_eq_insertionSort
    (before : α → α → Bool)
    (items : List α) :
    sorted before items =
      items.insertionSort fun first second => before second first = false := by
  have sameStep :
      insertSorted before =
        List.orderedInsert fun first second => before second first = false :=
    funext fun item => funext fun rest => insertSorted_eq_orderedInsert before item rest
  rw [sorted, sameStep, List.insertionSort]

@[simp] theorem mem_sorted
    {items : List α}
    {item : α} :
    item ∈ sorted before items ↔ item ∈ items := by
  rw [sorted_eq_insertionSort, List.mem_insertionSort]

/-! ### Tests that order the items of a list -/

theorem Orders.total
    {items : List α}
    (orders : Orders before items) :
    Std.Total fun first second : {item // item ∈ items} => before second.1 first.1 = false := by
  constructor
  intro first second
  by_cases secondBefore : before second.1 first.1 = true
  · exact Or.inr (orders.asymm second.1 second.2 first.1 first.2 secondBefore)
  · exact Or.inl (Bool.eq_false_iff.mpr secondBefore)

theorem Orders.isTrans
    {items : List α}
    (orders : Orders before items) :
    IsTrans {item // item ∈ items} fun first second => before second.1 first.1 = false := by
  constructor
  intro first second third
  exact orders.compose first.1 first.2 second.1 second.2 third.1 third.2

/-- No item of a sorted list is before an earlier one. -/
theorem ordered_sorted
    {items : List α}
    (orders : Orders before items) :
    Ordered before (sorted before items) := by
  -- The test is an order on the items only, so they are sorted as members of their list.
  have sameOrder :
      (items.attach.insertionSort fun first second => before second.1 first.1 = false).map
        Subtype.val = sorted before items := by
    rw [sorted_eq_insertionSort,
      List.map_insertionSort _ (fun first second => before second first = false)
        Subtype.val items.attach fun _ _ _ _ => Iff.rfl,
      List.attach_map_subtype_val]
  have total := orders.total
  have transitive := orders.isTrans
  rw [← sameOrder, Ordered, List.pairwise_map]
  exact List.pairwise_insertionSort _ items.attach

/-! ### Sorting by a linear order -/

section LinearOrder

variable [LinearOrder α]

/-- A linear order puts the items of every list in order. -/
theorem orders_of_lt_iff
    (lt_iff : ∀ first second, before first second = true ↔ first < second)
    (items : List α) :
    Orders before items := by
  have le_iff : ∀ first second, before second first = false ↔ first ≤ second := by
    intro first second
    rw [← not_lt, ← lt_iff, Bool.not_eq_true]
  constructor
  · intro first _ second _ firstBefore
    exact (le_iff first second).mpr ((lt_iff first second).mp firstBefore).le
  · intro first _ second _ third _ notBefore stillNotBefore
    rw [le_iff] at notBefore stillNotBefore ⊢
    exact notBefore.trans stillNotBefore

/-- Distinct items are in strictly ascending order when they are sorted. -/
theorem pairwise_lt_sorted
    (lt_iff : ∀ first second, before first second = true ↔ first < second)
    {items : List α}
    (nodup : items.Nodup) :
    (sorted before items).Pairwise (· < ·) := by
  have distinct : (sorted before items).Nodup := by
    rw [sorted_eq_insertionSort]
    exact (List.perm_insertionSort _ items).nodup_iff.mpr nodup
  refine ((ordered_sorted (orders_of_lt_iff lt_iff items)).and distinct).imp ?_
  intro first second both
  obtain ⟨notBefore, different⟩ := both
  rw [← Bool.not_eq_true, lt_iff, not_lt] at notBefore
  exact lt_of_le_of_ne notBefore different

/-- Sorted lists of distinct items are the same if they hold the same. -/
theorem sorted_eq_of_mem_iff
    (lt_iff : ∀ first second, before first second = true ↔ first < second)
    {items others : List α}
    (nodup : items.Nodup)
    (othersNodup : others.Nodup)
    (same : ∀ item, item ∈ items ↔ item ∈ others) :
    sorted before items = sorted before others := by
  apply (pairwise_lt_sorted lt_iff nodup).eq_of_mem_iff (pairwise_lt_sorted lt_iff othersNodup)
  intro item
  rw [mem_sorted, mem_sorted, same]

end LinearOrder

end CargoDeps.Sequence
