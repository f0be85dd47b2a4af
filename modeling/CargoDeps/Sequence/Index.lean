import CargoDeps.Datum

namespace CargoDeps

/-!
# Indexes and positions

An index of a list by a key gives, for each key, the items that carry it in list order.  It is
filled once, one bucket per key; `get_ofList` says that looking up a key selects from the list.  A
position is a whole number that fits in 64 bits.  A negative one counts from the end of the list,
where the last item stands at `-1`.
-/

namespace Sequence

/-- Buckets of items, one for each key that occurs, in order of first occurrence. -/
structure Index (κ α : Type) where
  buckets : List (κ × List α)

namespace Index

variable {κ α : Type} [DecidableEq κ]

/-- The index without items. -/
def empty : Index κ α := ⟨[]⟩

/-- Add an item at the end of the bucket of `key`. -/
def addTo (key : κ) (item : α) : List (κ × List α) → List (κ × List α)
  | [] => [(key, [item])]
  | (other, items) :: rest =>
      if other = key then
        (other, items ++ [item]) :: rest
      else
        (other, items) :: addTo key item rest

/-- Add an item to the index. -/
def add (index : Index κ α) (key : κ) (item : α) : Index κ α :=
  ⟨addTo key item index.buckets⟩

/-- The items with a key. -/
def get (index : Index κ α) (key : κ) : List α :=
  (index.buckets.lookup key).getD []

/-- The index of a list by the key of its items. -/
def ofList (keyOf : α → κ) (items : List α) : Index κ α :=
  items.foldl (fun index item => index.add (keyOf item) item) empty

theorem get_empty (key : κ) : (empty : Index κ α).get key = [] := rfl

theorem get_add (index : Index κ α) (key other : κ) (item : α) :
    (index.add key item).get other =
      if key = other then index.get other ++ [item] else index.get other := by
  obtain ⟨buckets⟩ := index
  induction buckets with
  | nil =>
      by_cases same : key = other
      · simp [add, addTo, get, same]
      · simp [add, addTo, get, List.lookup_cons, same, beq_eq_false_iff_ne.mpr (Ne.symm same)]
  | cons bucket rest inductionHypothesis =>
      obtain ⟨first, items⟩ := bucket
      simp only [add, addTo, get] at inductionHypothesis ⊢
      by_cases here : other = first
      · subst here
        by_cases same : key = other
        · subst same
          simp
        · simp [Ne.symm same, same]
      · have skip : (other == first) = false := beq_eq_false_iff_ne.mpr here
        by_cases same : first = key
        · subst same
          simp [List.lookup_cons, skip, Ne.symm here]
        · simp [same, List.lookup_cons, skip, inductionHypothesis]

theorem get_foldl_add (keyOf : α → κ) (items : List α) (index : Index κ α) (key : κ) :
    (items.foldl (fun index item => index.add (keyOf item) item) index).get key =
      index.get key ++ items.filter (fun item => keyOf item = key) := by
  induction items generalizing index with
  | nil => simp
  | cons item rest inductionHypothesis =>
      rw [List.foldl_cons, inductionHypothesis, get_add]
      by_cases same : keyOf item = key <;> simp [same]

/-- Looking up a key selects the items that carry it. -/
theorem get_ofList (keyOf : α → κ) (items : List α) (key : κ) :
    (ofList keyOf items).get key = items.filter (fun item => keyOf item = key) := by
  simpa [ofList, get_empty] using get_foldl_add keyOf items empty key

theorem mem_get_ofList {keyOf : α → κ} {items : List α} {key : κ} {item : α} :
    item ∈ (ofList keyOf items).get key ↔ item ∈ items ∧ keyOf item = key := by
  simp [get_ofList]

end Index

end Sequence

/-! ### Positions -/

/-- Why no item stands at a position. -/
inductive PositionError
  | notWhole (typeName : String)
  | tooLarge
  | outOfRange
deriving DecidableEq, Repr

/-- The error in words. -/
def PositionError.message : PositionError → String
  | notWhole typeName => "tuple indices must be integers or slices, not " ++ typeName
  | tooLarge => "cannot fit 'int' into an index-sized integer"
  | outOfRange => "tuple index out of range"

namespace Sequence

variable {α : Type}

/-- The position that a value writes; a truth value counts as one or zero. -/
def readPosition : Datum → Except PositionError Int
  | .int n => if Datum.fitsWord n then .ok n else .error .tooLarge
  | .bool value => .ok (if value then 1 else 0)
  | other => .error (.notWhole other.typeName)

/-- The item at a position. -/
def at? (items : List α) : Int → Option α
  | .ofNat n => items[n]?
  | .negSucc n => items.reverse[n]?

/-- The item at the position that a value writes. -/
def itemAt (items : List α) (position : Datum) : Except PositionError α := do
  match at? items (← readPosition position) with
  | some item => return item
  | none => throw .outOfRange

/-- The last item stands at `-1`. -/
theorem at?_neg_one (items : List α) : at? items (-1) = items.getLast? := by
  change items.reverse[0]? = items.getLast?
  rw [List.getLast?_eq_head?_reverse, List.head?_eq_getElem?]

end Sequence

end CargoDeps
