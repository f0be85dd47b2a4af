namespace CargoDeps.Sequence

/-!
# Distinct and sorted items

Lists without repetitions that keep the order of first occurrences: `mem_fresh` and
`nodup_distinct` say which items are kept, and that each is kept once.  Lists in the order of a
strict test: items of which neither is before the other keep their order.
-/

variable {α : Type}

/-! ### Distinct items -/

section Distinct

variable [DecidableEq α]

/-- The items of a list that are not among `seen`, each at its first occurrence. -/
def fresh (seen : List α) : List α → List α
  | [] => []
  | item :: rest =>
      if item ∈ seen then
        fresh seen rest
      else
        item :: fresh (item :: seen) rest

/-- The distinct items of a list, in order of first occurrence. -/
def distinct (items : List α) : List α :=
  fresh [] items

@[simp] theorem mem_fresh {seen items : List α} {x : α} :
    x ∈ fresh seen items ↔ x ∈ items ∧ x ∉ seen := by
  induction items generalizing seen with
  | nil => simp [fresh]
  | cons item rest inductionHypothesis =>
      by_cases known : item ∈ seen
      · simp only [fresh, known, if_true, inductionHypothesis, List.mem_cons]
        constructor
        · rintro ⟨member, absent⟩
          exact ⟨Or.inr member, absent⟩
        · rintro ⟨rfl | member, absent⟩
          · exact absurd known absent
          · exact ⟨member, absent⟩
      · simp only [fresh, known, if_false, inductionHypothesis, List.mem_cons, not_or]
        constructor
        · rintro (rfl | ⟨member, _, absent⟩)
          · exact ⟨Or.inl rfl, known⟩
          · exact ⟨Or.inr member, absent⟩
        · rintro ⟨rfl | member, absent⟩
          · exact Or.inl rfl
          · by_cases same : x = item
            · exact Or.inl same
            · exact Or.inr ⟨member, same, absent⟩

theorem nodup_fresh (seen items : List α) : (fresh seen items).Nodup := by
  induction items generalizing seen with
  | nil => simp [fresh]
  | cons item rest inductionHypothesis =>
      simp only [fresh]
      split
      · exact inductionHypothesis seen
      · exact List.nodup_cons.mpr ⟨by simp, inductionHypothesis _⟩

@[simp] theorem mem_distinct {items : List α} {x : α} : x ∈ distinct items ↔ x ∈ items := by
  simp [distinct]

theorem nodup_distinct (items : List α) : (distinct items).Nodup :=
  nodup_fresh [] items

end Distinct

/-! ### Sorted items -/

/-- Put an item in front of the first item that is not before it. -/
def insertSorted (before : α → α → Bool) (item : α) : List α → List α
  | [] => [item]
  | first :: rest =>
      if before first item then
        first :: insertSorted before item rest
      else
        item :: first :: rest

/-- The items in the order of `before`. -/
def sorted (before : α → α → Bool) (items : List α) : List α :=
  items.foldr (insertSorted before) []

end CargoDeps.Sequence
