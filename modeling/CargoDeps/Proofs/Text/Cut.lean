import CargoDeps.Text.Cut
import Mathlib.Data.List.TakeWhile

namespace CargoDeps

/-!
# Cutting and reading texts

A trimmed text is the part of a text that has nothing but blanks around it and none at its own ends.
The pieces of a text between the occurrences of a mark are free of it.  A reader that works in steps
has a result just when each step has one.
-/

/-! ### Readers in steps -/

section Outcomes

variable {ε δ α β : Type} {first : Except ε α}

theorem bind_eq_ok_iff
    {next : α → Except ε β}
    {result : β} :
    (first >>= next) = .ok result ↔ ∃ value, first = .ok value ∧ next value = .ok result := by
  cases first with
  | error error =>
      simp [bind, Except.bind]
  | ok value =>
      simp [bind, Except.bind]

theorem map_eq_ok_iff
    {next : α → β}
    {result : β} :
    first.map next = .ok result ↔ ∃ value, first = .ok value ∧ next value = result := by
  cases first with
  | error error =>
      simp [Except.map]
  | ok value =>
      simp [Except.map]

theorem mapError_eq_ok_iff
    {describe : ε → δ}
    {result : α} :
    first.mapError describe = .ok result ↔ first = .ok result := by
  cases first with
  | error error =>
      exact ⟨(fun impossible => nomatch impossible), fun impossible => nomatch impossible⟩
  | ok value =>
      exact ⟨fun same => congrArg Except.ok (Except.ok.inj same),
        fun same => congrArg Except.ok (Except.ok.inj same)⟩

end Outcomes

namespace Text

/-! ### Trimmed texts -/

/-- All characters of a text are blank. -/
def IsBlank (text : List Char) : Prop :=
  ∀ c ∈ text, isBlank c = true

/-- A text has nothing but blanks around a part of it, and the part has none at its own ends. -/
def IsCore (core text : List Char) : Prop :=
  ∃ before after,
    text = before ++ (core ++ after) ∧
      IsBlank before ∧
        IsBlank after ∧
          (∀ c ∈ core.head?, isBlank c = false) ∧
            ∀ c ∈ core.getLast?, isBlank c = false

theorem trimStart_eq_iff
    {text core : List Char} :
    trimStart text = core ↔
      ∃ before,
        text = before ++ core ∧ IsBlank before ∧ ∀ c ∈ core.head?, isBlank c = false := by
  constructor
  · rintro rfl
    refine ⟨text.takeWhile isBlank, List.takeWhile_append_dropWhile.symm, ?_, ?_⟩
    · exact fun c member => List.mem_takeWhile_imp member
    · intro c isHead
      rw [trimStart, ← List.find?_not_eq_head?_dropWhile] at isHead
      simpa using List.find?_some isHead
  · intro found
    obtain ⟨before, rfl, blank, solid⟩ := found
    rw [trimStart, List.dropWhile_append_of_pos blank]
    cases core with
    | nil =>
        rfl
    | cons c rest =>
        exact List.dropWhile_cons_of_neg (by simp [solid c rfl])

theorem trimEnd_eq_iff
    {text core : List Char} :
    trimEnd text = core ↔
      ∃ after,
        text = core ++ after ∧ IsBlank after ∧ ∀ c ∈ core.getLast?, isBlank c = false := by
  have turned : trimEnd text = core ↔ trimStart text.reverse = core.reverse := by
    exact List.reverse_eq_iff
  rw [turned, trimStart_eq_iff]
  constructor
  · intro found
    obtain ⟨before, shape, blank, solid⟩ := found
    refine ⟨before.reverse, ?_, ?_, ?_⟩
    · simpa using congrArg List.reverse shape
    · exact fun c member => blank c (List.mem_reverse.mp member)
    · simpa using solid
  · intro found
    obtain ⟨after, rfl, blank, solid⟩ := found
    refine ⟨after.reverse, List.reverse_append, ?_, ?_⟩
    · exact fun c member => blank c (List.mem_reverse.mp member)
    · simpa using solid

theorem trim_eq_iff
    {text core : List Char} :
    trim text = core ↔ IsCore core text := by
  rw [trim, trimEnd_eq_iff]
  simp only [trimStart_eq_iff]
  constructor
  · intro found
    obtain ⟨after, ⟨before, shape, blankBefore, solidHead⟩, blankAfter, solidLast⟩ := found
    refine ⟨before, after, shape, blankBefore, blankAfter, ?_, solidLast⟩
    cases core with
    | nil =>
        simp
    | cons c rest =>
        exact solidHead
  · intro found
    obtain ⟨before, after, shape, blankBefore, blankAfter, solidHead, solidLast⟩ := found
    cases core with
    | nil =>
        have blank : IsBlank (before ++ after) :=
          List.forall_mem_append.mpr ⟨blankBefore, blankAfter⟩
        exact ⟨[], ⟨before ++ after, by simpa using shape, blank, solidHead⟩,
          List.forall_mem_nil _, solidLast⟩
    | cons c rest =>
        exact ⟨after, ⟨before, shape, blankBefore, solidHead⟩, blankAfter, solidLast⟩

theorem trim_of_solid
    (solidHead : ∀ c ∈ text.head?, isBlank c = false)
    (solidLast : ∀ c ∈ text.getLast?, isBlank c = false) :
    trim text = text :=
  trim_eq_iff.mpr
    ⟨[], [], by simp, List.forall_mem_nil _, List.forall_mem_nil _, solidHead, solidLast⟩

theorem trim_trim
    (text : List Char) :
    trim (trim text) = trim text := by
  obtain ⟨_, _, _, _, _, solidHead, solidLast⟩ := trim_eq_iff.mp (rfl : trim text = trim text)
  exact trim_of_solid solidHead solidLast

theorem trim_subset
    (text : List Char) :
    trim text ⊆ text := by
  obtain ⟨before, after, shape, _⟩ := trim_eq_iff.mp (rfl : trim text = trim text)
  intro c member
  rw [shape]
  exact List.mem_append_right before (List.mem_append_left after member)

/-! ### Pieces of a text -/

theorem not_mem_of_mem_splitOn
    {mark : Char}
    {text piece : List Char}
    (member : piece ∈ text.splitOn mark) :
    mark ∉ piece := by
  induction text generalizing piece with
  | nil =>
      obtain rfl : piece = [] := by simpa using member
      exact List.not_mem_nil
  | cons c rest inductionHypothesis =>
      rw [List.splitOn_cons_eq_if_modifyHead] at member
      by_cases isMark : c = mark
      · simp only [isMark, beq_self_eq_true, if_true, List.mem_cons] at member
        rcases member with rfl | later
        · exact List.not_mem_nil
        · exact inductionHypothesis later
      · obtain ⟨first, others, shape⟩ :=
          List.exists_cons_of_ne_nil (List.splitOn_ne_nil mark rest)
        rw [shape] at inductionHypothesis
        simp only [beq_iff_eq, isMark, if_false, shape, List.modifyHead_cons, List.mem_cons]
          at member
        rcases member with rfl | later
        · simpa [Ne.symm isMark] using inductionHypothesis List.mem_cons_self
        · exact inductionHypothesis (List.mem_cons_of_mem first later)

/-! ### Visible ASCII characters -/

theorem toNat_of_isAlphanum
    {c : Char}
    (isAlphanum : c.isAlphanum = true) :
    0x30 ≤ c.toNat ∧ c.toNat ≤ 0x7A := by
  rcases Bool.or_eq_true_iff.mp isAlphanum with isAlpha | isDigit
  · rcases Bool.or_eq_true_iff.mp isAlpha with isUpper | isLower
    · have bounds : 0x41 ≤ c.toNat ∧ c.toNat ≤ 0x5A := of_decide_eq_true isUpper
      omega
    · obtain ⟨lower, upper⟩ := Bool.and_eq_true_iff.mp isLower
      have lowerBound : 0x61 ≤ c.toNat := of_decide_eq_true lower
      have upperBound : c.toNat ≤ 0x7A := of_decide_eq_true upper
      omega
  · obtain ⟨lower, upper⟩ := Bool.and_eq_true_iff.mp isDigit
    have lowerBound : 0x30 ≤ c.toNat := of_decide_eq_true lower
    have upperBound : c.toNat ≤ 0x39 := of_decide_eq_true upper
    omega

theorem isBlank_of_visible
    {c : Char}
    (visible : 0x21 ≤ c.toNat ∧ c.toNat ≤ 0x7E) :
    isBlank c = false := by
  apply Bool.eq_false_iff.mpr
  intro blank
  simp only [isBlank, Bool.or_eq_true, Bool.and_eq_true, decide_eq_true_eq, beq_iff_eq] at blank
  omega

end Text

end CargoDeps
