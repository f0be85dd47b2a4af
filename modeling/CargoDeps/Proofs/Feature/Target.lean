import CargoDeps.Feature.Id
import Mathlib.Data.List.Infix

namespace CargoDeps

/-!
# What targets say

The target that a text writes is told by how the text is put together: from the mark of an optional
dependency and a name, from two parts with a slash between them, or from neither.
-/

namespace Text

/-- A text is cut at the first mark. -/
theorem cutFirst?_append
    {mark : Char}
    {before after : List Char}
    (free : mark ∉ before) :
    cutFirst? mark (before ++ mark :: after) = some (before, after) := by
  induction before with
  | nil =>
      simp [cutFirst?]
  | cons first rest inductionHypothesis =>
      have notFirst : first ≠ mark := List.ne_of_not_mem_cons free |>.symm
      have freeRest : mark ∉ rest := List.not_mem_of_not_mem_cons free
      simp [cutFirst?, notFirst, inductionHypothesis freeRest]

theorem cutFirst?_of_not_mem
    {mark : Char}
    {text : List Char}
    (free : mark ∉ text) :
    cutFirst? mark text = none := by
  cases cut : cutFirst? mark text with
  | none =>
      rfl
  | some parts =>
      obtain ⟨rfl, -⟩ := eq_of_cutFirst? cut
      simp at free

end Text

namespace FeatureId

/-- A name has the form of an optional dependency if the mark is its beginning. -/
theorem isDependencyName_iff
    {text : String} :
    isDependencyName text = true ↔ ∃ name, text = dependencyMark ++ name := by
  rw [isDependencyName, List.isPrefixOf_iff_prefix]
  constructor
  · rintro ⟨rest, shape⟩
    refine ⟨String.ofList rest, ?_⟩
    apply String.toList_inj.mp
    simpa using shape.symm
  · rintro ⟨name, rfl⟩
    exact ⟨name.toList, by simp⟩

theorem isDependencyName_eq_false_iff
    {text : String} :
    isDependencyName text = false ↔ ¬∃ name, text = dependencyMark ++ name := by
  rw [← isDependencyName_iff, Bool.not_eq_true]

theorem isDependencyName_mark
    (name : String) :
    isDependencyName (dependencyMark ++ name) = true :=
  isDependencyName_iff.mpr ⟨name, rfl⟩

end FeatureId

namespace FeatureTarget

variable {text name feature : String}

theorem ofText_dependency
    (name : String) :
    ofText (FeatureId.dependencyMark ++ name) = dependency name := by
  unfold ofText
  rw [if_pos (FeatureId.isDependencyName_mark name)]
  simp [← String.length_toList]

theorem eq_of_ofText_dependency
    (writes : ofText text = dependency name) :
    text = FeatureId.dependencyMark ++ name := by
  by_cases marked : ∃ other, text = FeatureId.dependencyMark ++ other
  · obtain ⟨other, rfl⟩ := marked
    rw [ofText_dependency, dependency.injEq] at writes
    rw [writes]
  · have plain : ¬FeatureId.isDependencyName text = true :=
      fun named => marked (FeatureId.isDependencyName_iff.mp named)
    rw [ofText, if_neg plain] at writes
    split at writes
    · cases writes
    · split at writes
      · cases writes
      · cases writes

theorem ofText_own
    (plain : FeatureId.isDependencyName text = false)
    (whole : '/' ∉ text.toList) :
    ofText text = own text := by
  simp [ofText, plain, Text.cutFirst?_of_not_mem whole]

/-- A part ends with a question mark if that is its last character. -/
theorem getLast?_eq_some_iff :
    name.toList.getLast? = some '?' ↔ ∃ stem, name = stem ++ "?" := by
  rw [List.getLast?_eq_some_iff]
  constructor
  · rintro ⟨front, shape⟩
    refine ⟨String.ofList front, ?_⟩
    apply String.toList_inj.mp
    simpa using shape
  · rintro ⟨stem, rfl⟩
    exact ⟨stem.toList, by simp⟩

theorem cutFirst?_parts
    (first : '/' ∉ name.toList) :
    Text.cutFirst? '/' (name ++ "/" ++ feature).toList = some (name.toList, feature.toList) := by
  simpa using Text.cutFirst?_append first

/-- Two parts are a feature of a dependency, and a weak one if the first part says so. -/
theorem ofText_parts
    (plain : FeatureId.isDependencyName (name ++ "/" ++ feature) = false)
    (first : '/' ∉ name.toList) :
    ofText (name ++ "/" ++ feature) =
      if name.toList.getLast? = some '?' then weak else foreign name feature := by
  simp only [ofText, plain, cutFirst?_parts first, Bool.false_eq_true, if_false,
    String.ofList_toList]

theorem ofText_foreign
    (plain : FeatureId.isDependencyName (name ++ "/" ++ feature) = false)
    (first : '/' ∉ name.toList)
    (firm : ¬∃ stem, name = stem ++ "?") :
    ofText (name ++ "/" ++ feature) = foreign name feature := by
  rw [ofText_parts plain first, if_neg fun weakens => firm (getLast?_eq_some_iff.mp weakens)]

/-- A text with a slash has two parts, and the first slash is between them. -/
theorem exists_parts
    (slash : '/' ∈ text.toList) :
    ∃ name feature, text = name ++ "/" ++ feature ∧ '/' ∉ name.toList := by
  obtain ⟨before, after, shape, free⟩ := List.eq_append_cons_of_mem slash
  refine ⟨String.ofList before, String.ofList after, ?_, by simpa using free⟩
  apply String.toList_inj.mp
  simpa using shape

/-- A text is a feature of the package itself if it has neither a mark nor a slash. -/
theorem ofText_eq_own_iff :
    ofText text = own name ↔
      name = text ∧ FeatureId.isDependencyName text = false ∧ '/' ∉ text.toList := by
  constructor
  · intro writes
    cases marked : FeatureId.isDependencyName text with
    | true =>
        obtain ⟨other, rfl⟩ := FeatureId.isDependencyName_iff.mp marked
        rw [ofText_dependency] at writes
        cases writes
    | false =>
        by_cases slash : '/' ∈ text.toList
        · obtain ⟨front, part, rfl, first⟩ := exists_parts slash
          rw [ofText_parts marked first] at writes
          split at writes
          · cases writes
          · cases writes
        · rw [ofText_own marked slash, own.injEq] at writes
          exact ⟨writes.symm, rfl, slash⟩
  · intro plain
    obtain ⟨rfl, unmarked, whole⟩ := plain
    exact ofText_own unmarked whole

/-- A text is a feature of a dependency if it has two parts and no mark, and is not weak. -/
theorem ofText_eq_foreign_iff :
    ofText text = foreign name feature ↔
      text = name ++ "/" ++ feature ∧
        FeatureId.isDependencyName text = false ∧
          '/' ∉ name.toList ∧
            ¬∃ stem, name = stem ++ "?" := by
  constructor
  · intro writes
    cases marked : FeatureId.isDependencyName text with
    | true =>
        obtain ⟨other, rfl⟩ := FeatureId.isDependencyName_iff.mp marked
        rw [ofText_dependency] at writes
        cases writes
    | false =>
        by_cases slash : '/' ∈ text.toList
        · obtain ⟨front, part, rfl, first⟩ := exists_parts slash
          rw [ofText_parts marked first] at writes
          split at writes
          · cases writes
          · next firm =>
              obtain ⟨rfl, rfl⟩ := foreign.inj writes
              exact ⟨rfl, rfl, first, mt getLast?_eq_some_iff.mpr firm⟩
        · rw [ofText_own marked slash] at writes
          cases writes
  · intro parts
    obtain ⟨rfl, unmarked, first, firm⟩ := parts
    exact ofText_foreign unmarked first firm

end FeatureTarget

end CargoDeps
