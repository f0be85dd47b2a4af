import CargoDeps.Proofs.Cfg.Evaluation
import Mathlib.Data.List.Nodup

namespace CargoDeps.Cfg

/-!
# Conditions that ask for each target feature once

A condition that has no answer without knowledge of target features may yet be true whatever they
are, such as one that asks for a feature or else for its absence.  If no feature is asked for twice,
the parts of a condition hang on different features.  Then the features that decide one part each can
be put together, and a condition has no answer exactly if some features make it true and others make
it false.
-/

open Platform (Target)

/-- The target feature that a test asks for, if it asks for one. -/
def Test.targetFeature? : Test Key → Option String
  | .equal .targetFeature value => some value
  | _ => none

/-- Two lists of features do not differ in those that are asked for. -/
def AgreeOn (asked first second : List String) : Prop :=
  ∀ feature ∈ asked, feature ∈ first ↔ feature ∈ second

theorem AgreeOn.mono
    {asked fewer first second : List String}
    (agree : AgreeOn asked first second)
    (part : fewer ⊆ asked) :
    AgreeOn fewer first second :=
  fun feature member => agree feature (part member)

/-- The features of one list where they are asked for, and those of another list elsewhere. -/
def merged (asked first second : List String) : List String :=
  first.filter (· ∈ asked) ++ second.filter (· ∉ asked)

theorem merged_agreeOn
    (asked first second : List String) :
    AgreeOn asked (merged asked first second) first := by
  intro feature member
  simp [merged, member]

theorem merged_agreeOn_of_disjoint
    {asked others : List String}
    (disjoint : asked.Disjoint others)
    (first second : List String) :
    AgreeOn others (merged asked first second) second := by
  intro feature member
  have notAsked : feature ∉ asked :=
    fun isAsked => disjoint isAsked member
  simp [merged, notAsked]

/-- A test looks at no target feature but the one that it asks for. -/
theorem Test.holds_congr
    {target : Target}
    {first second : List String}
    {t : Test Key}
    (agree : ∀ feature ∈ t.targetFeature?, feature ∈ first ↔ feature ∈ second) :
    t.Holds target first ↔ t.Holds target second := by
  cases t with
  | flag name =>
      exact Iff.rfl
  | equal key value =>
      cases key with
      | targetFeature =>
          exact agree value rfl
      | _ =>
          exact Iff.rfl

namespace Expression

variable {target : Target} {features : List String} {expression : Expression Key}

/-- The target features that the tests of a condition ask for, from left to right. -/
def targetFeatures (expression : Expression Key) : List String :=
  expression.tests.filterMap Test.targetFeature?

theorem targetFeatures_all
    (parts : List (Expression Key)) :
    (all parts).targetFeatures = parts.flatMap targetFeatures := by
  rw [targetFeatures, tests, testsOfAll_eq_flatMap, List.filterMap_flatMap]
  rfl

theorem targetFeatures_any
    (parts : List (Expression Key)) :
    (any parts).targetFeatures = parts.flatMap targetFeatures :=
  targetFeatures_all parts

theorem targetFeatures_not
    (part : Expression Key) :
    (not part).targetFeatures = part.targetFeatures :=
  rfl

theorem targetFeatures_subset_flatMap
    {part : Expression Key}
    {parts : List (Expression Key)}
    (member : part ∈ parts) :
    part.targetFeatures ⊆ parts.flatMap targetFeatures :=
  fun _ isAsked => List.mem_flatMap.mpr ⟨part, member, isAsked⟩

theorem nodup_targetFeatures_of_mem
    {part : Expression Key}
    {parts : List (Expression Key)}
    (once : (parts.flatMap targetFeatures).Nodup)
    (member : part ∈ parts) :
    part.targetFeatures.Nodup :=
  (List.nodup_flatMap.mp once).1 part member

/-- Whether a condition is true hangs on the target features that its tests ask for. -/
theorem holds_congr
    {first second : List String}
    (agree : AgreeOn expression.targetFeatures first second) :
    expression.Holds target first ↔ expression.Holds target second := by
  induction expression with
  | test t =>
      refine Test.holds_congr fun feature asked => agree feature ?_
      exact List.mem_filterMap.mpr ⟨t, List.mem_singleton_self t, asked⟩
  | all parts inductionHypothesis =>
      rw [targetFeatures_all] at agree
      rw [Holds, Holds, allHold_iff, allHold_iff]
      exact forall₂_congr fun part member =>
        inductionHypothesis part member (agree.mono (targetFeatures_subset_flatMap member))
  | any parts inductionHypothesis =>
      rw [targetFeatures_any] at agree
      rw [Holds, Holds, someHolds_iff, someHolds_iff]
      exact exists_congr fun part => and_congr_right fun member =>
        inductionHypothesis part member (agree.mono (targetFeatures_subset_flatMap member))
  | not part inductionHypothesis =>
      exact not_congr (inductionHypothesis agree)

/-- If no target feature is asked for twice, and some features bring each part of a condition to a
verdict, then some features bring all parts to it at once. -/
theorem exists_common_features
    {verdict : Prop}
    {parts : List (Expression Key)}
    (once : (parts.flatMap targetFeatures).Nodup)
    (each : ∀ part ∈ parts, ∃ features, part.Holds target features ↔ verdict) :
    ∃ features, ∀ part ∈ parts, part.Holds target features ↔ verdict := by
  induction parts with
  | nil =>
      exact ⟨[], List.forall_mem_nil _⟩
  | cons part rest inductionHypothesis =>
      obtain ⟨⟨ofPart, decided⟩, eachOfRest⟩ := List.forall_mem_cons.mp each
      rw [List.flatMap_cons, List.nodup_append'] at once
      obtain ⟨_, onceInRest, disjoint⟩ := once
      obtain ⟨ofRest, decidedRest⟩ := inductionHypothesis onceInRest eachOfRest
      refine ⟨merged part.targetFeatures ofPart ofRest, List.forall_mem_cons.mpr ⟨?_, ?_⟩⟩
      · exact (holds_congr (merged_agreeOn _ _ _)).trans decided
      · intro other member
        have agree := merged_agreeOn_of_disjoint disjoint ofPart ofRest
        have agreeOnOther := agree.mono (targetFeatures_subset_flatMap member)
        exact (holds_congr agreeOnOther).trans (decidedRest other member)

/-! ### What answers without knowledge of features tell -/

theorem holds_of_eval_eq_yes
    (isYes : expression.eval ⟨target, none⟩ = .yes)
    (features : List String) :
    expression.Holds target features := by
  have known : expression.eval ⟨target, none⟩ ≠ .unknown := by
    simp [isYes]
  have same := expression.refines_eval (some (Platform.featureSet features)) known
  exact expression.tells_eval.eq_yes_iff.mp (same.trans isYes)

theorem not_holds_of_eval_eq_no
    (isNo : expression.eval ⟨target, none⟩ = .no)
    (features : List String) :
    ¬expression.Holds target features := by
  have known : expression.eval ⟨target, none⟩ ≠ .unknown := by
    simp [isNo]
  have same := expression.refines_eval (some (Platform.featureSet features)) known
  exact expression.tells_eval.eq_no_iff.mp (same.trans isNo)

/-- Some target features make a condition true of a target, and others make it false. -/
structure Undetermined (target : Target) (expression : Expression Key) : Prop where
  holds : ∃ features, expression.Holds target features
  fails : ∃ features, ¬expression.Holds target features

namespace Undetermined

theorem not
    (undetermined : Undetermined target expression) :
    Undetermined target expression.not where
  holds := undetermined.fails
  fails := undetermined.holds.imp fun _ => not_not_intro

/-- A condition that is sometimes true and sometimes false has no answer. -/
theorem eval_eq_unknown
    (undetermined : Undetermined target expression) :
    expression.eval ⟨target, none⟩ = .unknown := by
  obtain ⟨⟨enabling, holds⟩, disabling, fails⟩ := undetermined
  cases answer : expression.eval ⟨target, none⟩ with
  | yes =>
      exact absurd (holds_of_eval_eq_yes answer disabling) fails
  | no =>
      exact absurd holds (not_holds_of_eval_eq_no answer enabling)
  | unknown =>
      rfl

theorem of_test
    {t : Test Key}
    (unclear : t.eval ⟨target, none⟩ = .unknown) :
    Undetermined target (.test t) := by
  cases t with
  | flag name =>
      have told : Ternary.Tells (Platform.flag ⟨target, some []⟩ name) _ := tells_flag name
      exact absurd unclear told.ne_unknown
  | equal key value =>
      cases key with
      | targetFeature =>
          exact ⟨⟨[value], List.mem_singleton_self value⟩, ⟨[], List.not_mem_nil⟩⟩
      | packageFeature =>
          exact absurd unclear (by simp [Test.eval, Platform.test])
      | _ =>
          exact absurd unclear (Ternary.tells_ofBool _).ne_unknown

/-- A part that is not known to fail can be made true, provided that this is so where there is no
answer. -/
theorem exists_holds
    {part : Expression Key}
    (notRefused : part.eval ⟨target, none⟩ ≠ .no)
    (ofUnknown : part.eval ⟨target, none⟩ = .unknown → Undetermined target part) :
    ∃ features, part.Holds target features := by
  cases answer : part.eval ⟨target, none⟩ with
  | yes =>
      exact ⟨[], holds_of_eval_eq_yes answer []⟩
  | no =>
      exact absurd answer notRefused
  | unknown =>
      exact (ofUnknown answer).holds

/-- A conjunction without an answer can be made true, part by part, and false by any part that has
no answer. -/
theorem of_all
    {parts : List (Expression Key)}
    (once : (parts.flatMap targetFeatures).Nodup)
    (unclear : (all parts).eval ⟨target, none⟩ = .unknown)
    (each : ∀ part ∈ parts,
      part.eval ⟨target, none⟩ = .unknown → Undetermined target part) :
    Undetermined target (all parts) := by
  rw [eval, evalEach_eq_map, Ternary.conjunction_eq_unknown_iff] at unclear
  obtain ⟨noneRefused, someUnclear⟩ := unclear
  constructor
  case holds =>
    have possible : ∀ part ∈ parts, ∃ features, part.Holds target features ↔ True := by
      intro part member
      have notRefused : part.eval ⟨target, none⟩ ≠ .no :=
        fun isNo => noneRefused (List.mem_map.mpr ⟨part, member, isNo⟩)
      simpa using exists_holds notRefused (each part member)
    obtain ⟨features, decided⟩ := exists_common_features once possible
    exact ⟨features, allHold_iff.mpr fun part member => (decided part member).mpr trivial⟩
  case fails =>
    obtain ⟨part, member, isUnknown⟩ := List.mem_map.mp someUnclear
    obtain ⟨features, fails⟩ := (each part member isUnknown).fails
    exact ⟨features, fun holds => fails (allHold_iff.mp holds part member)⟩

/-- A disjunction without an answer is the opposite of the conjunction of the opposite parts. -/
theorem of_any
    {parts : List (Expression Key)}
    (once : (parts.flatMap targetFeatures).Nodup)
    (unclear : (any parts).eval ⟨target, none⟩ = .unknown)
    (each : ∀ part ∈ parts,
      part.eval ⟨target, none⟩ = .unknown → Undetermined target part) :
    Undetermined target (any parts) := by
  have opposite : Undetermined target (all (parts.map Expression.not)) := by
    apply of_all
    · simpa [List.flatMap_map, targetFeatures_not] using once
    · rw [eval, evalEach_eq_map, Ternary.disjunction_eq, Ternary.negation_eq_unknown_iff] at unclear
      rw [eval, evalEach_eq_map, List.map_map]
      rw [List.map_map] at unclear
      exact unclear
    · intro part member isUnknown
      obtain ⟨positive, positiveMember, rfl⟩ := List.mem_map.mp member
      exact (each positive positiveMember (Ternary.negation_eq_unknown_iff.mp isUnknown)).not
  have turned : ∀ features,
      (all (parts.map Expression.not)).Holds target features ↔
        ¬(any parts).Holds target features := by
    intro features
    simp [Holds, allHold_iff, someHolds_iff]
  exact ⟨opposite.fails.imp fun _ fails => not_not.mp fun refused => fails ((turned _).mpr refused),
    opposite.holds.imp fun _ => (turned _).mp⟩

/-- If no target feature is asked for twice, a condition without an answer is sometimes true and
sometimes false. -/
theorem of_eval
    (once : expression.targetFeatures.Nodup)
    (unclear : expression.eval ⟨target, none⟩ = .unknown) :
    Undetermined target expression := by
  induction expression with
  | test t =>
      exact of_test unclear
  | all parts inductionHypothesis =>
      rw [targetFeatures_all] at once
      exact of_all once unclear fun part member =>
        inductionHypothesis part member (nodup_targetFeatures_of_mem once member)
  | any parts inductionHypothesis =>
      rw [targetFeatures_any] at once
      exact of_any once unclear fun part member =>
        inductionHypothesis part member (nodup_targetFeatures_of_mem once member)
  | not part inductionHypothesis =>
      exact (inductionHypothesis once (Ternary.negation_eq_unknown_iff.mp unclear)).not

end Undetermined

/-- If no target feature is asked for twice, a condition has no answer exactly if some features make
it true and others make it false. -/
theorem eval_eq_unknown_iff_undetermined
    (once : expression.targetFeatures.Nodup) :
    expression.eval ⟨target, none⟩ = .unknown ↔ Undetermined target expression :=
  ⟨Undetermined.of_eval once, Undetermined.eval_eq_unknown⟩

end Expression

end CargoDeps.Cfg
