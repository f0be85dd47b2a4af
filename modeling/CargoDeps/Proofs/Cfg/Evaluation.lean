import CargoDeps.Platform.Basic
import CargoDeps.Proofs.Cfg.Expression
import CargoDeps.Proofs.Sequence.Sorted
import CargoDeps.Proofs.Ternary

namespace CargoDeps.Cfg

/-!
# What conditions mean

A condition is true or false of a target on which certain target features are enabled.  Evaluation
tells which where the features are known, and where they are not it never tells otherwise.
-/

open Platform (Target Family)

/-- A test is true of a target with target features.  The flags `unix` and `windows` stand for
families of targets and no other flag is set; features of packages are no property of a target. -/
def Test.Holds (target : Target) (features : List String) : Test Key → Prop
  | .flag name =>
      (name = "unix" ∨ name = "windows") ∧ ∃ family ∈ target.families, family.name = name
  | .equal .arch value => target.arch = value
  | .equal .os value => target.os = value
  | .equal .family value => ∃ family ∈ target.families, family.name = value
  | .equal .env value => target.env = value
  | .equal .vendor value => target.vendor = value
  | .equal .endian value => target.endian.name = value
  | .equal .pointerWidth value => toString target.pointerWidth = value
  | .equal .targetFeature value => value ∈ features
  | .equal .packageFeature _ => False

namespace Expression

mutual

/-- A condition is true of a target with target features: `all` of all its parts, `any` of some
part, and `not` of no part. -/
def Holds (target : Target) (features : List String) : Expression Key → Prop
  | test t => t.Holds target features
  | all parts => AllHold target features parts
  | any parts => SomeHolds target features parts
  | not part => ¬part.Holds target features

/-- All of several conditions are true. -/
def AllHold (target : Target) (features : List String) : List (Expression Key) → Prop
  | [] => True
  | part :: rest => part.Holds target features ∧ AllHold target features rest

/-- Some of several conditions is true. -/
def SomeHolds (target : Target) (features : List String) : List (Expression Key) → Prop
  | [] => False
  | part :: rest => part.Holds target features ∨ SomeHolds target features rest

end

end Expression

variable {target : Target} {features : List String}

/-! ### Tests -/

theorem tells_flag
    (name : String) :
    Ternary.Tells (Platform.flag ⟨target, some features⟩ name)
      (Test.Holds target features (.flag name)) := by
  by_cases shorthand : name = Family.unix.name ∨ name = Family.windows.name
  · rw [Platform.flag, if_pos shorthand]
    exact (Ternary.tells_ofBool _).of_iff (List.mem_map.trans (and_iff_right shorthand).symm)
  · rw [Platform.flag, if_neg shorthand]
    exact Ternary.tells_no fun holds => shorthand holds.1

/-- On a platform with known features a test tells whether it holds. -/
theorem tells_test
    (t : Test Key) :
    Ternary.Tells (t.eval ⟨target, some (Platform.featureSet features)⟩)
      (t.Holds target features) := by
  cases t with
  | flag name =>
      exact tells_flag name
  | equal key value =>
      cases key with
      | family =>
          exact (Ternary.tells_ofBool _).of_iff List.mem_map
      | targetFeature =>
          exact (Ternary.tells_ofBool _).of_iff (by simp [Platform.featureSet, Test.Holds])
      | packageFeature =>
          exact Ternary.tells_no id
      | _ =>
          exact Ternary.tells_ofBool _

/-- What a test tells without knowledge of features, it tells with any features too. -/
theorem refines_test
    (t : Test Key)
    (features : Option (List String)) :
    Ternary.Refines (t.eval ⟨target, features⟩) (t.eval ⟨target, none⟩) := by
  intro known
  cases t with
  | flag name =>
      rfl
  | equal key value =>
      cases key with
      | targetFeature =>
          exact absurd rfl known
      | _ =>
          rfl

/-! ### Conditions -/

namespace Expression

theorem evalEach_eq_map
    (platform : Platform)
    (parts : List (Expression Key)) :
    evalEach platform parts = parts.map (eval platform) := by
  induction parts with
  | nil =>
      rfl
  | cons part rest inductionHypothesis =>
      rw [evalEach, inductionHypothesis, List.map_cons]

theorem allHold_iff
    {parts : List (Expression Key)} :
    AllHold target features parts ↔ ∀ part ∈ parts, part.Holds target features := by
  induction parts with
  | nil =>
      simp [AllHold]
  | cons part rest inductionHypothesis =>
      rw [AllHold, inductionHypothesis, List.forall_mem_cons]

theorem someHolds_iff
    {parts : List (Expression Key)} :
    SomeHolds target features parts ↔ ∃ part ∈ parts, part.Holds target features := by
  induction parts with
  | nil =>
      simp [SomeHolds]
  | cons part rest inductionHypothesis =>
      simp [SomeHolds, inductionHypothesis]

/-- On a platform with known features a condition tells whether it holds. -/
theorem tells_eval
    (expression : Expression Key) :
    Ternary.Tells (expression.eval ⟨target, some (Platform.featureSet features)⟩)
      (expression.Holds target features) := by
  induction expression with
  | test t =>
      exact tells_test t
  | all parts inductionHypothesis =>
      rw [eval, evalEach_eq_map, Holds, allHold_iff]
      exact Ternary.tells_conjunction inductionHypothesis
  | any parts inductionHypothesis =>
      rw [eval, evalEach_eq_map, Holds, someHolds_iff]
      exact Ternary.tells_disjunction inductionHypothesis
  | not part inductionHypothesis =>
      exact inductionHypothesis.negation

/-- What a condition tells without knowledge of features, it tells with any features too. -/
theorem refines_eval
    (expression : Expression Key)
    (features : Option (List String)) :
    Ternary.Refines (expression.eval ⟨target, features⟩) (expression.eval ⟨target, none⟩) := by
  induction expression with
  | test t =>
      exact refines_test t features
  | all parts inductionHypothesis =>
      rw [eval, eval, evalEach_eq_map, evalEach_eq_map]
      exact Ternary.refines_conjunction inductionHypothesis
  | any parts inductionHypothesis =>
      rw [eval, eval, evalEach_eq_map, evalEach_eq_map]
      exact Ternary.refines_disjunction inductionHypothesis
  | not part inductionHypothesis =>
      exact inductionHypothesis.negation

end Expression

end CargoDeps.Cfg
