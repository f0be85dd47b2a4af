import CargoDeps.Cfg.Expression
import CargoDeps.Platform.Target
import CargoDeps.Sequence.Basic
import CargoDeps.Ternary
import CargoDeps.Text.Quoted

namespace CargoDeps

/-!
# Platforms

A platform is a known target, together with the set of target features enabled on it where that
is known.  Conditions are put to a platform; where one hangs on target features that are unknown, it
has no answer.
-/

/-- A target and its enabled target features: `none` if they are unknown, else in ascending order
and without repetitions, so that equal platforms are equal as values. -/
structure Platform where
  target : Platform.Target
  features : Option (List String)
deriving DecidableEq, Repr

namespace Platform

/-- The set of the given texts: ascending, each once. -/
def featureSet (features : List String) : List String :=
  Sequence.sorted (fun a b => a < b) (Sequence.distinct features)

/-- The platform with a triple, if the triple is known. -/
def ofTriple? (triple : String) (features : Option (List String)) : Option Platform :=
  (Target.ofTriple? triple).map fun target => ⟨target, features.map featureSet⟩

/-- The triple of the platform's target. -/
def triple (platform : Platform) : String :=
  platform.target.triple

/-- The platform as messages show it. -/
def shown (platform : Platform) : String :=
  "Platform(" ++ Text.quoted platform.triple ++ ")"

/-- Whether the platform has `value` for a key. -/
def test (platform : Platform) (key : Cfg.Key) (value : String) : Ternary :=
  match key with
  | .packageFeature => .no
  | .targetFeature =>
      match platform.features with
      | none => .unknown
      | some features => .ofBool (value ∈ features)
  | .family => .ofBool (value ∈ platform.target.families.map Family.name)
  | .arch => .ofBool (platform.target.arch = value)
  | .os => .ofBool (platform.target.os = value)
  | .env => .ofBool (platform.target.env = value)
  | .vendor => .ofBool (platform.target.vendor = value)
  | .endian => .ofBool (platform.target.endian.name = value)
  | .pointerWidth => .ofBool (toString platform.target.pointerWidth = value)

/-- Whether the platform has `value` for the key with a name; a name of no key has no answer,
not even an unknown one. -/
def testNamed? (platform : Platform) (name value : String) : Option Ternary :=
  (Cfg.Key.ofName? name).map fun key => platform.test key value

/-- Whether a bare flag is set: `unix` and `windows` ask for the family, no other flag is set on a
dependency. -/
def flag (platform : Platform) (name : String) : Ternary :=
  if name = Family.unix.name ∨ name = Family.windows.name then
    .ofBool (name ∈ platform.target.families.map Family.name)
  else
    .no

end Platform

/-! ### Conditions on a platform -/

namespace Cfg

/-- Whether a test holds on a platform. -/
def Test.eval (platform : Platform) : Test Key → Ternary
  | .flag name => platform.flag name
  | .equal key value => platform.test key value

namespace Expression

mutual

/-- Whether a condition holds on a platform. -/
def eval (platform : Platform) : Expression Key → Ternary
  | test t => t.eval platform
  | all parts => .conjunction (evalEach platform parts)
  | any parts => .disjunction (evalEach platform parts)
  | not part => (part.eval platform).negation

/-- The answers of several conditions. -/
def evalEach (platform : Platform) : List (Expression Key) → List Ternary
  | [] => []
  | part :: rest => part.eval platform :: evalEach platform rest

end

end Expression

end Cfg

end CargoDeps
