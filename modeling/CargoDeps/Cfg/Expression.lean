namespace CargoDeps.Cfg

/-!
# Platform conditions

Conditions are built from flags and `key = "value"` tests with `all`, `any` and `not`.  They are
parametrised by the type of their keys: as read, a key is any word; after `resolve?` it is a known
one, so that evaluation has an answer for every test.
-/

/-! ### Keys -/

/-- What a `key = "value"` condition asks for.  `packageFeature` is the key of the features of a
package, which are no property of a platform. -/
inductive Key
  | arch
  | os
  | family
  | env
  | vendor
  | endian
  | pointerWidth
  | targetFeature
  | packageFeature
deriving DecidableEq, Repr

namespace Key

/-- All keys. -/
def all : List Key :=
  [arch, os, family, env, vendor, endian, pointerWidth, targetFeature, packageFeature]

/-- The key as it is written. -/
def name : Key → String
  | arch => "target_arch"
  | os => "target_os"
  | family => "target_family"
  | env => "target_env"
  | vendor => "target_vendor"
  | endian => "target_endian"
  | pointerWidth => "target_pointer_width"
  | targetFeature => "target_feature"
  | packageFeature => "feature"

/-- The key with a name. -/
def ofName? (name : String) : Option Key :=
  all.find? fun key => key.name = name

theorem ofName?_name (key : Key) : ofName? key.name = some key := by
  cases key <;> decide

theorem name_of_ofName? {name : String} {key : Key} (found : ofName? name = some key) :
    key.name = name := by
  simpa using List.find?_some found

end Key

/-! ### Conditions -/

/-- A test that stands alone. -/
inductive Test (κ : Type)
  | flag (name : String)
  | equal (key : κ) (value : String)
deriving DecidableEq, Repr

/-- A condition. -/
inductive Expression (κ : Type)
  | test (test : Test κ)
  | all (parts : List (Expression κ))
  | any (parts : List (Expression κ))
  | not (part : Expression κ)

/-- The three ways to build a condition from others. -/
inductive Combinator
  | all
  | any
  | not
deriving DecidableEq, Repr

namespace Combinator

/-- The word of a combinator. -/
def name : Combinator → String
  | all => "all"
  | any => "any"
  | not => "not"

/-- The combinator with a name. -/
def ofName? (name : String) : Option Combinator :=
  if name = "all" then
    some all
  else if name = "any" then
    some any
  else if name = "not" then
    some not
  else
    none

/-- The condition that a combinator makes of others; a negation takes exactly one. -/
def combine? {κ : Type} : Combinator → List (Expression κ) → Option (Expression κ)
  | all, parts => some (.all parts)
  | any, parts => some (.any parts)
  | not, [part] => some (.not part)
  | not, _ => none

end Combinator

/-- The test with its key looked up, or the name that is no key. -/
def Test.resolve? : Test String → Except String (Test Key)
  | .flag name => .ok (.flag name)
  | .equal name value =>
      match Key.ofName? name with
      | some key => .ok (.equal key value)
      | none => .error name

namespace Expression

variable {κ : Type}

mutual

/-- The tests of a condition, from left to right. -/
def tests : Expression κ → List (Test κ)
  | test t => [t]
  | all parts => testsOfAll parts
  | any parts => testsOfAll parts
  | not part => part.tests

/-- The tests of several conditions, from left to right. -/
def testsOfAll : List (Expression κ) → List (Test κ)
  | [] => []
  | part :: rest => part.tests ++ testsOfAll rest

end

mutual

/-- The condition with every key looked up, or the first name from the left that is no key. -/
def resolve? : Expression String → Except String (Expression Key)
  | test t => t.resolve?.map test
  | all parts => (resolveAll? parts).map all
  | any parts => (resolveAll? parts).map any
  | not part => part.resolve?.map not

/-- Several conditions with every key looked up, or the first name that is no key. -/
def resolveAll? : List (Expression String) → Except String (List (Expression Key))
  | [] => .ok []
  | part :: rest =>
      match part.resolve? with
      | .error name => .error name
      | .ok part => (resolveAll? rest).map (part :: ·)

end

end Expression

/-! ### Printed conditions

The canonical text of a condition: one blank around an equals sign and after a comma, no other
blank, and no comma after the last part. -/

/-- The text of a test. -/
def Test.print : Test Key → String
  | .flag name => name
  | .equal key value => key.name ++ " = \"" ++ value ++ "\""

namespace Expression

mutual

/-- The text of a condition. -/
def print : Expression Key → String
  | test t => t.print
  | all parts => "all(" ++ printParts parts ++ ")"
  | any parts => "any(" ++ printParts parts ++ ")"
  | not part => "not(" ++ part.print ++ ")"

/-- The texts of several conditions with commas between them. -/
def printParts : List (Expression Key) → String
  | [] => ""
  | [part] => part.print
  | part :: next :: rest => part.print ++ ", " ++ printParts (next :: rest)

end

end Expression

end CargoDeps.Cfg
