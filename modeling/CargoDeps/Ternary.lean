namespace CargoDeps

/-!
# Answers that may be unknown

Kleene's strong three-valued logic: an unknown part leaves the whole unknown unless the other
parts decide it.
-/

/-- A yes-or-no answer, or the lack of one. -/
inductive Ternary
  | yes
  | no
  | unknown
deriving DecidableEq, Repr

namespace Ternary

/-- A known answer. -/
def ofBool (answer : Bool) : Ternary :=
  if answer then yes else no

/-- The answer as a truth value, if it is known. -/
def toBool? : Ternary → Option Bool
  | yes => some true
  | no => some false
  | unknown => none

/-- The answer as a truth value, with `fallback` for an unknown one. -/
def toBool (fallback : Bool) (answer : Ternary) : Bool :=
  answer.toBool?.getD fallback

/-- The opposite answer; an unknown one stays unknown. -/
def negation : Ternary → Ternary
  | yes => no
  | no => yes
  | unknown => unknown

/-- Whether all answers are yes: no if any is no, else unknown if any is unknown. -/
def conjunction (answers : List Ternary) : Ternary :=
  if no ∈ answers then
    no
  else if unknown ∈ answers then
    unknown
  else
    yes

/-- Whether some answer is yes: yes if any is yes, else unknown if any is unknown. -/
def disjunction (answers : List Ternary) : Ternary :=
  if yes ∈ answers then
    yes
  else if unknown ∈ answers then
    unknown
  else
    no

end Ternary

end CargoDeps
