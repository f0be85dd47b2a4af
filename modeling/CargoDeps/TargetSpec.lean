import CargoDeps.Cfg.Expression
import CargoDeps.Cfg.Parser
import CargoDeps.Platform.Basic

namespace CargoDeps

/-!
# Target specifications

A dependency can be bound to platforms by a condition `cfg(…)` or by the triple of one target.
-/

/-- Why a text specifies no target. -/
inductive SpecError
  | malformed (text : String) (fault : Cfg.Fault)
  | unknownTriple (triple : String)
  | unknownKey (name : String)
deriving DecidableEq, Repr

namespace SpecError

/-- The kind of the error, in one word. -/
def kind : SpecError → String
  | malformed _ _ => "invalid_cfg"
  | unknownTriple _ => "unknown_triple"
  | unknownKey _ => "unknown_predicate"

/-- What the error is about: the triple, the name, or the fault in words. -/
def detail : SpecError → String
  | malformed text fault => fault.shown text
  | unknownTriple triple => triple
  | unknownKey name => name

/-- The error in words. -/
def message (error : SpecError) : String :=
  match error with
  | malformed _ _ => "invalid cfg() expression: " ++ error.detail
  | unknownTriple _ => "unknown triple: " ++ error.detail
  | unknownKey _ => "cfg() expression has unknown predicate: " ++ error.detail

end SpecError

/-- The platform with a triple, or the error that the triple is not known. -/
def Platform.ofTriple (triple : String) (features : Option (List String)) :
    Except SpecError Platform :=
  match Platform.ofTriple? triple features with
  | some platform => .ok platform
  | none => .error (.unknownTriple triple)

namespace TargetSpec

/-- What a specification demands of a platform. -/
inductive Demand
  | condition (expression : Cfg.Expression Cfg.Key)
  | target (target : Platform.Target)

end TargetSpec

/-- A specification as written, less the blanks around it, and what it demands. -/
structure TargetSpec where
  text : String
  demand : TargetSpec.Demand

namespace TargetSpec

/-- Read a text `cfg(…)` or a triple. -/
def parse (source : String) : Except SpecError TargetSpec :=
  let trimmed := Text.trim source.toList
  let text := String.ofList trimmed
  if "cfg(".toList.isPrefixOf trimmed then
    match Cfg.parse trimmed with
    | .error fault => .error (.malformed text fault)
    | .ok expression =>
        match expression.resolve? with
        | .error name => .error (.unknownKey name)
        | .ok expression => .ok ⟨text, .condition expression⟩
  else
    match Platform.Target.ofTriple? text with
    | some target => .ok ⟨text, .target target⟩
    | none => .error (.unknownTriple text)

/-- Whether the specification names a single target. -/
def isTriple (spec : TargetSpec) : Bool :=
  match spec.demand with
  | .target _ => true
  | .condition _ => false

/-- Whether a platform meets the specification. -/
def eval (spec : TargetSpec) (platform : Platform) : Ternary :=
  match spec.demand with
  | .target target => .ofBool (target.triple = platform.triple)
  | .condition expression => expression.eval platform

/-- The specification as messages show it. -/
def shown (spec : TargetSpec) : String :=
  "TargetSpec.parse(" ++ Text.quoted spec.text ++ ")"

/-- Whether a text and a triple are well formed and the one specifies the other; the text is looked
at first. -/
def evalText (source triple : String) : Except SpecError Ternary := do
  let spec ← parse source
  let platform ← Platform.ofTriple triple none
  return spec.eval platform

end TargetSpec

end CargoDeps
