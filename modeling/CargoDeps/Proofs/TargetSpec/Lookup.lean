import CargoDeps.Proofs.Cfg.Evaluation
import CargoDeps.Proofs.TargetSpec.Parse

namespace CargoDeps

/-!
# Keys that are looked up late

A condition as read has names for keys.  One can look them all up first and evaluate then, or look
each one up when the test that asks for it is decided, which fails on a name of no key.  Late lookup
fails exactly where early lookup does, and else both give the same answer.  So a text that can be
read never fails to answer, and of the conditions that texts spell, those with a name of no key are
the ones that are refused.
-/

namespace Cfg

/-- The answer of a test whose key is looked up just now: none at all if it is no key. -/
def Test.answer? (platform : Platform) : Test String → Option Ternary
  | .flag name => some (platform.flag name)
  | .equal name value => platform.testNamed? name value

theorem Test.answer?_named
    (platform : Platform)
    (t : Test Key) :
    t.named.answer? platform = some (t.eval platform) := by
  cases t with
  | flag name =>
      rfl
  | equal key value =>
      simp [named, answer?, Platform.testNamed?, Key.ofName?_name, eval]

namespace Expression

variable {platform : Platform}

mutual

/-- The answer of a condition whose keys are looked up on the way: none at all if one is no key. -/
def answer? (platform : Platform) : Expression String → Option Ternary
  | test t => t.answer? platform
  | all parts => (answerEach? platform parts).map .conjunction
  | any parts => (answerEach? platform parts).map .disjunction
  | not part => (part.answer? platform).map .negation

/-- The answers of several conditions, all of which are decided before they are put together. -/
def answerEach? (platform : Platform) : List (Expression String) → Option (List Ternary)
  | [] => some []
  | part :: rest =>
      match part.answer? platform with
      | none => none
      | some answer => (answerEach? platform rest).map (answer :: ·)

end

/-! ### Names of keys -/

theorem answerEach?_map_named
    {parts : List (Expression Key)}
    (each : ∀ part ∈ parts, part.named.answer? platform = some (part.eval platform)) :
    answerEach? platform (parts.map named) = some (parts.map (eval platform)) := by
  induction parts with
  | nil =>
      rfl
  | cons part rest inductionHypothesis =>
      obtain ⟨ofPart, ofRest⟩ := List.forall_mem_cons.mp each
      simp [answerEach?, ofPart, inductionHypothesis ofRest]

/-- A condition of known keys has the same answer if its keys are looked up by their names. -/
theorem answer?_named
    (expression : Expression Key) :
    expression.named.answer? platform = some (expression.eval platform) := by
  induction expression with
  | test t =>
      exact t.answer?_named platform
  | all parts inductionHypothesis =>
      simp [named, namedAll_eq_map, answer?, answerEach?_map_named inductionHypothesis, eval,
        evalEach_eq_map]
  | any parts inductionHypothesis =>
      simp [named, namedAll_eq_map, answer?, answerEach?_map_named inductionHypothesis, eval,
        evalEach_eq_map]
  | not part inductionHypothesis =>
      simp [named, answer?, inductionHypothesis, eval]

/-! ### Other names -/

theorem keys_all
    {κ : Type}
    (parts : List (Expression κ)) :
    (all parts).keys = parts.flatMap keys := by
  rw [keys, tests, filterMap_testsOfAll]

theorem answerEach?_eq_none
    {part : Expression String}
    {parts : List (Expression String)}
    (member : part ∈ parts)
    (fails : part.answer? platform = none) :
    answerEach? platform parts = none := by
  induction parts with
  | nil =>
      exact absurd member List.not_mem_nil
  | cons first rest inductionHypothesis =>
      rcases List.mem_cons.mp member with rfl | later
      · simp [answerEach?, fails]
      · cases ofFirst : first.answer? platform <;>
          simp [answerEach?, ofFirst, inductionHypothesis later]

/-- Wherever in a condition a name of no key stands, looking it up on the way fails. -/
theorem answer?_eq_none
    {expression : Expression String}
    {name : String}
    (member : name ∈ expression.keys)
    (isNoKey : ¬Key.IsName name) :
    expression.answer? platform = none := by
  induction expression with
  | test t =>
      cases t with
      | flag flagName =>
          exact absurd member List.not_mem_nil
      | equal key value =>
          obtain rfl : name = key := by
            simpa [keys, tests, Test.key?] using member
          simp [answer?, Test.answer?, Platform.testNamed?, Key.ofName?_eq_none_iff.mpr isNoKey]
  | all parts inductionHypothesis =>
      obtain ⟨part, partMember, inPart⟩ := List.mem_flatMap.mp (keys_all parts ▸ member)
      rw [answer?, answerEach?_eq_none partMember (inductionHypothesis part partMember inPart),
        Option.map_none]
  | any parts inductionHypothesis =>
      obtain ⟨part, partMember, inPart⟩ := List.mem_flatMap.mp (keys_all parts ▸ member)
      rw [answer?, answerEach?_eq_none partMember (inductionHypothesis part partMember inPart),
        Option.map_none]
  | not part inductionHypothesis =>
      rw [answer?, inductionHypothesis member, Option.map_none]

/-- Late lookup gives the answer of the condition with its keys looked up, and fails if that lookup
does. -/
theorem answer?_eq
    (expression : Expression String) :
    expression.answer? platform = expression.resolve?.toOption.map (eval platform) := by
  cases outcome : expression.resolve? with
  | ok known =>
      obtain rfl := resolve?_eq_ok_iff.mp outcome
      exact known.answer?_named
  | error name =>
      have isFirst : expression.keys.find? (fun name => ¬Key.IsName name) = some name :=
        resolve?_eq_error_iff.mp outcome
      have isNoKey : ¬Key.IsName name := by
        simpa using List.find?_some isFirst
      exact answer?_eq_none (List.mem_of_find?_eq_some isFirst) isNoKey

end Expression

end Cfg

/-! ### Specifications -/

namespace TargetSpec

/-- The answer of a text on a platform, where keys are looked up on the way: none at all if one is no
key, or if a text `cfg(…)` spells no condition. -/
def answer? (text : String) (platform : Platform) : Option Ternary :=
  if "cfg(".toList.isPrefixOf text.toList then
    match Cfg.parse text.toList with
    | .ok expression => expression.answer? platform
    | .error _ => none
  else
    some (.ofBool (text = platform.triple))

variable {source text : String} {spec : TargetSpec} {platform : Platform}

theorem answer?_of_cfg
    (isCfg : "cfg(".toList <+: text.toList) :
    answer? text platform =
      match Cfg.parse text.toList with
      | .ok expression => expression.answer? platform
      | .error _ => none := by
  rw [← List.isPrefixOf_iff_prefix] at isCfg
  exact if_pos isCfg

theorem answer?_of_not_cfg
    (notCfg : ¬"cfg(".toList <+: text.toList) :
    answer? text platform = some (.ofBool (text = platform.triple)) := by
  rw [← List.isPrefixOf_iff_prefix] at notCfg
  exact if_neg notCfg

/-- A text that could be read has the answer of what it specifies, though its keys are looked up on
the way. -/
theorem answer?_of_parse
    (parses : parse source = .ok spec) :
    answer? spec.text platform = some (spec.eval platform) := by
  by_cases isCfg : "cfg(".toList <+: trimmed source
  · obtain ⟨condition, spells, rfl⟩ := (parse_eq_ok_condition_iff isCfg).mp parses
    have reads : Cfg.parse (trimmed source) = .ok condition.named :=
      Cfg.parse_eq_ok_iff.mpr spells
    rw [answer?_of_cfg (by simpa using isCfg), String.toList_ofList, reads]
    exact condition.answer?_named
  · obtain ⟨target, _, hasTriple, rfl⟩ := (parse_eq_ok_target_iff isCfg).mp parses
    rw [answer?_of_not_cfg (by simpa using isCfg), ← hasTriple]
    rfl

/-- A text `cfg(…)` can be read exactly if it never fails to answer. -/
theorem exists_parse_iff_isSome_answer?
    (isCfg : "cfg(".toList <+: trimmed source) :
    (∃ spec, parse source = .ok spec) ↔
      (answer? (String.ofList (trimmed source)) platform).isSome = true := by
  rw [answer?_of_cfg (by simpa using isCfg), parse_of_cfg isCfg, String.toList_ofList]
  cases reads : Cfg.parse (trimmed source) with
  | error fault =>
      simp
  | ok expression =>
      cases outcome : expression.resolve? <;>
        simp [Cfg.Expression.answer?_eq, outcome, Except.toOption]

end TargetSpec

end CargoDeps
