import CargoDeps.Proofs.Cfg.Expression
import CargoDeps.Proofs.Cfg.Grammar
import CargoDeps.Proofs.Text.Cut
import CargoDeps.TargetSpec
import Mathlib

namespace CargoDeps

/-!
# What texts specify

A text that begins with `cfg(` is read by the grammar of conditions, and any other text is looked up
among the known triples.  The errors tell apart the three ways to fail.
-/

theorem Platform.Target.ofTriple?_eq_some_iff
    {triple : String}
    {target : Target} :
    ofTriple? triple = some target ↔ target ∈ builtin ∧ target.triple = triple := by
  constructor
  · intro found
    exact ⟨List.mem_of_find?_eq_some found, triple_of_ofTriple? found⟩
  · intro found
    obtain ⟨isBuiltin, rfl⟩ := found
    exact ofTriple?_triple target isBuiltin

namespace TargetSpec

/-- A text is refused with an error of some kind about some detail. -/
def Refuses (source kind detail : String) : Prop :=
  ∃ error, parse source = .error error ∧ error.kind = kind ∧ error.detail = detail

/-- The characters of a source, less the blanks around them. -/
def trimmed (source : String) : List Char :=
  Text.trim source.toList

variable {source : String}

theorem refuses_unknown_predicate_iff
    {name : String} :
    Refuses source "unknown_predicate" name ↔ parse source = .error (.unknownKey name) := by
  constructor
  · intro refuses
    obtain ⟨error, fails, isKind, rfl⟩ := refuses
    cases error with
    | unknownKey name =>
        exact fails
    | malformed text fault =>
        simp [SpecError.kind] at isKind
    | unknownTriple triple =>
        simp [SpecError.kind] at isKind
  · intro fails
    exact ⟨_, fails, rfl, rfl⟩

theorem exists_refuses_invalid_cfg_iff :
    (∃ detail, Refuses source "invalid_cfg" detail) ↔
      ∃ text fault, parse source = .error (.malformed text fault) := by
  constructor
  · intro refuses
    obtain ⟨detail, error, fails, isKind, _⟩ := refuses
    cases error with
    | malformed text fault =>
        exact ⟨text, fault, fails⟩
    | unknownKey name =>
        simp [SpecError.kind] at isKind
    | unknownTriple triple =>
        simp [SpecError.kind] at isKind
  · intro malformed
    obtain ⟨text, fault, fails⟩ := malformed
    exact ⟨_, _, fails, rfl, rfl⟩

/-! ### Triples -/

theorem parse_of_not_cfg
    (notCfg : ¬"cfg(".toList <+: trimmed source) :
    parse source =
      match Platform.Target.ofTriple? (String.ofList (trimmed source)) with
      | some target => .ok ⟨String.ofList (trimmed source), .target target⟩
      | none => .error (.unknownTriple (String.ofList (trimmed source))) := by
  rw [← List.isPrefixOf_iff_prefix] at notCfg
  exact if_neg notCfg

theorem parse_eq_ok_target_iff
    (notCfg : ¬"cfg(".toList <+: trimmed source)
    {spec : TargetSpec} :
    parse source = .ok spec ↔
      ∃ target ∈ Platform.Target.builtin,
        target.triple = String.ofList (trimmed source) ∧
          spec = ⟨String.ofList (trimmed source), .target target⟩ := by
  rw [parse_of_not_cfg notCfg]
  cases lookup : Platform.Target.ofTriple? (String.ofList (trimmed source)) with
  | none =>
      simp [← and_assoc, ← Platform.Target.ofTriple?_eq_some_iff, lookup]
  | some target =>
      simp [← and_assoc, ← Platform.Target.ofTriple?_eq_some_iff, lookup, eq_comm]

theorem refuses_of_forall_triple_ne
    (notCfg : ¬"cfg(".toList <+: trimmed source)
    (noTarget :
      ∀ target ∈ Platform.Target.builtin, target.triple ≠ String.ofList (trimmed source)) :
    Refuses source "unknown_triple" (String.ofList (trimmed source)) := by
  refine ⟨.unknownTriple _, ?_, rfl, rfl⟩
  rw [parse_of_not_cfg notCfg]
  cases lookup : Platform.Target.ofTriple? (String.ofList (trimmed source)) with
  | none =>
      rfl
  | some target =>
      obtain ⟨isBuiltin, hasTriple⟩ := Platform.Target.ofTriple?_eq_some_iff.mp lookup
      exact absurd hasTriple (noTarget target isBuiltin)

/-! ### Conditions -/

theorem parse_of_cfg
    (isCfg : "cfg(".toList <+: trimmed source) :
    parse source =
      match Cfg.parse (trimmed source) with
      | .error fault => .error (.malformed (String.ofList (trimmed source)) fault)
      | .ok expression =>
          match expression.resolve? with
          | .error name => .error (.unknownKey name)
          | .ok condition => .ok ⟨String.ofList (trimmed source), .condition condition⟩ := by
  rw [← List.isPrefixOf_iff_prefix] at isCfg
  exact if_pos isCfg

theorem parse_eq_ok_condition_iff
    (isCfg : "cfg(".toList <+: trimmed source)
    {spec : TargetSpec} :
    parse source = .ok spec ↔
      ∃ condition : Cfg.Expression Cfg.Key,
        Cfg.Spells (trimmed source) condition.named ∧
          spec = ⟨String.ofList (trimmed source), .condition condition⟩ := by
  simp only [← Cfg.parse_eq_ok_iff]
  rw [parse_of_cfg isCfg]
  cases parsed : Cfg.parse (trimmed source) with
  | error fault =>
      simp
  | ok expression =>
      have isNamed : ∀ condition : Cfg.Expression Cfg.Key,
          expression = condition.named ↔ expression.resolve? = .ok condition :=
        fun _ => eq_comm.trans Cfg.Expression.resolve?_eq_ok_iff.symm
      cases outcome : expression.resolve? <;> simp [isNamed, outcome, eq_comm]

/-- A text specifies a condition that it spells if all keys of the condition are known. -/
theorem exists_parse_eq_condition_iff
    (isCfg : "cfg(".toList <+: trimmed source)
    {expression : Cfg.Expression String} :
    (∃ condition,
      parse source = .ok ⟨String.ofList (trimmed source), .condition condition⟩ ∧
        condition.named = expression) ↔
      Cfg.Spells (trimmed source) expression ∧ ∀ name ∈ expression.keys, Cfg.Key.IsName name := by
  rw [← Cfg.Expression.exists_named_eq_iff]
  simp only [parse_eq_ok_condition_iff isCfg]
  constructor
  · intro found
    obtain ⟨condition, ⟨other, spells, shape⟩, rfl⟩ := found
    cases shape
    exact ⟨spells, condition, rfl⟩
  · intro found
    obtain ⟨spells, condition, rfl⟩ := found
    exact ⟨condition, ⟨condition, spells, rfl⟩, rfl⟩

theorem parse_eq_unknownKey_iff
    (isCfg : "cfg(".toList <+: trimmed source)
    {name : String} :
    parse source = .error (.unknownKey name) ↔
      ∃ expression, Cfg.Spells (trimmed source) expression ∧ expression.unknown? = some name := by
  simp only [← Cfg.parse_eq_ok_iff, ← Cfg.Expression.resolve?_eq_error_iff]
  rw [parse_of_cfg isCfg]
  cases parsed : Cfg.parse (trimmed source) with
  | error fault =>
      simp
  | ok expression =>
      cases outcome : expression.resolve? <;> simp [outcome]

theorem exists_parse_eq_malformed_iff
    (isCfg : "cfg(".toList <+: trimmed source) :
    (∃ text fault, parse source = .error (.malformed text fault)) ↔
      ¬∃ expression, Cfg.Spells (trimmed source) expression := by
  simp only [← Cfg.parse_eq_ok_iff]
  rw [parse_of_cfg isCfg]
  cases parsed : Cfg.parse (trimmed source) with
  | error fault =>
      simp
  | ok expression =>
      cases outcome : expression.resolve? <;> simp [outcome]

/-- What every text comes to, less the blanks around it.  A text `cfg(…)` is a condition exactly if
it spells one of known keys, fails on the first unknown key of the condition that it spells, and is
malformed if it spells none; any other text is the triple of a known target or fails as an unknown
one. -/
theorem parse_outcomes
    (source : String) :
    Text.IsCore (trimmed source) source.toList ∧
    (¬"cfg(".toList <+: trimmed source →
      (∀ spec, parse source = .ok spec ↔
        ∃ target ∈ Platform.Target.builtin,
          target.triple = String.ofList (trimmed source) ∧
            spec = ⟨String.ofList (trimmed source), .target target⟩) ∧
      ((∀ target ∈ Platform.Target.builtin, target.triple ≠ String.ofList (trimmed source)) →
        Refuses source "unknown_triple" (String.ofList (trimmed source)))) ∧
    ("cfg(".toList <+: trimmed source →
      (∀ spec, parse source = .ok spec →
        ∃ condition, spec = ⟨String.ofList (trimmed source), .condition condition⟩) ∧
      (∀ expression : Cfg.Expression String,
        (∃ condition,
          parse source = .ok ⟨String.ofList (trimmed source), .condition condition⟩ ∧
            condition.named = expression) ↔
          Cfg.Spells (trimmed source) expression ∧
            ∀ name ∈ expression.keys, Cfg.Key.IsName name) ∧
      (∀ name, Refuses source "unknown_predicate" name ↔
        ∃ expression, Cfg.Spells (trimmed source) expression ∧ expression.unknown? = some name) ∧
      ((∃ detail, Refuses source "invalid_cfg" detail) ↔
        ¬∃ expression, Cfg.Spells (trimmed source) expression)) ∧
    (∀ tokens first second,
      Cfg.Reads tokens first → Cfg.Reads tokens second → first = second) := by
  refine ⟨Text.trim_eq_iff.mp rfl, ?triple, ?condition, fun _ _ _ => Cfg.Reads.unique⟩
  case triple =>
    intro notCfg
    exact ⟨fun _ => parse_eq_ok_target_iff notCfg, refuses_of_forall_triple_ne notCfg⟩
  case condition =>
    intro isCfg
    refine ⟨?_, ?_, ?_, ?_⟩
    · intro spec parses
      obtain ⟨condition, _, shape⟩ := (parse_eq_ok_condition_iff isCfg).mp parses
      exact ⟨condition, shape⟩
    · exact fun _ => exists_parse_eq_condition_iff isCfg
    · intro name
      exact refuses_unknown_predicate_iff.trans (parse_eq_unknownKey_iff isCfg)
    · exact exists_refuses_invalid_cfg_iff.trans (exists_parse_eq_malformed_iff isCfg)

/-- Of texts about `not`, one spells a condition with an unknown key, one spells none, and one is
taken for a triple. -/
theorem parse_outcomes_not :
    (∃ expression,
      Cfg.Spells (trimmed " cfg(not(os = \"a\",)) ") expression ∧
        expression.unknown? = some "os") ∧
      (¬∃ expression, Cfg.Spells (trimmed "cfg(not(unix, windows))") expression) ∧
        Refuses " not(unix)" "unknown_triple" "not(unix)" := by
  refine ⟨?_, ?_, ?_⟩
  · have fails : parse " cfg(not(os = \"a\",)) " = .error (.unknownKey "os") := by
      cbv
    have onCfg := (parse_outcomes " cfg(not(os = \"a\",)) ").2.2.1 (by decide)
    exact (onCfg.2.2.1 "os").mp ⟨_, fails, rfl, rfl⟩
  · have fails :
        parse "cfg(not(unix, windows))" =
          .error (.malformed "cfg(not(unix, windows))" .negationArity) := by
      cbv
    have onCfg := (parse_outcomes "cfg(not(unix, windows))").2.2.1 (by decide)
    exact onCfg.2.2.2.mp ⟨_, _, fails, rfl, rfl⟩
  · have isText : String.ofList (trimmed " not(unix)") = "not(unix)" := by
      decide
    have onTriple := (parse_outcomes " not(unix)").2.1 (by decide)
    rw [isText] at onTriple
    exact onTriple.2 (by decide)

end TargetSpec

end CargoDeps
