import CargoDeps.Proofs.Cfg.Printer
import CargoDeps.Proofs.TargetSpec.Parse

namespace CargoDeps.TargetSpec

/-!
# Specifications of printed conditions

A condition that a text specifies is also specified by its printed text.  So the printed texts are
canonical: two texts specify the same condition exactly if it is printed in the same way.
-/

/-- The text `cfg(…)` around a printed condition. -/
def cfgText (condition : Cfg.Expression Cfg.Key) : String :=
  "cfg(" ++ condition.print ++ ")"

theorem toList_cfgText
    (condition : Cfg.Expression Cfg.Key) :
    (cfgText condition).toList = "cfg".toList ++ '(' :: (condition.print.toList ++ [')']) := by
  simp [cfgText]

theorem trimmed_cfgText
    (condition : Cfg.Expression Cfg.Key) :
    trimmed (cfgText condition) = (cfgText condition).toList := by
  refine Text.trim_eq_iff.mpr
    ⟨[], [], by simp, List.forall_mem_nil _, List.forall_mem_nil _, ?_, ?_⟩
  · intro c isHead
    obtain rfl : 'c' = c := by simpa [cfgText] using isHead
    decide
  · intro c isLast
    obtain rfl : ')' = c := by simpa [cfgText, List.getLast?_cons] using isLast
    decide

theorem isCfg_cfgText
    (condition : Cfg.Expression Cfg.Key) :
    "cfg(".toList <+: trimmed (cfgText condition) := by
  rw [trimmed_cfgText, toList_cfgText]
  exact ⟨condition.print.toList ++ [')'], rfl⟩

/-- A text that specifies a condition spells it. -/
theorem spells_of_parse
    {source text : String}
    {condition : Cfg.Expression Cfg.Key}
    (parses : parse source = .ok ⟨text, .condition condition⟩) :
    Cfg.Spells (trimmed source) condition.named := by
  by_cases isCfg : "cfg(".toList <+: trimmed source
  · obtain ⟨other, spells, shape⟩ := (parse_eq_ok_condition_iff isCfg).mp parses
    cases shape
    exact spells
  · obtain ⟨target, _, _, shape⟩ := (parse_eq_ok_target_iff isCfg).mp parses
    cases shape

theorem parse_cfgText
    {source text : String}
    {condition : Cfg.Expression Cfg.Key}
    (parses : parse source = .ok ⟨text, .condition condition⟩) :
    parse (cfgText condition) = .ok ⟨cfgText condition, .condition condition⟩ := by
  have spells : Cfg.Spells (trimmed (cfgText condition)) condition.named := by
    rw [trimmed_cfgText, toList_cfgText]
    exact (spells_of_parse parses).writable.spells_print
  refine (parse_eq_ok_condition_iff (isCfg_cfgText condition)).mpr ⟨condition, spells, ?_⟩
  rw [trimmed_cfgText, String.ofList_toList]

/-- A text that specifies a condition specifies it again in its printed form, and two such texts
specify the same condition exactly if it is printed in the same way. -/
theorem parse_print
    {source text : String}
    {condition : Cfg.Expression Cfg.Key}
    (parses : parse source = .ok ⟨text, .condition condition⟩) :
    parse ("cfg(" ++ condition.print ++ ")") =
        .ok ⟨"cfg(" ++ condition.print ++ ")", .condition condition⟩ ∧
      ∀ (other otherText : String) (otherCondition : Cfg.Expression Cfg.Key),
        parse other = .ok ⟨otherText, .condition otherCondition⟩ →
        (condition.print = otherCondition.print ↔ condition = otherCondition) := by
  refine ⟨parse_cfgText parses, ?_⟩
  intro other otherText otherCondition parsesOther
  constructor
  · intro samePrint
    have printed := parse_cfgText parses
    have printedOther := parse_cfgText parsesOther
    rw [cfgText, samePrint, ← cfgText, printedOther] at printed
    cases printed
    rfl
  · rintro rfl
    rfl

/-- Commas behind the last part and blanks are not printed; a word `all` without parentheses is. -/
theorem parse_print_any :
    ∃ condition,
      parse " cfg(any(not(unix,), all, target_os = \"a,(b\" , )) " =
          .ok ⟨"cfg(any(not(unix,), all, target_os = \"a,(b\" , ))", .condition condition⟩ ∧
        parse "cfg(any(not(unix), all, target_os = \"a,(b\"))" =
          .ok ⟨"cfg(any(not(unix), all, target_os = \"a,(b\"))", .condition condition⟩ := by
  have parses :
      parse " cfg(any(not(unix,), all, target_os = \"a,(b\" , )) " =
        .ok ⟨"cfg(any(not(unix,), all, target_os = \"a,(b\" , ))",
          .condition (.any [.not (.test (.flag "unix")), .test (.flag "all"),
            .test (.equal .os "a,(b")])⟩ := by
    cbv
  exact ⟨_, parses, (parse_print parses).1⟩

end CargoDeps.TargetSpec
