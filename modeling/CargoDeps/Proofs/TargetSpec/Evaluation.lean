import CargoDeps.Proofs.Cfg.Evaluation
import CargoDeps.Proofs.Cfg.Independence
import CargoDeps.Proofs.TargetSpec.Parse

namespace CargoDeps

/-!
# What specifications mean

A specification holds of a target with target features, or it does not.  On a platform with known
features evaluation tells which, and what it tells without knowledge of the features is the same for
all of them.  So a specification has no answer only if its answer hangs on unknown features.  The
converse takes that no feature is asked for twice: then there is no answer exactly if some features
make the answer yes and others make it no.
-/

/-- Known targets are told apart by their triples. -/
theorem Platform.Target.eq_of_triple_eq
    {first second : Target}
    (firstKnown : first ∈ builtin)
    (secondKnown : second ∈ builtin)
    (same : first.triple = second.triple) :
    first = second := by
  have found : ofTriple? second.triple = some first :=
    same ▸ ofTriple?_triple first firstKnown
  exact Option.some.inj (found.symm.trans (ofTriple?_triple second secondKnown))

/-- There is a platform for each known target, with any target features. -/
theorem Platform.ofTriple_triple
    {target : Target}
    (known : target ∈ Target.builtin)
    (features : Option (List String)) :
    ofTriple target.triple features = .ok ⟨target, features.map featureSet⟩ := by
  simp [ofTriple, ofTriple?, Target.ofTriple?_triple target known]

namespace TargetSpec

/-- A specification holds of a target with target features: its condition does, or the target is the
one that it names. -/
def Holds
    (target : Platform.Target)
    (features : List String)
    (spec : TargetSpec) : Prop :=
  match spec.demand with
  | .condition condition => condition.Holds target features
  | .target named => named = target

variable {source : String} {spec : TargetSpec} {target : Platform.Target}

/-- A target that a text specifies is a known one. -/
theorem mem_builtin_of_parse
    {text : String}
    (parses : parse source = .ok ⟨text, .target target⟩) :
    target ∈ Platform.Target.builtin := by
  by_cases isCfg : "cfg(".toList <+: trimmed source
  · obtain ⟨condition, _, shape⟩ := (parse_eq_ok_condition_iff isCfg).mp parses
    cases shape
  · obtain ⟨named, known, _, shape⟩ := (parse_eq_ok_target_iff isCfg).mp parses
    cases shape
    exact known

theorem tells_eval
    (parses : parse source = .ok spec)
    (known : target ∈ Platform.Target.builtin)
    (features : List String) :
    Ternary.Tells (spec.eval ⟨target, some (Platform.featureSet features)⟩)
      (spec.Holds target features) := by
  obtain ⟨text, demand⟩ := spec
  cases demand with
  | condition condition =>
      exact condition.tells_eval
  | target named =>
      have namedKnown : named ∈ Platform.Target.builtin :=
        mem_builtin_of_parse parses
      refine (Ternary.tells_ofBool _).of_iff ⟨?_, ?_⟩
      · exact Platform.Target.eq_of_triple_eq namedKnown known
      · exact congrArg Platform.Target.triple

theorem refines_eval
    (features : Option (List String)) :
    Ternary.Refines (spec.eval ⟨target, features⟩) (spec.eval ⟨target, none⟩) := by
  obtain ⟨text, demand⟩ := spec
  cases demand with
  | condition condition =>
      exact condition.refines_eval features
  | target named =>
      exact fun _ => rfl

/-- Whatever a text specifies, evaluation on a known target with target features tells whether it
holds, and evaluation without knowledge of the features tells the same or nothing. -/
theorem eval_iff_holds
    (parses : parse source = .ok spec)
    (known : target ∈ Platform.Target.builtin) :
    ∃ unaware,
      Platform.ofTriple target.triple none = .ok unaware ∧
        ∀ features, ∃ aware,
          Platform.ofTriple target.triple (some features) = .ok aware ∧
            spec.eval aware ≠ .unknown ∧
              (spec.eval aware = .yes ↔ spec.Holds target features) ∧
                (spec.eval aware = .no ↔ ¬spec.Holds target features) ∧
                  (spec.eval unaware ≠ .unknown → spec.eval aware = spec.eval unaware) := by
  refine ⟨_, Platform.ofTriple_triple known none, fun features => ?_⟩
  have tells := tells_eval parses known features
  exact ⟨_, Platform.ofTriple_triple known (some features), tells.ne_unknown, tells.eq_yes_iff,
    tells.eq_no_iff, refines_eval _⟩

/-! ### A condition on target features -/

/-- A specification that hangs on target features where a target is `unix`. -/
def vectorized : TargetSpec :=
  ⟨"cfg(any(target_feature = \"avx\", not(all(unix, target_feature = \"sse2\"))))",
    .condition
      (.any [.test (.equal .targetFeature "avx"),
        .not (.all [.test (.flag "unix"), .test (.equal .targetFeature "sse2")])])⟩

/-- A known target that is `unix`. -/
def linux : Platform.Target :=
  ⟨"x86_64-unknown-linux-gnu", "x86_64", "unknown", "linux", "gnu", [.unix], .little, 64⟩

/-- A known target that is not. -/
def windows : Platform.Target :=
  ⟨"x86_64-pc-windows-msvc", "x86_64", "pc", "windows", "msvc", [.windows], .little, 64⟩

/-- With one of the features known to be enabled the answer for `linux` is no.  For `windows` it is
yes without knowledge of features, and so with any of them. -/
theorem eval_iff_holds_vectorized :
    parse vectorized.text = .ok vectorized ∧
      linux ∈ Platform.Target.builtin ∧
        windows ∈ Platform.Target.builtin ∧
          (∃ aware,
            Platform.ofTriple linux.triple (some ["sse2"]) = .ok aware ∧
              vectorized.eval aware = .no) ∧
            ∀ features, ∃ aware,
              Platform.ofTriple windows.triple (some features) = .ok aware ∧
                vectorized.eval aware = .yes := by
  have parses : parse vectorized.text = .ok vectorized := by
    cbv
  have linuxKnown : linux ∈ Platform.Target.builtin := by
    decide
  have windowsKnown : windows ∈ Platform.Target.builtin := by
    decide
  refine ⟨parses, linuxKnown, windowsKnown, ?_, ?_⟩
  · obtain ⟨_, _, each⟩ := eval_iff_holds parses linuxKnown
    obtain ⟨aware, found, _, _, no_iff, _⟩ := each ["sse2"]
    refine ⟨aware, found, no_iff.mpr ?_⟩
    simp [Holds, vectorized, linux, Cfg.Expression.Holds, Cfg.Expression.SomeHolds,
      Cfg.Expression.AllHold, Cfg.Test.Holds, Platform.Family.name]
  · intro features
    obtain ⟨unaware, found, each⟩ := eval_iff_holds parses windowsKnown
    rw [Platform.ofTriple_triple windowsKnown] at found
    obtain rfl := Except.ok.inj found
    have told : vectorized.eval ⟨windows, none⟩ = .yes := by
      decide
    obtain ⟨aware, found, _, _, _, same⟩ := each features
    exact ⟨aware, found, (same (told ▸ by decide)).trans told⟩

/-! ### When there is no answer -/

/-- The target features that the tests of a specification ask for, from left to right. -/
def testedFeatures (spec : TargetSpec) : List String :=
  match spec.demand with
  | .condition condition => condition.targetFeatures
  | .target _ => []

/-- If the tests of a specification ask for each target feature at most once, it has no answer on a
known target without knowledge of features exactly if it has the answer yes with some features and
the answer no with others. -/
theorem unanswered_iff_undetermined
    (once : spec.testedFeatures.Nodup)
    (known : target ∈ Platform.Target.builtin) :
    ∃ unaware,
      Platform.ofTriple target.triple none = .ok unaware ∧
        (spec.eval unaware = .unknown ↔
          ∃ enabling disabling accepting refusing,
            Platform.ofTriple target.triple (some enabling) = .ok accepting ∧
              spec.eval accepting = .yes ∧
                Platform.ofTriple target.triple (some disabling) = .ok refusing ∧
                  spec.eval refusing = .no) := by
  refine ⟨_, Platform.ofTriple_triple known none, ?_⟩
  simp only [Platform.ofTriple_triple known, Except.ok.injEq, exists_and_left, exists_eq_left']
  obtain ⟨text, demand⟩ := spec
  cases demand with
  | condition condition =>
      refine (Cfg.Expression.eval_eq_unknown_iff_undetermined once).trans ⟨?_, ?_⟩
      · rintro ⟨⟨enabling, holds⟩, disabling, fails⟩
        exact ⟨enabling, condition.tells_eval.eq_yes_iff.mpr holds,
          disabling, condition.tells_eval.eq_no_iff.mpr fails⟩
      · rintro ⟨enabling, isYes, disabling, isNo⟩
        exact ⟨⟨enabling, condition.tells_eval.eq_yes_iff.mp isYes⟩,
          disabling, condition.tells_eval.eq_no_iff.mp isNo⟩
  | target named =>
      -- The target alone decides, so that features make no difference.
      constructor
      · intro unclear
        exact absurd unclear (Ternary.tells_ofBool _).ne_unknown
      · rintro ⟨enabling, isYes, disabling, isNo⟩
        exact absurd (isYes.symm.trans isNo) (by simp)

/-- The specification asks for two features once each.  For `linux` it has no answer, so that each
answer is that of some features. -/
theorem unanswered_vectorized :
    parse vectorized.text = .ok vectorized ∧
      vectorized.testedFeatures.Nodup ∧
        linux ∈ Platform.Target.builtin ∧
          ∃ enabling disabling accepting refusing,
            Platform.ofTriple linux.triple (some enabling) = .ok accepting ∧
              vectorized.eval accepting = .yes ∧
                Platform.ofTriple linux.triple (some disabling) = .ok refusing ∧
                  vectorized.eval refusing = .no := by
  have parses : parse vectorized.text = .ok vectorized := by
    cbv
  have once : vectorized.testedFeatures.Nodup := by
    decide
  have known : linux ∈ Platform.Target.builtin := by
    decide
  obtain ⟨unaware, found, unanswered_iff⟩ := unanswered_iff_undetermined once known
  rw [Platform.ofTriple_triple known] at found
  obtain rfl := Except.ok.inj found
  have unanswered : vectorized.eval ⟨linux, none⟩ = .unknown := by
    decide
  exact ⟨parses, once, known, unanswered_iff.mp unanswered⟩

/-- A feature that is asked for twice: the condition has no answer, though no features refute it. -/
example :
    let condition := Cfg.Expression.any [.test (.equal .targetFeature "avx"),
      .not (.test (.equal .targetFeature "avx"))]
    condition.eval ⟨linux, none⟩ = .unknown ∧
      ∀ features, condition.Holds linux features := by
  refine ⟨by decide, fun features => ?_⟩
  simpa [Cfg.Expression.Holds, Cfg.Expression.SomeHolds] using Classical.em _

end TargetSpec

end CargoDeps
