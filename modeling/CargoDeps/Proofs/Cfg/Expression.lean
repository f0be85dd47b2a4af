import CargoDeps.Cfg.Expression

namespace CargoDeps.Cfg

/-!
# Conditions and their keys

A condition is read with names for keys, and looked up it has keys.  Looking up finds the one
condition whose keys have these names; where there is none, it stops at the first name from the left
that is no key.
-/

/-- Names that some key has. -/
def Key.IsName (name : String) : Prop :=
  ∃ key : Key, key.name = name

theorem Key.ofName?_eq_some_iff
    {name : String}
    {key : Key} :
    ofName? name = some key ↔ key.name = name := by
  constructor
  · exact name_of_ofName?
  · rintro rfl
    exact ofName?_name key

theorem Key.ofName?_eq_none_iff
    {name : String} :
    ofName? name = none ↔ ¬IsName name := by
  simp [Option.eq_none_iff_forall_ne_some, ofName?_eq_some_iff, IsName]

instance : DecidablePred Key.IsName := fun name =>
  decidable_of_iff (Key.ofName? name ≠ none) (by simp [Key.ofName?_eq_none_iff])

namespace Test

variable {κ : Type}

/-- The key of the test, if it asks for one. -/
def key? : Test κ → Option κ
  | flag _ => none
  | equal key _ => some key

/-- The test with the names of its keys. -/
def named : Test Key → Test String
  | flag name => .flag name
  | equal key value => .equal key.name value

end Test

namespace Expression

variable {κ : Type}

/-- A property of conditions that holds of each if it holds of its parts. -/
@[induction_eliminator]
theorem induction
    {motive : Expression κ → Prop}
    (test : ∀ t, motive (.test t))
    (all : ∀ parts, (∀ part ∈ parts, motive part) → motive (.all parts))
    (any : ∀ parts, (∀ part ∈ parts, motive part) → motive (.any parts))
    (not : ∀ part, motive part → motive (.not part))
    (expression : Expression κ) :
    motive expression :=
  Expression.rec test all any not (List.forall_mem_nil motive)
    (fun _ _ ofPart ofRest => List.forall_mem_cons.mpr ⟨ofPart, ofRest⟩) expression

/-- The keys of a condition, from left to right. -/
def keys (expression : Expression κ) : List κ :=
  expression.tests.filterMap Test.key?

mutual

/-- The condition with the names of its keys. -/
def named : Expression Key → Expression String
  | test t => .test t.named
  | all parts => .all (namedAll parts)
  | any parts => .any (namedAll parts)
  | not part => .not part.named

/-- Several conditions with the names of their keys. -/
def namedAll : List (Expression Key) → List (Expression String)
  | [] => []
  | part :: rest => part.named :: namedAll rest

end

theorem namedAll_eq_map
    (parts : List (Expression Key)) :
    namedAll parts = parts.map named := by
  induction parts with
  | nil =>
      rfl
  | cons part rest inductionHypothesis =>
      simp [namedAll, inductionHypothesis]

theorem testsOfAll_eq_flatMap
    (parts : List (Expression κ)) :
    testsOfAll parts = parts.flatMap tests := by
  induction parts with
  | nil =>
      rfl
  | cons part rest inductionHypothesis =>
      simp [testsOfAll, inductionHypothesis]

/-- The first key from the left that is no name of a key. -/
def unknown? (expression : Expression String) : Option String :=
  expression.keys.find? fun name => ¬Key.IsName name

/-! ### Looking up keys -/

theorem resolveAll?_map_named
    {parts : List (Expression Key)}
    (each : ∀ part ∈ parts, part.named.resolve? = .ok part) :
    resolveAll? (parts.map named) = .ok parts := by
  induction parts with
  | nil =>
      rfl
  | cons part rest inductionHypothesis =>
      obtain ⟨ofPart, ofRest⟩ := List.forall_mem_cons.mp each
      simp [resolveAll?, ofPart, inductionHypothesis ofRest, Except.map]

theorem resolve?_named
    (expression : Expression Key) :
    expression.named.resolve? = .ok expression := by
  induction expression with
  | test t =>
      cases t <;> simp [named, Test.named, resolve?, Test.resolve?, Key.ofName?_name, Except.map]
  | all parts inductionHypothesis =>
      simp [named, namedAll_eq_map, resolve?, resolveAll?_map_named inductionHypothesis, Except.map]
  | any parts inductionHypothesis =>
      simp [named, namedAll_eq_map, resolve?, resolveAll?_map_named inductionHypothesis, Except.map]
  | not part inductionHypothesis =>
      simp [named, resolve?, inductionHypothesis, Except.map]

/-- What looking up comes to: the condition that has the names, or the first name that is no key.
-/
def Resolved
    (expression : Expression String) :
    Except String (Expression Key) → Prop
  | .ok known => known.named = expression ∧ expression.unknown? = none
  | .error name => expression.unknown? = some name

/-- What looking up comes to for several conditions. -/
def ResolvedAll
    (parts : List (Expression String)) :
    Except String (List (Expression Key)) → Prop
  | .ok known => known.map named = parts ∧ parts.findSome? unknown? = none
  | .error name => parts.findSome? unknown? = some name

theorem resolvedAll_resolveAll?
    {parts : List (Expression String)}
    (each : ∀ part ∈ parts, part.Resolved part.resolve?) :
    ResolvedAll parts (resolveAll? parts) := by
  induction parts with
  | nil =>
      exact ⟨rfl, rfl⟩
  | cons part rest inductionHypothesis =>
      obtain ⟨ofPart, ofRest⟩ := List.forall_mem_cons.mp each
      have resolvedRest := inductionHypothesis ofRest
      cases partOutcome : part.resolve? with
      | error name =>
          rw [partOutcome] at ofPart
          have isUnknown : part.unknown? = some name := ofPart
          simp [ResolvedAll, resolveAll?, partOutcome, isUnknown]
      | ok known =>
          rw [partOutcome] at ofPart
          obtain ⟨rfl, noUnknown⟩ := ofPart
          cases restOutcome : resolveAll? rest <;>
            rw [restOutcome] at resolvedRest <;>
            simpa [ResolvedAll, resolveAll?, partOutcome, restOutcome, Except.map, noUnknown] using
              resolvedRest

theorem filterMap_testsOfAll
    (parts : List (Expression κ)) :
    (testsOfAll parts).filterMap Test.key? = parts.flatMap keys := by
  rw [testsOfAll_eq_flatMap, List.filterMap_flatMap]
  rfl

theorem unknown?_all
    (parts : List (Expression String)) :
    (all parts).unknown? = parts.findSome? unknown? := by
  rw [unknown?, keys, tests, filterMap_testsOfAll, List.find?_flatMap]
  rfl

theorem unknown?_any
    (parts : List (Expression String)) :
    (any parts).unknown? = parts.findSome? unknown? :=
  unknown?_all parts

theorem unknown?_not
    (part : Expression String) :
    (not part).unknown? = part.unknown? :=
  rfl

theorem unknown?_eq_none_iff
    {expression : Expression String} :
    expression.unknown? = none ↔ ∀ name ∈ expression.keys, Key.IsName name := by
  simp [unknown?]

theorem resolved_resolve?
    (expression : Expression String) :
    expression.Resolved expression.resolve? := by
  induction expression with
  | test t =>
      cases t with
      | flag name =>
          exact ⟨rfl, rfl⟩
      | equal name value =>
          cases lookup : Key.ofName? name with
          | none =>
              have unknown := Key.ofName?_eq_none_iff.mp lookup
              simp [Resolved, resolve?, Test.resolve?, lookup, Except.map, unknown?, keys, tests,
                Test.key?, unknown]
          | some key =>
              obtain rfl := Key.name_of_ofName? lookup
              simp [Resolved, resolve?, Test.resolve?, lookup, Except.map, unknown?, keys, tests,
                Test.key?, named, Test.named, Key.IsName]
  | all parts inductionHypothesis =>
      have resolvedAll := resolvedAll_resolveAll? inductionHypothesis
      cases outcome : resolveAll? parts <;>
        rw [outcome] at resolvedAll <;>
        simpa [Resolved, ResolvedAll, resolve?, outcome, Except.map, unknown?_all, named,
          namedAll_eq_map] using resolvedAll
  | any parts inductionHypothesis =>
      have resolvedAll := resolvedAll_resolveAll? inductionHypothesis
      cases outcome : resolveAll? parts <;>
        rw [outcome] at resolvedAll <;>
        simpa [Resolved, ResolvedAll, resolve?, outcome, Except.map, unknown?_any, named,
          namedAll_eq_map] using resolvedAll
  | not part inductionHypothesis =>
      cases outcome : part.resolve? <;>
        rw [outcome] at inductionHypothesis <;>
        simpa [Resolved, resolve?, outcome, Except.map, unknown?_not, named] using
          inductionHypothesis

theorem resolve?_eq_ok_iff
    {expression : Expression String}
    {known : Expression Key} :
    expression.resolve? = .ok known ↔ known.named = expression := by
  constructor
  · intro outcome
    have resolved := expression.resolved_resolve?
    rw [outcome] at resolved
    exact resolved.1
  · rintro rfl
    exact resolve?_named known

theorem resolve?_eq_error_iff
    {expression : Expression String}
    {name : String} :
    expression.resolve? = .error name ↔ expression.unknown? = some name := by
  have resolved := expression.resolved_resolve?
  cases outcome : expression.resolve? with
  | error first =>
      rw [outcome] at resolved
      simp [show expression.unknown? = some first from resolved]
  | ok known =>
      rw [outcome] at resolved
      simp [resolved.2]

/-- A condition is one of known keys if all its names are those of keys. -/
theorem exists_named_eq_iff
    {expression : Expression String} :
    (∃ known : Expression Key, known.named = expression) ↔
      ∀ name ∈ expression.keys, Key.IsName name := by
  rw [← unknown?_eq_none_iff]
  cases outcome : expression.resolve? with
  | error name =>
      have unknown := resolve?_eq_error_iff.mp outcome
      simp [unknown, ← resolve?_eq_ok_iff, outcome]
  | ok known =>
      have resolved := expression.resolved_resolve?
      rw [outcome] at resolved
      simpa [resolved.2] using ⟨known, resolved.1⟩

end Expression

end CargoDeps.Cfg
