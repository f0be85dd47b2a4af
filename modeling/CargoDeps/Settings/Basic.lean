import CargoDeps.Dependency.Filter
import CargoDeps.Settings.Argument.Reader

namespace CargoDeps

/-!
# Settings

Default query settings.  Values come from arguments of a command, are given directly, or come from
named variables of the environment.  An argument wins over a value given directly, and that over a
variable.  All faults of a set of values are reported together, though arguments that cannot be told
apart are an error of their own.
-/

namespace Settings

/-! ### What is given -/

/-- Variables of the environment, and values given directly.  Among the latter are the arguments. -/
structure Origin where
  environment : List (String × String)
  direct : Direct

/-- The places in which settings are looked up. -/
structure Sources where
  arguments : List (Field × Given)
  direct : Direct
  environment : List (String × String)
  options : Options

namespace Origin

/-- The settings that the arguments give.  Arguments are a list of texts; a program that asks for
its own arguments has none. -/
def arguments (origin : Origin) : Except ArgumentError (List (Field × Given)) :=
  let form := ArgumentForm.ofDirect origin.direct
  let group := (origin.direct.text? "_cli_prefix").getD ""
  match origin.direct.lookup "_cli_parse_args" with
  | none => .ok []
  | some .null => .ok []
  | some given =>
      if group ≠ "" && !ArgumentForm.isGroup group then
        .error (.group group)
      else
        match form.fault?, given with
        | some fault, _ => .error (.form fault)
        | none, .bool _ => .ok []
        | none, .int 0 => .ok []
        | none, .list items => form.read (items.filterMap Datum.text?)
        | none, other => .error (.notTexts other.typeName)

/-- The sources of settings.  Sources that are given ready-made stand in place of all others, and
they hold nothing. -/
def sources (origin : Origin) : Except ArgumentError Sources := do
  let options := Options.ofDirect origin.direct
  if origin.direct.isGiven "_build_sources" then
    return ⟨[], [], [], options⟩
  else
    return ⟨← origin.arguments, origin.direct, origin.environment, options⟩

end Origin

/-! ### Values for settings -/

namespace Sources

/-- The value given directly for a setting.  Its name in small letters goes before other
spellings, and of those the first one counts. -/
def direct? (sources : Sources) (field : Field) : Option Datum :=
  sources.direct.lookup field.name <|>
    (sources.direct.find? fun (name, _) => Field.ofName? name = some field).map Prod.snd

/-- The text of the variable of a setting.  Of several variables with one name the last counts. -/
def variableValue? (sources : Sources) (field : Field) : Option String :=
  (sources.environment.reverse.find? fun (name, value) =>
    sources.options.isVariable field name value).map Prod.snd

/-- Whether variables give parts of a setting.  Only a list can have parts, and the parts make up
a value that is none. -/
def hasParts (sources : Sources) (field : Field) : Bool :=
  field = .targetFeatures &&
    sources.environment.any fun (name, value) => sources.options.isPart field name value

/-- The value that variables give for a setting.  Parts count where the whole is not given. -/
def ofVariables? (sources : Sources) (field : Field) : Option Given :=
  match sources.variableValue? field with
  | some value =>
      if sources.options.nullText = some value then some .null else some (.ofVariable field value)
  | none => if sources.hasParts field then some .other else none

/-- The value for a setting, if there is one. -/
def given? (sources : Sources) (field : Field) : Option Given :=
  sources.arguments.lookup field <|> (sources.direct? field).map Given.ofDatum <|>
    sources.ofVariables? field

/-- A value under the name of a setting in small letters counts, whatever else is given. -/
theorem direct?_of_lookup {sources : Sources} {field : Field} {value : Datum}
    (present : sources.direct.lookup field.name = some value) :
    sources.direct? field = some value := by
  simp [direct?, present]

/-- An argument wins over all else. -/
theorem given?_of_argument {sources : Sources} {field : Field} {given : Given}
    (present : sources.arguments.lookup field = some given) :
    sources.given? field = some given := by
  simp [given?, present]

/-- A value given directly wins over all variables. -/
theorem given?_of_direct {sources : Sources} {field : Field} {value : Datum}
    (noArgument : sources.arguments.lookup field = none)
    (present : sources.direct? field = some value) :
    sources.given? field = some (.ofDatum value) := by
  simp [given?, noArgument, present]

/-- The value of a setting, which is `fallback` if none is given. -/
def read {α : Type} (sources : Sources) (field : Field) (fallback : α)
    (reader : Field → Given → Reading α) : Reading α :=
  match sources.given? field with
  | none => .ok fallback
  | some given => reader field given

/-- The truth value of a setting. -/
def readTruth (sources : Sources) (field : Field) : Reading Bool :=
  sources.read field (field.usualTruth?.getD false) readBool

/-- Whether a name is that of a setting or an option. -/
def isKnown (name : String) : Bool :=
  (Field.ofName? name).isSome || name ∈ Options.names

/-- The values given directly under names that are not known. -/
def unknownFaults (sources : Sources) : List Fault :=
  (sources.direct.filter fun (name, _) => !isKnown name).map
    fun (name, _) => ⟨name, .unknownField⟩

end Sources

end Settings

/-! ### The settings -/

/-- The settings. -/
structure Settings where
  logLevel : String
  targetPlatform : Option String
  targetFeatures : Option (List String)
  includeUnknownPlatform : Bool
  includeDevDependencies : Bool
  includeBuildDependencies : Bool
  includeOptionalDependencies : Bool
deriving DecidableEq, Repr

namespace Settings

/-- Why there are no settings. -/
inductive LoadError
  | arguments (error : ArgumentError)
  | faults (faults : List Fault)

/-- The settings that some sources hold, or all faults in order. -/
def ofSources (sources : Sources) : Reading Settings :=
  let logLevel := sources.read .logLevel "info" readText
  let targetPlatform := sources.read .targetPlatform none readOptionalText
  let targetFeatures := sources.read .targetFeatures none readOptionalTexts
  let unknownPlatform := sources.readTruth .includeUnknownPlatform
  let devDependencies := sources.readTruth .includeDevDependencies
  let buildDependencies := sources.readTruth .includeBuildDependencies
  let optionalDependencies := sources.readTruth .includeOptionalDependencies
  let faults :=
    sources.unknownFaults ++ faultsOf logLevel ++ faultsOf targetPlatform ++
      faultsOf targetFeatures ++ faultsOf unknownPlatform ++ faultsOf devDependencies ++
      faultsOf buildDependencies ++ faultsOf optionalDependencies
  if faults = [] then do
    return {
      logLevel := ← logLevel
      targetPlatform := ← targetPlatform
      targetFeatures := ← targetFeatures
      includeUnknownPlatform := ← unknownPlatform
      includeDevDependencies := ← devDependencies
      includeBuildDependencies := ← buildDependencies
      includeOptionalDependencies := ← optionalDependencies }
  else
    .error (Sequence.sorted Fault.before faults)

/-- The settings that are given. -/
def load (origin : Origin) : Except LoadError Settings := do
  let sources ← origin.sources.mapError .arguments
  (ofSources sources).mapError .faults

/-- The platform that the settings name; an empty name is no name. -/
def platform (settings : Settings) : Except SpecError (Option Platform) :=
  match settings.targetPlatform with
  | none => .ok none
  | some triple =>
      if triple = "" then
        .ok none
      else
        (Platform.ofTriple triple settings.targetFeatures).map some

/-- The edge filter that the settings describe. -/
def edgeFilter (settings : Settings) : Except SpecError EdgeFilter := do
  let build := if settings.includeBuildDependencies then [DependencyKind.build] else []
  let dev := if settings.includeDevDependencies then [DependencyKind.development] else []
  let platform ← settings.platform
  return ⟨EdgeFilter.kindSet (.normal :: build ++ dev), settings.includeOptionalDependencies,
    platform, settings.includeUnknownPlatform⟩

end Settings

end CargoDeps
