import CargoDeps.Dependency.Edge

namespace CargoDeps

/-!
# Edge filters

Which edges a traversal follows, by kind, optionality and platform.
-/

/-- A choice of edges.  An edge without a platform condition applies everywhere, and without a
platform every condition counts as met.  Edges whose condition has no answer are chosen if
`includeUnknown` is set. -/
structure EdgeFilter where
  kinds : List DependencyKind
  includeOptional : Bool
  platform : Option Platform
  includeUnknown : Bool
deriving DecidableEq

namespace EdgeFilter

/-- Why a filter cannot be made. -/
inductive Error
  | kind (error : UnknownKind)
  | platform (error : SpecError)

/-- The error in words. -/
def Error.message : Error → String
  | kind error => error.message
  | platform error => error.message

/-- The set of the given kinds, in the order of `DependencyKind.all`. -/
def kindSet (kinds : List DependencyKind) : List DependencyKind :=
  DependencyKind.all.filter fun kind => kind ∈ kinds

/-- The filter that follows every edge. -/
def everything : EdgeFilter :=
  ⟨DependencyKind.all, true, none, true⟩

/-- The filter that follows all but development edges. -/
def withoutDevelopment (platform : Option Platform) : EdgeFilter :=
  ⟨kindSet [.normal, .build], true, platform, true⟩

/-- The filter that follows normal edges only. -/
def normalOnly (platform : Option Platform) : EdgeFilter :=
  ⟨kindSet [.normal], true, platform, true⟩

/-- The platform with a triple and target features, where one is asked for. -/
def readPlatform : Option (String × Option (List String)) → Except Error (Option Platform)
  | none => .ok none
  | some (triple, features) =>
      match Platform.ofTriple triple features with
      | .ok platform => .ok (some platform)
      | .error error => .error (.platform error)

/-- The filter with kinds and a platform as the input gives them; the kinds are read first. -/
def make (kinds : List Datum) (includeOptional : Bool)
    (platform : Option (String × Option (List String))) (includeUnknown : Bool) :
    Except Error EdgeFilter := do
  let kinds ← kinds.mapM fun value => (DependencyKind.read value).mapError .kind
  let platform ← readPlatform platform
  return ⟨kindSet kinds, includeOptional, platform, includeUnknown⟩

/-- Whether the platform condition of an edge holds on the platform of the filter. -/
def platformAnswer (filter : EdgeFilter) (edge : Edge) : Ternary :=
  match edge.platform, filter.platform with
  | some spec, some platform => spec.eval platform
  | _, _ => .yes

/-- Whether the filter chooses an edge. -/
def accepts (filter : EdgeFilter) (edge : Edge) : Bool :=
  edge.kind ∈ filter.kinds && (!edge.isOptional || filter.includeOptional) &&
    (filter.platformAnswer edge).toBool filter.includeUnknown

/-- A truth value as messages show it. -/
def shownBool (value : Bool) : String :=
  (Datum.bool value).shown

/-- The filter as messages show it. -/
def shown (filter : EdgeFilter) : String :=
  let kinds := ",".intercalate (filter.kinds.map DependencyKind.name)
  let platform :=
    match filter.platform with
    | some platform => platform.triple
    | none => Datum.null.shown
  "EdgeFilter(kinds=" ++ kinds ++ ", include_optional=" ++ shownBool filter.includeOptional ++
    ", platform=" ++ platform ++ ", include_unknown=" ++ shownBool filter.includeUnknown ++ ")"

end EdgeFilter

/-- A choice of edges of any sort. -/
abbrev EdgePredicate := Edge → Bool

/-- The choice of every edge. -/
def EdgePredicate.everything : EdgePredicate :=
  fun _ => true

end CargoDeps
