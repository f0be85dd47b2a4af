import CargoDeps.Graph.Basic

namespace CargoDeps

/-!
# Construction of package graphs

A graph is made from input records and edges, or else the first fault in them is reported: records
come before edges, each in input order, and the checks of one item in a fixed order.
-/

/-- The fields that may hold a value of the wrong form. -/
inductive InputField
  | packageId
  | edgeSource
  | edgeTarget
  | dependencyKind
deriving DecidableEq, Repr

/-- The name of a field in messages. -/
def InputField.name : InputField → String
  | packageId => "package id"
  | edgeSource => "edge source"
  | edgeTarget => "edge target"
  | dependencyKind => "dependency kind"

/-- Why the text of a version or of a requirement was refused. -/
inductive VersionFault
  | version (error : Version.Error)
  | requirement (error : Requirement.Error)

/-- The fault in words. -/
def VersionFault.message : VersionFault → String
  | version error => error.message
  | requirement error => error.message

/-- Why no graph can be made.  A position is that of the record or edge in the input. -/
inductive BuildError
  | duplicatePackage (id : PackageId)
  | unknownDependency (source missing : PackageId) (position : Nat)
  | invalidField (field : InputField) (value : Datum) (position : Nat)
  | invalidPlatform (text : String) (package : PackageId) (dependency : String) (fault : SpecError)
  | invalidVersion (text : String) (package : PackageId) (fault : VersionFault)

/-- The error in words. -/
def BuildError.message : BuildError → String
  | duplicatePackage id => "duplicate package id: " ++ id.text
  | unknownDependency source missing position =>
      "edge #" ++ toString position ++ " from " ++ source.text ++
        " references unknown package " ++ missing.text
  | invalidField field value position =>
      "invalid " ++ field.name ++ " " ++ value.shown ++ " in input #" ++ toString position
  | invalidPlatform text package dependency _ =>
      "invalid platform expression " ++ Text.quoted text ++ " for dependency " ++
        Text.quoted dependency ++ " of " ++ package.text
  | invalidVersion text package _ =>
      "invalid version or version requirement " ++ Text.quoted text ++ " in " ++ package.text

/-- What lies behind an error, where that is an error of its own. -/
inductive BuildError.Cause
  | id (error : LookupError)
  | kind (error : UnknownKind)
  | platform (error : SpecError)
  | version (fault : VersionFault)

/-- What lies behind an error: why the value of a field, a platform or a version was refused. -/
def BuildError.cause? : BuildError → Option Cause
  | duplicatePackage _ => none
  | unknownDependency _ _ _ => none
  | invalidField .dependencyKind value _ => some (.kind ⟨value⟩)
  | invalidField _ _ _ => some (.id .malformedId)
  | invalidPlatform _ _ _ fault => some (.platform fault)
  | invalidVersion _ _ fault => some (.version fault)

/-- Packages with distinct ids. -/
structure Catalog where
  packages : List Package
  distinct_ids : (packages.map Package.id).Nodup

namespace Catalog

/-- The catalog without packages. -/
def empty : Catalog := ⟨[], List.nodup_nil⟩

/-- The ids of the packages, in input order. -/
def ids (catalog : Catalog) : List PackageId :=
  catalog.packages.map Package.id

/-- The package with an id. -/
def find? (catalog : Catalog) (id : PackageId) : Option Package :=
  catalog.packages.find? fun package => package.id = id

/-- The id in a field, or the error that the field holds none. -/
def readId (field : InputField) (position : Nat) (value : Datum) : Except BuildError PackageId :=
  match PackageId.ofDatum? value with
  | some id => .ok id
  | none => .error (.invalidField field value position)

/-- Add a package with a new id. -/
def insert (catalog : Catalog) (package : Package) (isNew : package.id ∉ catalog.ids) :
    Catalog where
  packages := catalog.packages ++ [package]
  distinct_ids := by
    rw [List.map_append, List.nodup_append]
    refine ⟨catalog.distinct_ids, by simp, ?_⟩
    rintro id member _ last rfl
    simp only [List.map_cons, List.map_nil, List.mem_singleton] at last
    exact isNew (last ▸ member)

/-- Add the package of the record at a position.  Its id has to be well formed and new, and its
version readable. -/
def register (catalog : Catalog) (position : Nat) (record : PackageRecord) :
    Except BuildError Catalog :=
  match readId .packageId position record.id with
  | .error error => .error error
  | .ok id =>
      if isNew : id ∉ catalog.ids then
        match record.version.resolve with
        | .error error => .error (.invalidVersion record.version.text id (.version error))
        | .ok version => .ok (catalog.insert (Package.ofRecord id version record) isNew)
      else
        .error (.duplicatePackage id)

/-- Add the packages of records, the first of which is at a position. -/
def registerAll (catalog : Catalog) : Nat → List PackageRecord → Except BuildError Catalog
  | _, [] => .ok catalog
  | position, record :: rest =>
      match catalog.register position record with
      | .error error => .error error
      | .ok catalog => catalog.registerAll (position + 1) rest

/-- The edge at a position joins packages of the catalog. -/
structure Joins (catalog : Catalog) (position : Nat) (edge : Edge) : Prop where
  index_eq : edge.index = position
  source_mem : edge.source ∈ catalog.ids
  target_mem : edge.target ∈ catalog.ids

/-- The platform specification of an edge, where it has one. -/
def readPlatform (source : PackageId) (name : String) :
    Option String → Except BuildError (Option TargetSpec)
  | none => .ok none
  | some text =>
      match TargetSpec.parse text with
      | .ok spec => .ok (some spec)
      | .error fault => .error (.invalidPlatform text source name fault)

/-- The requirement of an edge. -/
def readRequirement (source : PackageId) (text : String) : Except BuildError Requirement :=
  match Requirement.parse text with
  | .ok requirement => .ok requirement
  | .error fault => .error (.invalidVersion text source (.requirement fault))

/-- The kind of the edge at a position. -/
def readKind (position : Nat) (value : Datum) : Except BuildError DependencyKind :=
  (DependencyKind.read value).mapError fun error =>
    .invalidField .dependencyKind error.value position

/-- What a dependency is called: as it is renamed, if to a text that is not empty, else as its
package. -/
def dependencyName (rename : Option String) (target : Package) : String :=
  match rename with
  | some name => if name = "" then target.name else name
  | none => target.name

/-- The package with an id is in the catalog. -/
theorem mem_ids_of_find? {catalog : Catalog} {id : PackageId} {package : Package}
    (found : catalog.find? id = some package) : id ∈ catalog.ids := by
  have same : package.id = id := by simpa using List.find?_some found
  exact List.mem_map.mpr ⟨package, List.mem_of_find?_eq_some found, same⟩

/-- The edge at a position.  Its ends have to be well formed and in the catalog, then its kind, its
platform and its requirement readable. -/
def resolve (catalog : Catalog) (position : Nat) (raw : RawEdge) :
    Except BuildError { edge : Edge // catalog.Joins position edge } := do
  let source ← readId .edgeSource position raw.source
  let target ← readId .edgeTarget position raw.target
  match sourceFound : catalog.find? source, targetFound : catalog.find? target with
  | none, _ => .error (.unknownDependency source source position)
  | some _, none => .error (.unknownDependency source target position)
  | some _, some package =>
      let name := dependencyName raw.rename package
      let kind ← readKind position raw.kind
      let platform ← readPlatform source name raw.platform
      let requirement ← readRequirement source raw.requirement
      let edge : Edge :=
        { index := position, source, target, kind, name, isOptional := raw.isOptional,
          rename := raw.rename, platform, requirement, features := raw.features,
          defaultFeatures := raw.defaultFeatures }
      return ⟨edge, ⟨rfl, mem_ids_of_find? sourceFound, mem_ids_of_find? targetFound⟩⟩

/-- Edges that join packages of the catalog, at ascending positions from a first one on. -/
structure Linked (catalog : Catalog) (first : Nat) where
  edges : List Edge
  ascending : edges.Pairwise fun earlier later => earlier.index < later.index
  first_le : ∀ edge ∈ edges, first ≤ edge.index
  source_mem : ∀ edge ∈ edges, edge.source ∈ catalog.ids
  target_mem : ∀ edge ∈ edges, edge.target ∈ catalog.ids

/-- No edges. -/
def Linked.empty (catalog : Catalog) (first : Nat) : catalog.Linked first :=
  ⟨[], .nil, by simp, by simp, by simp⟩

/-- Edges behind one more at the position before. -/
def Linked.cons {catalog : Catalog} {position : Nat}
    (edge : { edge : Edge // catalog.Joins position edge })
    (later : catalog.Linked (position + 1)) : catalog.Linked position where
  edges := edge.val :: later.edges
  ascending := by
    refine List.pairwise_cons.mpr ⟨fun other member => ?_, later.ascending⟩
    have := later.first_le other member
    have := edge.property.index_eq
    omega
  first_le := by
    intro other member
    rcases List.mem_cons.mp member with rfl | member
    · exact Nat.le_of_eq edge.property.index_eq.symm
    · exact Nat.le_of_succ_le (later.first_le other member)
  source_mem := by
    intro other member
    rcases List.mem_cons.mp member with rfl | member
    · exact edge.property.source_mem
    · exact later.source_mem other member
  target_mem := by
    intro other member
    rcases List.mem_cons.mp member with rfl | member
    · exact edge.property.target_mem
    · exact later.target_mem other member

/-- The edges, of which the first is at a position. -/
def resolveAll (catalog : Catalog) :
    (position : Nat) → List RawEdge → Except BuildError (catalog.Linked position)
  | position, [] => .ok (.empty catalog position)
  | position, raw :: rest => do
      let edge ← catalog.resolve position raw
      let later ← catalog.resolveAll (position + 1) rest
      return .cons edge later

/-- The workspace of the packages that are marked as its members. -/
def workspace (catalog : Catalog) (root : Option String) : Workspace where
  root := root
  members := (catalog.packages.filter Package.workspaceMember).map Package.id

end Catalog

/-- Make a graph of input records and edges. -/
def PackageGraph.build (records : List PackageRecord) (edges : List RawEdge)
    (root : Option String) : Except BuildError PackageGraph := do
  let catalog ← Catalog.empty.registerAll 0 records
  let linked ← catalog.resolveAll 0 edges
  return PackageGraph.ofParts catalog.packages linked.edges (catalog.workspace root)
    catalog.distinct_ids linked.ascending linked.source_mem linked.target_mem

end CargoDeps
