import CargoDeps.Package.Id
import CargoDeps.Package.Source
import CargoDeps.Version.Reader

namespace CargoDeps

/-!
# Packages

A package as an input record gives it, and as a graph holds it.
-/

/-- A feature table: each feature with the targets that it turns on, in order. -/
abbrev FeatureTable := List (String × List String)

namespace FeatureTable

/-- The names of the features. -/
def names (table : FeatureTable) : List String :=
  table.map Prod.fst

/-- Whether the table defines a feature. -/
def defines (table : FeatureTable) (feature : String) : Bool :=
  feature ∈ table.names

end FeatureTable

/-- The version of a record: a text still to be read, or a version. -/
inductive RecordVersion
  | written (text : String)
  | exact (version : Version)
deriving DecidableEq, Repr

/-- The version itself; a text is read leniently. -/
def RecordVersion.resolve : RecordVersion → Except Version.Error Version
  | written text => Version.coerce text
  | exact version => .ok version

/-- The version as messages show it. -/
def RecordVersion.text : RecordVersion → String
  | written text => text
  | exact version => version.text

/-- What is told about a package besides its identity and its features. -/
structure Package.About where
  description : Option String
  license : Option String
  authors : List String
  repository : Option String
  manifestPath : Option String
deriving DecidableEq, Repr

/-- One package as the input gives it.  The id may be any value. -/
structure PackageRecord where
  id : Datum
  name : String
  version : RecordVersion
  source : Source
  workspaceMember : Bool
  features : FeatureTable
  about : Package.About

/-- One package of a graph. -/
structure Package where
  id : PackageId
  name : String
  version : Version
  source : Source
  workspaceMember : Bool
  features : FeatureTable
  about : Package.About

namespace Package

/-- The package of a record whose id and version have been read. -/
def ofRecord (id : PackageId) (version : Version) (record : PackageRecord) : Package where
  id := id
  name := record.name
  version := version
  source := record.source
  workspaceMember := record.workspaceMember
  features := record.features
  about := record.about

/-- Why a record gives no package. -/
inductive RecordError
  | version (error : Version.Error)
  | id (error : LookupError)

/-- The error in words. -/
def RecordError.message : RecordError → String
  | version error => error.message
  | id error => error.message

/-- The package of a record that stands alone.  The version is read before the id. -/
def read (record : PackageRecord) : Except RecordError Package := do
  let version ← record.version.resolve.mapError .version
  let id ← (PackageId.read record.id).mapError .id
  return ofRecord id version record

/-- Name and version. -/
def fullName (package : Package) : String :=
  package.name ++ "@" ++ package.version.text

/-- The package as messages show it. -/
def shown (package : Package) : String :=
  "PackageMetadata(" ++ Text.quoted package.id.text ++ ")"

end Package

end CargoDeps
