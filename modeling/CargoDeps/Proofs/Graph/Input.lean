import CargoDeps.Graph.Construction

namespace CargoDeps

/-!
# Valid and faulty input

What each input record and edge has to be like, what it is wrong with it otherwise, and what it says
about the package or edge of a graph.  The checks of one item have an order, so that a faulty item
has one fault; it shows in the forms of `RecordFault` and `EdgeFault`.
-/

/-- A value writes an id: it is the text of the id. -/
def Datum.Writes (value : Datum) (id : PackageId) : Prop :=
  value = .text id.text

/-- A value writes a kind of dependency. -/
inductive Datum.WritesKind : Datum → DependencyKind → Prop
  | missing : WritesKind .null .normal
  | normal : WritesKind (.text "normal") .normal
  | build : WritesKind (.text "build") .build
  | dev : WritesKind (.text "dev") .development
  | development : WritesKind (.text "development") .development

/-- The platform of an edge is what its text specifies, or none where it has no text. -/
inductive TargetSpec.Given : Option String → Option TargetSpec → Prop
  | missing : Given none none
  | given
      {text : String}
      {spec : TargetSpec} :
      TargetSpec.parse text = .ok spec →
      Given (some text) (some spec)

theorem Datum.Writes.unique
    {value : Datum}
    {first second : PackageId}
    (writesFirst : value.Writes first)
    (writesSecond : value.Writes second) :
    first = second := by
  rw [Datum.Writes, writesFirst, Datum.text.injEq] at writesSecond
  exact PackageId.ext writesSecond

theorem PackageId.ofDatum?_eq_some_iff
    {value : Datum}
    {id : PackageId} :
    ofDatum? value = some id ↔ value.Writes id := by
  cases value with
  | text text =>
      by_cases empty : text = ""
      · simpa [ofDatum?, Datum.Writes, empty] using id.text_ne_empty.symm
      · simp [ofDatum?, Datum.Writes, empty, PackageId.ext_iff]
  | _ => simp [ofDatum?, Datum.Writes]

theorem DependencyKind.ofDatum?_eq_some_iff
    {value : Datum}
    {kind : DependencyKind} :
    ofDatum? value = some kind ↔ value.WritesKind kind := by
  constructor
  · intro found
    unfold ofDatum? at found
    split at found
    · obtain rfl := Option.some.inj found
      exact .missing
    · obtain rfl := Option.some.inj found
      exact .normal
    · obtain rfl := Option.some.inj found
      exact .build
    · obtain rfl := Option.some.inj found
      exact .dev
    · obtain rfl := Option.some.inj found
      exact .development
    · cases found
  · intro writes
    cases writes <;> rfl

/-- A value that writes a kind is read as that kind. -/
theorem DependencyKind.read_of_writes
    {value : Datum}
    {kind : DependencyKind}
    (writes : value.WritesKind kind) :
    read value = .ok kind := by
  rw [read, ofDatum?_eq_some_iff.mpr writes]

/-! ### Records -/

/-- A package is the one that a record describes. -/
structure PackageRecord.Gives
    (record : PackageRecord)
    (package : Package) : Prop where
  writes : record.id.Writes package.id
  version : record.version.resolve = .ok package.version
  eq_ofRecord : package = .ofRecord package.id package.version record

/-- Records give packages: all ids are well formed and distinct, and all versions can be read. -/
structure RecordsValid (records : List PackageRecord) : Prop where
  writes : ∀ record ∈ records, ∃ id, record.id.Writes id
  distinct : (records.map PackageRecord.id).Nodup
  version : ∀ record ∈ records, ∃ version, record.version.resolve = .ok version

/-- What is wrong with a record behind some others. -/
inductive RecordFault (earlier : List PackageRecord) (record : PackageRecord) : BuildError → Prop
  | malformedId :
      (∀ id, ¬record.id.Writes id) →
      RecordFault earlier record (.invalidField .packageId record.id earlier.length)
  | duplicate
      {id : PackageId} :
      record.id.Writes id →
      record.id ∈ earlier.map PackageRecord.id →
      RecordFault earlier record (.duplicatePackage id)
  | version
      {id : PackageId}
      {fault : Version.Error} :
      record.id.Writes id →
      record.id ∉ earlier.map PackageRecord.id →
      record.version.resolve = .error fault →
      RecordFault earlier record (.invalidVersion record.version.text id (.version fault))

/-- No record of a valid list is faulty. -/
theorem RecordsValid.not_fault
    {earlier later : List PackageRecord}
    {record : PackageRecord}
    {error : BuildError}
    (valid : RecordsValid (earlier ++ record :: later)) :
    ¬RecordFault earlier record error := by
  have member : record ∈ earlier ++ record :: later := by
    simp
  intro fault
  cases fault with
  | malformedId malformed =>
      obtain ⟨id, writes⟩ := valid.writes record member
      exact malformed id writes
  | duplicate _ known =>
      have distinct := valid.distinct
      rw [List.map_append, List.map_cons, List.nodup_append] at distinct
      exact distinct.2.2 _ known _ List.mem_cons_self rfl
  | version _ _ refused =>
      obtain ⟨version, resolved⟩ := valid.version record member
      rw [resolved] at refused
      cases refused

/-! ### Edges -/

/-- The ends of an edge are ids of records. -/
structure RawEdge.Joins
    (records : List PackageRecord)
    (raw : RawEdge)
    (source target : PackageId) : Prop where
  writes_source : raw.source.Writes source
  writes_target : raw.target.Writes target
  source_known : raw.source ∈ records.map PackageRecord.id
  target_known : raw.target ∈ records.map PackageRecord.id

/-- What the source of an edge calls the target: a new name that is not empty, or else the name in
the record of the target. -/
inductive RawEdge.Calls (records : List PackageRecord) (raw : RawEdge) : String → Prop
  | renamed
      {name : String} :
      raw.rename = some name →
      name ≠ "" →
      Calls records raw name
  | plain
      {record : PackageRecord} :
      raw.rename = none ∨ raw.rename = some "" →
      record ∈ records →
      record.id = raw.target →
      Calls records raw record.name

/-- An edge of a graph is the one that the input describes at a position. -/
structure RawEdge.Gives
    (records : List PackageRecord)
    (position : Nat)
    (raw : RawEdge)
    (edge : Edge) : Prop where
  index_eq : edge.index = position
  joins : raw.Joins records edge.source edge.target
  kind : raw.kind.WritesKind edge.kind
  calls : raw.Calls records edge.name
  platform : TargetSpec.Given raw.platform edge.platform
  requirement : Requirement.parse raw.requirement = .ok edge.requirement
  isOptional_eq : edge.isOptional = raw.isOptional
  rename_eq : edge.rename = raw.rename
  features_eq : edge.features = raw.features
  defaultFeatures_eq : edge.defaultFeatures = raw.defaultFeatures

/-- An edge of the input is sound: it joins ids of records, its kind is a known one, its platform, if
it has one, can be read, and so can its requirement. -/
structure EdgeValid
    (records : List PackageRecord)
    (raw : RawEdge) : Prop where
  joins : ∃ source target, raw.Joins records source target
  kind : ∃ kind, raw.kind.WritesKind kind
  platform : ∃ platform, TargetSpec.Given raw.platform platform
  requirement : ∃ requirement, Requirement.parse raw.requirement = .ok requirement

/-- What is wrong with the edge at a position of the input. -/
inductive EdgeFault
    (records : List PackageRecord)
    (position : Nat)
    (raw : RawEdge) : BuildError → Prop
  | malformedSource :
      (∀ id, ¬raw.source.Writes id) →
      EdgeFault records position raw (.invalidField .edgeSource raw.source position)
  | malformedTarget
      {source : PackageId} :
      raw.source.Writes source →
      (∀ id, ¬raw.target.Writes id) →
      EdgeFault records position raw (.invalidField .edgeTarget raw.target position)
  | unknownSource
      {source target : PackageId} :
      raw.source.Writes source →
      raw.target.Writes target →
      raw.source ∉ records.map PackageRecord.id →
      EdgeFault records position raw (.unknownDependency source source position)
  | unknownTarget
      {source target : PackageId} :
      raw.source.Writes source →
      raw.target.Writes target →
      raw.source ∈ records.map PackageRecord.id →
      raw.target ∉ records.map PackageRecord.id →
      EdgeFault records position raw (.unknownDependency source target position)
  | kind
      {source target : PackageId} :
      raw.Joins records source target →
      (∀ kind, ¬raw.kind.WritesKind kind) →
      EdgeFault records position raw (.invalidField .dependencyKind raw.kind position)
  | platform
      {source target : PackageId}
      {kind : DependencyKind}
      {text name : String}
      {fault : SpecError} :
      raw.Joins records source target →
      raw.kind.WritesKind kind →
      raw.platform = some text →
      raw.Calls records name →
      TargetSpec.parse text = .error fault →
      EdgeFault records position raw (.invalidPlatform text source name fault)
  | requirement
      {source target : PackageId}
      {kind : DependencyKind}
      {platform : Option TargetSpec}
      {fault : Requirement.Error} :
      raw.Joins records source target →
      raw.kind.WritesKind kind →
      TargetSpec.Given raw.platform platform →
      Requirement.parse raw.requirement = .error fault →
      EdgeFault records position raw
        (.invalidVersion raw.requirement source (.requirement fault))

theorem RawEdge.Gives.valid
    {records : List PackageRecord}
    {position : Nat}
    {raw : RawEdge}
    {edge : Edge}
    (gives : raw.Gives records position edge) :
    EdgeValid records raw where
  joins := ⟨edge.source, edge.target, gives.joins⟩
  kind := ⟨edge.kind, gives.kind⟩
  platform := ⟨edge.platform, gives.platform⟩
  requirement := ⟨edge.requirement, gives.requirement⟩

/-- No sound edge is faulty. -/
theorem EdgeValid.not_fault
    {records : List PackageRecord}
    {position : Nat}
    {raw : RawEdge}
    {error : BuildError}
    (valid : EdgeValid records raw) :
    ¬EdgeFault records position raw error := by
  obtain ⟨source, target, joins⟩ := valid.joins
  intro fault
  cases fault with
  | malformedSource malformed =>
      exact malformed source joins.writes_source
  | malformedTarget _ malformed =>
      exact malformed target joins.writes_target
  | unknownSource _ _ unknown =>
      exact unknown joins.source_known
  | unknownTarget _ _ _ unknown =>
      exact unknown joins.target_known
  | kind _ unknown =>
      obtain ⟨kind, writes⟩ := valid.kind
      exact unknown kind writes
  | platform _ _ isText _ fails =>
      obtain ⟨platform, given⟩ := valid.platform
      rw [isText] at given
      cases given with
      | given parses =>
          rw [parses] at fails
          cases fails
  | requirement _ _ _ fails =>
      obtain ⟨requirement, parses⟩ := valid.requirement
      rw [parses] at fails
      cases fails

end CargoDeps
