import CargoDeps.Proofs.Graph.Input
import CargoDeps.Proofs.Graph.Sample
import CargoDeps.Proofs.Sequence.Pairing
import Mathlib.Data.List.Nodup

namespace CargoDeps

/-!
# What construction makes of its input

Construction makes a graph of valid input.  Of any other input it tells the first fault, the records
before the edges, and what comes behind a fault never matters.
-/

namespace Catalog

variable {catalog : Catalog} {records : List PackageRecord} {position : Nat}

/-- The packages of a catalog are those that some records give, in their order. -/
def Lists (catalog : Catalog) (records : List PackageRecord) : Prop :=
  List.Forall₂ PackageRecord.Gives records catalog.packages

theorem lists_empty : Catalog.empty.Lists [] :=
  .nil

namespace Lists

theorem map_id_eq
    (lists : catalog.Lists records) :
    records.map PackageRecord.id = catalog.ids.map fun id => .text id.text := by
  rw [ids, List.map_map, ← List.forall₂_eq_eq_eq, List.forall₂_map_left_iff,
    List.forall₂_map_right_iff]
  exact lists.imp fun _ _ gives => gives.writes

theorem mem_ids_iff
    (lists : catalog.Lists records)
    {value : Datum}
    {id : PackageId}
    (writes : value.Writes id) :
    value ∈ records.map PackageRecord.id ↔ id ∈ catalog.ids := by
  rw [lists.map_id_eq, List.mem_map]
  constructor
  · intro found
    obtain ⟨other, member, same⟩ := found
    obtain rfl : other = id := Datum.Writes.unique same.symm writes
    exact member
  · intro member
    exact ⟨id, member, writes.symm⟩

/-- Records are valid if a catalog lists their packages. -/
theorem valid
    (lists : catalog.Lists records) :
    RecordsValid records where
  writes := by
    intro record member
    obtain ⟨package, _, gives⟩ := Sequence.exists_of_mem_left lists member
    exact ⟨package.id, gives.writes⟩
  distinct := by
    rw [lists.map_id_eq]
    refine catalog.distinct_ids.map ?_
    intro first second same
    exact PackageId.ext (Datum.text.inj same)
  version := by
    intro record member
    obtain ⟨package, _, gives⟩ := Sequence.exists_of_mem_left lists member
    exact ⟨package.version, gives.version⟩

end Lists

/-! ### Records -/

theorem readId_of_writes
    {field : InputField}
    {value : Datum}
    {id : PackageId}
    (writes : value.Writes id) :
    readId field position value = .ok id := by
  rw [readId, PackageId.ofDatum?_eq_some_iff.mpr writes]

theorem readId_of_malformed
    {field : InputField}
    {value : Datum}
    (malformed : ∀ id, ¬value.Writes id) :
    readId field position value = .error (.invalidField field value position) := by
  have unread : PackageId.ofDatum? value = none := by
    rw [Option.eq_none_iff_forall_ne_some]
    exact fun id found => malformed id (PackageId.ofDatum?_eq_some_iff.mp found)
  rw [readId, unread]

/-- Registering a record fails with what is wrong with it. -/
theorem register_of_fault
    {earlier : List PackageRecord}
    {record : PackageRecord}
    {error : BuildError}
    (lists : catalog.Lists earlier)
    (fault : RecordFault earlier record error) :
    catalog.register earlier.length record = .error error := by
  cases fault with
  | malformedId malformed =>
      rw [register, readId_of_malformed malformed]
  | duplicate writes known =>
      have isKnown := (lists.mem_ids_iff writes).mp known
      simp [register, readId_of_writes writes, isKnown]
  | version writes isNew refused =>
      have unknown := mt (lists.mem_ids_iff writes).mpr isNew
      simp [register, readId_of_writes writes, unknown, refused]

/-- Registering a record adds its package, unless something is wrong with the record. -/
theorem register_outcome
    {earlier : List PackageRecord}
    (lists : catalog.Lists earlier)
    (record : PackageRecord) :
    (∃ next, catalog.register earlier.length record = .ok next ∧ next.Lists (earlier ++ [record])) ∨
      ∃ error, RecordFault earlier record error := by
  by_cases writes : ∃ id, record.id.Writes id
  · obtain ⟨id, writes⟩ := writes
    by_cases isNew : id ∈ catalog.ids
    · exact Or.inr ⟨_, .duplicate writes ((lists.mem_ids_iff writes).mpr isNew)⟩
    · have unknown := mt (lists.mem_ids_iff writes).mp isNew
      cases resolved : record.version.resolve with
      | error fault =>
          exact Or.inr ⟨_, .version writes unknown resolved⟩
      | ok version =>
          refine Or.inl ⟨catalog.insert (Package.ofRecord id version record) isNew, ?_, ?_⟩
          · simp [register, readId_of_writes writes, isNew, resolved]
          · exact List.rel_append lists (.cons ⟨writes, resolved, rfl⟩ .nil)
  · exact Or.inr ⟨_, .malformedId (not_exists.mp writes)⟩

/-- Registering records in turn fails with the first thing that is wrong with one of them. -/
theorem registerAll_eq_error_iff
    {earlier records : List PackageRecord}
    {error : BuildError}
    (lists : catalog.Lists earlier) :
    catalog.registerAll earlier.length records = .error error ↔
      ∃ before record after,
        records = before ++ record :: after ∧
          RecordsValid (earlier ++ before) ∧ RecordFault (earlier ++ before) record error := by
  induction records generalizing catalog earlier with
  | nil =>
      simp [registerAll]
  | cons record rest inductionHypothesis =>
      rw [Sequence.exists_cut_cons_iff]
      rcases register_outcome lists record with registered | faulty
      · obtain ⟨next, isNext, nextLists⟩ := registered
        have valid : RecordsValid (earlier ++ [record]) := nextLists.valid
        have later := inductionHypothesis nextLists
        simp only [List.length_append, List.length_singleton, List.append_assoc,
          List.singleton_append] at later
        simp only [registerAll, isNext, later, List.append_nil, valid.not_fault, and_false,
          false_or]
      · obtain ⟨first, fault⟩ := faulty
        have fails := register_of_fault lists fault
        simp only [registerAll, fails, Except.error.injEq, List.append_nil]
        constructor
        · rintro rfl
          exact Or.inl ⟨lists.valid, fault⟩
        · intro cut
          rcases cut with ⟨_, other⟩ | ⟨before, _, _, _, valid, _⟩
          · rw [register_of_fault lists other] at fails
            exact (Except.error.inj fails).symm
          · exact absurd fault valid.not_fault

/-- Registering records in turn lists their packages. -/
theorem lists_registerAll
    {earlier records : List PackageRecord}
    {next : Catalog}
    (lists : catalog.Lists earlier)
    (registers : catalog.registerAll earlier.length records = .ok next) :
    next.Lists (earlier ++ records) := by
  induction records generalizing catalog earlier with
  | nil =>
      obtain rfl := Except.ok.inj registers
      simpa using lists
  | cons record rest inductionHypothesis =>
      rcases register_outcome lists record with registered | faulty
      · obtain ⟨middle, isMiddle, middleLists⟩ := registered
        have later := inductionHypothesis middleLists
        simp only [registerAll, isMiddle] at registers
        simpa using later (by simpa using registers)
      · obtain ⟨first, fault⟩ := faulty
        simp [registerAll, register_of_fault lists fault] at registers

/-! ### Edges -/

theorem readKind_of_writes
    {value : Datum}
    {kind : DependencyKind}
    (writes : value.WritesKind kind) :
    readKind position value = .ok kind := by
  rw [readKind, DependencyKind.read_of_writes writes]
  rfl

theorem readKind_of_unknown
    {value : Datum}
    (unknown : ∀ kind, ¬value.WritesKind kind) :
    readKind position value = .error (.invalidField .dependencyKind value position) := by
  have unread : DependencyKind.ofDatum? value = none := by
    rw [Option.eq_none_iff_forall_ne_some]
    exact fun kind found => unknown kind (DependencyKind.ofDatum?_eq_some_iff.mp found)
  simp [readKind, DependencyKind.read, unread, Except.mapError]

/-- The edge at a position between packages of the catalog, as far as its kind, its platform and its
requirement can be read. -/
def complete
    (position : Nat)
    (raw : RawEdge)
    (source target : PackageId)
    (package : Package) : Except BuildError Edge := do
  let name := dependencyName raw.rename package
  let kind ← readKind position raw.kind
  let platform ← readPlatform source name raw.platform
  let requirement ← readRequirement source raw.requirement
  return {
    index := position, source, target, kind, name, isOptional := raw.isOptional,
    rename := raw.rename, platform, requirement, features := raw.features,
    defaultFeatures := raw.defaultFeatures }

/-- The edge at a position, as a result without the proof that it joins packages. -/
theorem map_val_resolve
    (raw : RawEdge) :
    (catalog.resolve position raw).map Subtype.val = (do
      let source ← readId .edgeSource position raw.source
      let target ← readId .edgeTarget position raw.target
      match catalog.find? source, catalog.find? target with
      | none, _ => .error (.unknownDependency source source position)
      | some _, none => .error (.unknownDependency source target position)
      | some _, some package => complete position raw source target package) := by
  unfold resolve
  cases readId .edgeSource position raw.source with
  | error error => rfl
  | ok source =>
      cases readId .edgeTarget position raw.target with
      | error error => rfl
      | ok target =>
          simp only [bind, Except.bind]
          split
          · rename_i sourceMissing
            simp [sourceMissing, Except.map]
          · rename_i sourceFound targetMissing
            simp [sourceFound, targetMissing, Except.map]
          · rename_i package sourceFound targetFound
            simp only [sourceFound, targetFound, complete]
            cases readKind position raw.kind with
            | error error => rfl
            | ok kind =>
                cases readPlatform source (dependencyName raw.rename package) raw.platform with
                | error error => rfl
                | ok platform =>
                    cases readRequirement source raw.requirement <;> rfl

namespace Lists

variable {raw : RawEdge} {source target : PackageId}

theorem find?_eq_none
    (lists : catalog.Lists records)
    {value : Datum}
    {id : PackageId}
    (writes : value.Writes id)
    (unknown : value ∉ records.map PackageRecord.id) :
    catalog.find? id = none := by
  rw [lists.mem_ids_iff writes, ids, List.mem_map, not_exists] at unknown
  refine List.find?_eq_none.mpr fun package member => ?_
  simpa using fun same => unknown package ⟨member, same⟩

theorem exists_find?_eq_some
    (lists : catalog.Lists records)
    {value : Datum}
    {id : PackageId}
    (writes : value.Writes id)
    (known : value ∈ records.map PackageRecord.id) :
    ∃ package, catalog.find? id = some package := by
  obtain ⟨package, member, same⟩ := List.mem_map.mp ((lists.mem_ids_iff writes).mp known)
  rw [← Option.isSome_iff_exists, find?, List.find?_isSome]
  exact ⟨package, member, by simpa using same⟩

/-- The name that the target of an edge goes by depends on its package only. -/
theorem calls_iff
    (lists : catalog.Lists records)
    (writes : raw.target.Writes target)
    {package : Package}
    (found : catalog.find? target = some package)
    {name : String} :
    raw.Calls records name ↔ dependencyName raw.rename package = name := by
  have isTarget : package.id = target := by
    simpa using List.find?_some found
  obtain ⟨record, member, gives⟩ :=
    Sequence.exists_of_mem_right lists (List.mem_of_find?_eq_some found)
  have sameId : record.id = raw.target := by
    rw [gives.writes, isTarget, writes]
  have sameName : record.name = package.name := by
    rw [gives.eq_ofRecord]
    rfl
  constructor
  · intro calls
    cases calls with
    | renamed isNew nonempty =>
        simp [dependencyName, isNew, nonempty]
    | plain unnamed otherMember otherId =>
        obtain rfl :=
          List.inj_on_of_nodup_map lists.valid.distinct otherMember member
            (otherId.trans sameId.symm)
        rcases unnamed with missing | empty
        · simp [dependencyName, missing, sameName]
        · simp [dependencyName, empty, sameName]
  · rintro rfl
    cases rename : raw.rename with
    | none =>
        rw [dependencyName, ← sameName]
        exact .plain (Or.inl rename) member sameId
    | some name =>
        by_cases empty : name = ""
        · rw [dependencyName, if_pos empty, ← sameName]
          exact .plain (Or.inr (empty ▸ rename)) member sameId
        · rw [dependencyName, if_neg empty]
          exact .renamed rename empty

end Lists

/-- Where the ends of an edge are known, what is left to read are its kind, its platform and its
requirement. -/
theorem map_val_resolve_of_joins
    {raw : RawEdge}
    {source target : PackageId}
    (lists : catalog.Lists records)
    (joins : raw.Joins records source target)
    (position : Nat) :
    ∃ package,
      catalog.find? target = some package ∧
        (catalog.resolve position raw).map Subtype.val =
          complete position raw source target package := by
  obtain ⟨sourcePackage, sourceFound⟩ :=
    lists.exists_find?_eq_some joins.writes_source joins.source_known
  obtain ⟨package, found⟩ := lists.exists_find?_eq_some joins.writes_target joins.target_known
  refine ⟨package, found, ?_⟩
  rw [map_val_resolve, readId_of_writes joins.writes_source, readId_of_writes joins.writes_target]
  simp only [bind, Except.bind, sourceFound, found]

theorem readPlatform_eq_error_iff
    {source : PackageId}
    {name : String}
    {platform : Option String}
    {error : BuildError} :
    readPlatform source name platform = .error error ↔
      ∃ text fault,
        platform = some text ∧
          TargetSpec.parse text = .error fault ∧
            .invalidPlatform text source name fault = error := by
  cases platform with
  | none =>
      simp [readPlatform]
  | some text =>
      cases outcome : TargetSpec.parse text <;> simp [readPlatform, outcome]

theorem readPlatform_eq_ok_iff
    {source : PackageId}
    {name : String}
    {text : Option String}
    {platform : Option TargetSpec} :
    readPlatform source name text = .ok platform ↔ TargetSpec.Given text platform := by
  constructor
  · intro reads
    cases text with
    | none =>
        obtain rfl := Except.ok.inj reads
        exact .missing
    | some text =>
        cases outcome : TargetSpec.parse text with
        | error fault =>
            simp [readPlatform, outcome] at reads
        | ok spec =>
            obtain rfl : some spec = platform := by
              simpa [readPlatform, outcome] using reads
            exact .given outcome
  · intro given
    cases given with
    | missing =>
        rfl
    | given parses =>
        simp [readPlatform, parses]

theorem readRequirement_eq_ok_iff
    {source : PackageId}
    {text : String}
    {requirement : Requirement} :
    readRequirement source text = .ok requirement ↔ Requirement.parse text = .ok requirement := by
  cases outcome : Requirement.parse text <;> simp [readRequirement, outcome]

theorem readRequirement_eq_error_iff
    {source : PackageId}
    {text : String}
    {error : BuildError} :
    readRequirement source text = .error error ↔
      ∃ fault,
        Requirement.parse text = .error fault ∧
          .invalidVersion text source (.requirement fault) = error := by
  cases outcome : Requirement.parse text <;> simp [readRequirement, outcome]

/-- The edge at a position cannot be made where something is wrong with it. -/
theorem resolve_of_fault
    {raw : RawEdge}
    {error : BuildError}
    (lists : catalog.Lists records)
    (fault : EdgeFault records position raw error) :
    catalog.resolve position raw = .error error := by
  have fails : (catalog.resolve position raw).map Subtype.val = .error error := by
    cases fault with
    | malformedSource malformed =>
        rw [map_val_resolve, readId_of_malformed malformed]
        rfl
    | malformedTarget writes malformed =>
        rw [map_val_resolve, readId_of_writes writes, readId_of_malformed malformed]
        rfl
    | unknownSource writesSource writesTarget unknown =>
        simp only [map_val_resolve, readId_of_writes writesSource, readId_of_writes writesTarget,
          bind, Except.bind, lists.find?_eq_none writesSource unknown]
    | unknownTarget writesSource writesTarget known unknown =>
        obtain ⟨package, found⟩ := lists.exists_find?_eq_some writesSource known
        simp only [map_val_resolve, readId_of_writes writesSource, readId_of_writes writesTarget,
          bind, Except.bind, found, lists.find?_eq_none writesTarget unknown]
    | kind joins unknown =>
        obtain ⟨package, _, shape⟩ := map_val_resolve_of_joins lists joins position
        rw [shape, complete, readKind_of_unknown unknown]
        rfl
    | @platform source target kind text name reason joins writes isText calls refused =>
        obtain ⟨package, found, shape⟩ := map_val_resolve_of_joins lists joins position
        obtain rfl := (lists.calls_iff joins.writes_target found).mp calls
        have unread :
            readPlatform source (dependencyName raw.rename package) raw.platform =
              .error (.invalidPlatform text source (dependencyName raw.rename package) reason) :=
          readPlatform_eq_error_iff.mpr ⟨text, reason, isText, refused, rfl⟩
        simp only [shape, complete, readKind_of_writes writes, unread, bind, Except.bind]
    | @requirement source target kind platform reason joins writes given refused =>
        obtain ⟨package, found, shape⟩ := map_val_resolve_of_joins lists joins position
        have unread :
            readRequirement source raw.requirement =
              .error (.invalidVersion raw.requirement source (.requirement reason)) :=
          readRequirement_eq_error_iff.mpr ⟨reason, refused, rfl⟩
        simp only [shape, complete, readKind_of_writes writes, readPlatform_eq_ok_iff.mpr given,
          unread, bind, Except.bind]
  cases outcome : catalog.resolve position raw with
  | error other =>
      simpa [outcome, Except.map] using fails
  | ok edge =>
      simp [outcome, Except.map] at fails

/-- Where the ends and the kind of an edge are known, the edge is the one that the input gives, unless
something is wrong with its platform or its requirement. -/
theorem resolve_outcome_of_joins
    {raw : RawEdge}
    {source target : PackageId}
    {kind : DependencyKind}
    (lists : catalog.Lists records)
    (joins : raw.Joins records source target)
    (writes : raw.kind.WritesKind kind)
    (position : Nat) :
    (∃ edge, catalog.resolve position raw = .ok edge ∧ raw.Gives records position edge.val) ∨
      ∃ error, EdgeFault records position raw error := by
  obtain ⟨package, found, shape⟩ := map_val_resolve_of_joins lists joins position
  have calls : raw.Calls records (dependencyName raw.rename package) :=
    (lists.calls_iff joins.writes_target found).mpr rfl
  cases platformRead : readPlatform source (dependencyName raw.rename package) raw.platform with
  | error error =>
      obtain ⟨text, fault, isText, refused, rfl⟩ := readPlatform_eq_error_iff.mp platformRead
      exact Or.inr ⟨_, .platform joins writes isText calls refused⟩
  | ok platform =>
      have given := readPlatform_eq_ok_iff.mp platformRead
      cases requirementRead : readRequirement source raw.requirement with
      | error error =>
          obtain ⟨fault, refused, rfl⟩ := readRequirement_eq_error_iff.mp requirementRead
          exact Or.inr ⟨_, .requirement joins writes given refused⟩
      | ok requirement =>
          have parses := readRequirement_eq_ok_iff.mp requirementRead
          simp only [complete, readKind_of_writes writes, platformRead, requirementRead, bind,
            Except.bind] at shape
          cases outcome : catalog.resolve position raw with
          | error error =>
              rw [outcome] at shape
              cases shape
          | ok edge =>
              rw [outcome] at shape
              refine Or.inl ⟨edge, rfl, ?_⟩
              rw [Except.ok.inj shape]
              exact ⟨rfl, joins, writes, calls, given, parses, rfl, rfl, rfl, rfl⟩

/-- The edge at a position is the one that the input gives, unless something is wrong with it. -/
theorem resolve_outcome
    (lists : catalog.Lists records)
    (position : Nat)
    (raw : RawEdge) :
    (∃ edge, catalog.resolve position raw = .ok edge ∧ raw.Gives records position edge.val) ∨
      ∃ error, EdgeFault records position raw error := by
  by_cases writesSource : ∃ id, raw.source.Writes id
  · obtain ⟨source, writesSource⟩ := writesSource
    by_cases writesTarget : ∃ id, raw.target.Writes id
    · obtain ⟨target, writesTarget⟩ := writesTarget
      by_cases sourceKnown : raw.source ∈ records.map PackageRecord.id
      · by_cases targetKnown : raw.target ∈ records.map PackageRecord.id
        · have joins : raw.Joins records source target :=
            ⟨writesSource, writesTarget, sourceKnown, targetKnown⟩
          by_cases writes : ∃ kind, raw.kind.WritesKind kind
          · obtain ⟨kind, writes⟩ := writes
            exact resolve_outcome_of_joins lists joins writes position
          · exact Or.inr ⟨_, .kind joins (not_exists.mp writes)⟩
        · exact Or.inr ⟨_, .unknownTarget writesSource writesTarget sourceKnown targetKnown⟩
      · exact Or.inr ⟨_, .unknownSource writesSource writesTarget sourceKnown⟩
    · exact Or.inr ⟨_, .malformedTarget writesSource (not_exists.mp writesTarget)⟩
  · exact Or.inr ⟨_, .malformedSource (not_exists.mp writesSource)⟩

/-- Making the edges in turn fails with the first thing that is wrong with one of them. -/
theorem resolveAll_eq_error_iff
    (lists : catalog.Lists records)
    {edges : List RawEdge}
    {error : BuildError} :
    catalog.resolveAll position edges = .error error ↔
      ∃ before raw after,
        edges = before ++ raw :: after ∧
          (∀ other ∈ before, EdgeValid records other) ∧
            EdgeFault records (position + before.length) raw error := by
  induction edges generalizing position with
  | nil =>
      simp [resolveAll]
  | cons raw rest inductionHypothesis =>
      rw [Sequence.exists_cut_cons_iff]
      rcases resolve_outcome lists position raw with resolved | faulty
      · obtain ⟨edge, isEdge, gives⟩ := resolved
        have later :
            catalog.resolveAll position (raw :: rest) = .error error ↔
              catalog.resolveAll (position + 1) rest = .error error := by
          cases outcome : catalog.resolveAll (position + 1) rest <;>
            simp [resolveAll, isEdge, outcome, bind, Except.bind, pure, Except.pure]
        have shift : ∀ length, position + 1 + length = position + (length + 1) := by
          omega
        simp only [later, inductionHypothesis, shift, gives.valid, gives.valid.not_fault,
          List.forall_mem_cons, List.length_cons, and_false, false_or, true_and]
      · obtain ⟨first, fault⟩ := faulty
        have fails := resolve_of_fault lists fault
        simp only [resolveAll, fails, bind, Except.bind, Except.error.injEq]
        constructor
        · rintro rfl
          exact Or.inl ⟨List.forall_mem_nil _, fault⟩
        · intro cut
          rcases cut with ⟨_, other⟩ | ⟨before, _, _, _, valid, _⟩
          · rw [List.length_nil, Nat.add_zero] at other
            rw [resolve_of_fault lists other] at fails
            exact (Except.error.inj fails).symm
          · exact absurd fault (valid raw List.mem_cons_self).not_fault

/-- The edges made in turn are those that the input gives, each at its position. -/
theorem gives_resolveAll
    (lists : catalog.Lists records)
    {edges : List RawEdge}
    {linked : catalog.Linked position}
    (resolves : catalog.resolveAll position edges = .ok linked) :
    List.Forall₂ (fun item edge => item.1.Gives records item.2 edge) (edges.zipIdx position)
      linked.edges := by
  induction edges generalizing position with
  | nil =>
      obtain rfl := Except.ok.inj resolves
      exact .nil
  | cons raw rest inductionHypothesis =>
      rcases resolve_outcome lists position raw with resolved | faulty
      · obtain ⟨edge, isEdge, gives⟩ := resolved
        cases outcome : catalog.resolveAll (position + 1) rest with
        | error error =>
            simp [resolveAll, isEdge, outcome, bind, Except.bind] at resolves
        | ok later =>
            simp only [resolveAll, isEdge, outcome, bind, Except.bind] at resolves
            obtain rfl := Except.ok.inj resolves
            exact .cons gives (inductionHypothesis outcome)
      · obtain ⟨error, fault⟩ := faulty
        simp [resolveAll, resolve_of_fault lists fault, bind, Except.bind] at resolves

end Catalog

/-! ### Graphs -/

/-- The first fault in the input: that of the first faulty record, or that of the first faulty edge
if no record is faulty. -/
inductive FirstFault (records : List PackageRecord) (edges : List RawEdge) : BuildError → Prop
  | record
      {earlier later : List PackageRecord}
      {record : PackageRecord}
      {error : BuildError} :
      records = earlier ++ record :: later →
      RecordsValid earlier →
      RecordFault earlier record error →
      FirstFault records edges error
  | edge
      {earlier later : List RawEdge}
      {raw : RawEdge}
      {error : BuildError} :
      RecordsValid records →
      edges = earlier ++ raw :: later →
      (∀ other ∈ earlier, EdgeValid records other) →
      EdgeFault records earlier.length raw error →
      FirstFault records edges error

/-- Valid input has no fault. -/
theorem FirstFault.not_valid
    {records : List PackageRecord}
    {edges : List RawEdge}
    {error : BuildError}
    (fault : FirstFault records edges error) :
    ¬(RecordsValid records ∧ ∀ raw ∈ edges, EdgeValid records raw) := by
  intro valid
  cases fault with
  | record shape _ faulty =>
      exact RecordsValid.not_fault (shape ▸ valid.1) faulty
  | edge _ shape _ faulty =>
      exact (valid.2 _ (by simp [shape])).not_fault faulty

namespace PackageGraph

variable {records : List PackageRecord} {edges : List RawEdge} {root : Option String}

/-- What construction makes of its input are the packages and edges that the input gives, and its
workspace holds the packages that are marked as members. -/
theorem gives_build
    {graph : PackageGraph}
    (builds : build records edges root = .ok graph) :
    List.Forall₂ PackageRecord.Gives records graph.packages ∧
      List.Forall₂ (fun item edge => item.1.Gives records item.2 edge) edges.zipIdx graph.edges ∧
        graph.workspace =
          ⟨root, (graph.packages.filter Package.workspaceMember).map Package.id⟩ := by
  unfold build at builds
  cases registered : Catalog.empty.registerAll 0 records with
  | error error =>
      simp [registered, bind, Except.bind] at builds
  | ok catalog =>
      have lists : catalog.Lists records :=
        Catalog.lists_registerAll Catalog.lists_empty registered
      cases resolved : catalog.resolveAll 0 edges with
      | error error =>
          simp [registered, resolved, bind, Except.bind] at builds
      | ok linked =>
          simp only [registered, resolved, bind, Except.bind] at builds
          obtain rfl := Except.ok.inj builds
          exact ⟨lists, Catalog.gives_resolveAll lists resolved, rfl⟩

/-- Construction fails with the first fault in its input. -/
theorem build_eq_error_iff
    {error : BuildError} :
    build records edges root = .error error ↔ FirstFault records edges error := by
  have onRecords : ∀ error, Catalog.empty.registerAll 0 records = .error error ↔
      ∃ before record after,
        records = before ++ record :: after ∧
          RecordsValid before ∧ RecordFault before record error :=
    fun _ => Catalog.registerAll_eq_error_iff Catalog.lists_empty
  unfold build
  cases registered : Catalog.empty.registerAll 0 records with
  | error first =>
      obtain ⟨before, record, after, shape, valid, faulty⟩ := (onRecords first).mp registered
      simp only [bind, Except.bind, Except.error.injEq]
      constructor
      · rintro rfl
        exact .record shape valid faulty
      · intro fault
        cases fault with
        | record shape valid faulty =>
            have fails := (onRecords error).mpr ⟨_, _, _, shape, valid, faulty⟩
            exact Except.error.inj (registered.symm.trans fails)
        | edge recordsValid _ _ _ =>
            exact absurd faulty (RecordsValid.not_fault (shape ▸ recordsValid))
  | ok catalog =>
      have lists : catalog.Lists records :=
        Catalog.lists_registerAll Catalog.lists_empty registered
      have onEdges : catalog.resolveAll 0 edges = .error error ↔ _ :=
        Catalog.resolveAll_eq_error_iff lists
      simp only [Nat.zero_add] at onEdges
      have reduces :
          (do
            let linked ← catalog.resolveAll 0 edges
            return PackageGraph.ofParts catalog.packages linked.edges (catalog.workspace root)
              catalog.distinct_ids linked.ascending linked.source_mem linked.target_mem) =
              .error error ↔
            catalog.resolveAll 0 edges = .error error := by
        cases catalog.resolveAll 0 edges <;> simp [bind, Except.bind, pure, Except.pure]
      refine reduces.trans (onEdges.trans ⟨?_, ?_⟩)
      · intro cut
        obtain ⟨before, raw, after, shape, valid, faulty⟩ := cut
        exact .edge lists.valid shape valid faulty
      · intro fault
        cases fault with
        | record shape _ faulty =>
            exact absurd faulty (RecordsValid.not_fault (shape ▸ lists.valid))
        | edge _ shape valid faulty =>
            exact ⟨_, _, _, shape, valid, faulty⟩

/-- Construction makes a graph exactly of valid input. -/
theorem exists_build_eq_ok_iff :
    (∃ graph, build records edges root = .ok graph) ↔
      RecordsValid records ∧ ∀ raw ∈ edges, EdgeValid records raw := by
  constructor
  · intro builds
    obtain ⟨graph, builds⟩ := builds
    obtain ⟨packages, links, _⟩ := gives_build builds
    have lists : Catalog.Lists ⟨graph.packages, graph.distinct_ids⟩ records := packages
    refine ⟨lists.valid, fun raw member => ?_⟩
    rw [← List.zipIdx_map_fst 0 edges] at member
    obtain ⟨item, itemMember, rfl⟩ := List.mem_map.mp member
    obtain ⟨edge, _, gives⟩ := Sequence.exists_of_mem_left links itemMember
    exact gives.valid
  · intro valid
    cases outcome : build records edges root with
    | error error =>
        exact absurd valid (build_eq_error_iff.mp outcome).not_valid
    | ok graph =>
        exact ⟨graph, rfl⟩

/--
Construction makes a graph exactly of valid records and edges, and of any others it tells the first
fault.  Whatever stands behind the faulty item, be it records or edges, never changes the error.
-/
theorem build_outcomes
    (records : List PackageRecord)
    (edges : List RawEdge)
    (root : Option String) :
    ((∃ graph, build records edges root = .ok graph) ↔
      RecordsValid records ∧ ∀ raw ∈ edges, EdgeValid records raw) ∧
    (∀ error, build records edges root = .error error ↔ FirstFault records edges error) ∧
    (∀ record error,
      RecordsValid records →
      RecordFault records record error →
      ∀ later others, build (records ++ record :: later) others root = .error error) ∧
    (∀ raw error,
      RecordsValid records →
      (∀ other ∈ edges, EdgeValid records other) →
      EdgeFault records edges.length raw error →
      ∀ later, build records (edges ++ raw :: later) root = .error error) := by
  refine ⟨exists_build_eq_ok_iff, fun _ => build_eq_error_iff, ?_, ?_⟩
  · intro record error valid fault later others
    exact build_eq_error_iff.mpr (.record rfl valid fault)
  · intro raw error recordsValid edgesValid fault later
    exact build_eq_error_iff.mpr (.edge recordsValid rfl edgesValid fault)

/-- A record whose id is taken and whose version cannot be read is a duplicate.  An edge to the empty
text, of no known kind, has a malformed target. -/
theorem build_outcomes_coinciding :
    (∀ later others,
      build
          ([.sample (.text "lib 1.0.0") "1.0.0"] ++ .sample (.text "lib 1.0.0") "one.two" :: later)
          others none =
        .error (.duplicatePackage Paired.lib)) ∧
    ∀ later,
      build [.sample (.text "lib 1.0.0") "1.0.0"]
          ([.sample (.text "lib 1.0.0") (.text "lib 1.0.0") .null] ++
            .sample (.text "lib 1.0.0") (.text "") (.text "test") :: later)
          none =
        .error (.invalidField .edgeTarget (.text "") 1) := by
  have writes : Datum.Writes (.text "lib 1.0.0") Paired.lib := rfl
  have recordsValid : RecordsValid [.sample (.text "lib 1.0.0") "1.0.0"] := by
    refine ⟨by simpa using ⟨Paired.lib, writes⟩, by simp, ?_⟩
    have reads : Version.coerce "1.0.0" = .ok (.release 1 0 0) := by
      cbv
    simpa using ⟨_, reads⟩
  have edgesValid :
      ∀ other ∈ [RawEdge.sample (.text "lib 1.0.0") (.text "lib 1.0.0") .null],
        EdgeValid [.sample (.text "lib 1.0.0") "1.0.0"] other := by
    have reads : ∃ requirement, Requirement.parse "*" = .ok requirement := by
      exact ⟨_, rfl⟩
    rw [List.forall_mem_singleton]
    exact ⟨⟨Paired.lib, Paired.lib, writes, writes, List.mem_cons_self, List.mem_cons_self⟩,
      ⟨_, .missing⟩, ⟨_, .missing⟩, reads⟩
  constructor
  · intro later others
    obtain ⟨_, _, onRecord, _⟩ := build_outcomes [.sample (.text "lib 1.0.0") "1.0.0"] [] none
    exact onRecord _ _ recordsValid (.duplicate writes List.mem_cons_self) later others
  · intro later
    obtain ⟨_, _, _, onEdge⟩ :=
      build_outcomes [.sample (.text "lib 1.0.0") "1.0.0"]
        [.sample (.text "lib 1.0.0") (.text "lib 1.0.0") .null] none
    have malformed : ∀ id, ¬Datum.Writes (.text "") id := by
      intro id writes
      exact id.text_ne_empty (Datum.text.inj writes).symm
    exact onEdge _ _ recordsValid edgesValid (.malformedTarget writes malformed) later

end PackageGraph

end CargoDeps
