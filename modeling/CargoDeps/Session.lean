import CargoDeps.Feature.Activation
import CargoDeps.Journal
import CargoDeps.Query

namespace CargoDeps

/-!
# Sessions

Work on one graph and the graphs and results that follow from it.  Graphs and results are kept
under names.  The part of a graph that belongs to a result is made once, and so is the feature graph
of a graph; the journal tells of each event when it happens, so of these once only.
-/

/-! ### Values made once

A cell keeps the first value that its maker gives and never asks again.  A maker that fails leaves
the cell empty, so that the next access asks once more. -/

/-- A cell that is empty until its value is made. -/
structure OnceCell (α : Type) where
  value? : Option α

namespace OnceCell

variable {α ε σ : Type}

/-- The cell whose value has not been made. -/
def empty : OnceCell α := ⟨none⟩

/-- Whether the value has been made. -/
def isFull (cell : OnceCell α) : Bool :=
  cell.value?.isSome

/-- The value of the cell, and the cell and the maker's state after the access.  The maker runs only
if the cell is empty. -/
def get (cell : OnceCell α) (make : σ → Except ε α × σ) (state : σ) :
    Except ε α × OnceCell α × σ :=
  match cell.value? with
  | some value => (.ok value, cell, state)
  | none =>
      match make state with
      | (.ok value, state) => (.ok value, ⟨some value⟩, state)
      | (.error error, state) => (.error error, cell, state)

/-- A full cell gives its value, whatever the maker. -/
theorem get_of_value {cell : OnceCell α} {value : α} (full : cell.value? = some value)
    (make : σ → Except ε α × σ) (state : σ) :
    cell.get make state = (.ok value, cell, state) := by
  simp [get, full]

/-- What an access gives is what the cell holds afterwards. -/
theorem value?_of_get {cell after : OnceCell α} {make : σ → Except ε α × σ} {state later : σ}
    {value : α} (access : cell.get make state = (.ok value, after, later)) :
    after.value? = some value := by
  unfold get at access
  split at access
  · next present => simp_all
  · split at access <;> simp_all
    obtain ⟨rfl, rfl, _⟩ := access
    rfl

end OnceCell

/-! ### The state of a session -/

/-- Which of the graphs of a session is meant.  Graphs that are made separately differ, even if they
look alike. -/
abbrev GraphRef := Nat

/-- A graph and its feature graph. -/
structure GraphSlot where
  graph : PackageGraph
  features : OnceCell FeatureGraph

/-- A result, the graph it was asked of, and the graph of what it reached. -/
structure ResultSlot where
  origin : GraphRef
  result : QueryResult
  subgraph : OnceCell GraphRef

/-- The graphs and results of a session, and what has happened so far. -/
structure Session where
  graphs : List GraphSlot
  graphNames : List (String × GraphRef)
  results : List (String × ResultSlot)
  journal : List Event

/-- Why a step of a session fails. -/
inductive SessionError
  | lookup (error : LookupError)
  | walk (error : FeatureGraph.WalkError)
  | activation (error : ActivationError)
  | badDirection (message : String)
  | differentGraphs
  | frozen
  | noSuchName (name : String)
  | position (error : PositionError)

/-- The error in words. -/
def SessionError.message : SessionError → String
  | lookup error => error.message
  | walk error => error.message
  | activation error => error.message
  | badDirection message => message
  | differentGraphs => "query results must come from the same graph"
  | frozen => "Frozen graph can't be modified"
  | noSuchName name => Text.quoted name
  | position error => error.message

/-- A step of a session.  What it did stays done if it fails. -/
abbrev Step (α : Type) := ExceptT SessionError (StateM Session) α

namespace Session

/-- The name of the graph that a session starts with. -/
def firstName : String := "g"

/-- The session that starts with a graph just built. -/
def start (graph : PackageGraph) : Session where
  graphs := [⟨graph, .empty⟩]
  graphNames := [(firstName, 0)]
  results := []
  journal := [.ofBuild graph]

/-- The session with nothing told yet. -/
def withoutJournal (session : Session) : Session :=
  { session with journal := [] }

/-- Put an entry in front of all others of its name. -/
def assign {α : Type} (name : String) (value : α) (entries : List (String × α)) :
    List (String × α) :=
  (name, value) :: entries.filter fun entry => entry.1 ≠ name

/-- Change the value of the entries of a name. -/
def replace {α : Type} (name : String) (value : α) (entries : List (String × α)) :
    List (String × α) :=
  entries.map fun (other, kept) => if other = name then (other, value) else (other, kept)

/-- The session with one more graph, the number of that graph, and the event of making it. -/
def addGraph (session : Session) (graph : PackageGraph) (event : Event) : GraphRef × Session :=
  (session.graphs.length,
    { session with
      graphs := session.graphs ++ [⟨graph, .empty⟩]
      journal := session.journal ++ [event] })

end Session

namespace Step

/-- What a value or an error is in a session. -/
def ofExcept {α ε : Type} (wrap : ε → SessionError) : Except ε α → Step α
  | .ok value => pure value
  | .error error => throw (wrap error)

/-- Tell of an event. -/
def note (event : Event) : Step Unit :=
  modify fun session => { session with journal := session.journal ++ [event] }

/-! ### Names -/

/-- The graph with a name. -/
def graphNamed (name : String) : Step GraphRef := do
  match (← get).graphNames.lookup name with
  | some ref => return ref
  | none => throw (.noSuchName name)

/-- The graph with a number. -/
def slotAt (ref : GraphRef) : Step GraphSlot := do
  match (← get).graphs[ref]? with
  | some slot => return slot
  | none => throw (.noSuchName (toString ref))

/-- The graph with a number. -/
def graphAt (ref : GraphRef) : Step PackageGraph :=
  return (← slotAt ref).graph

/-- The result with a name. -/
def resultNamed (name : String) : Step ResultSlot := do
  match (← get).results.lookup name with
  | some slot => return slot
  | none => throw (.noSuchName name)

/-- Keep a graph under a name, if one is given. -/
def saveGraph (name? : Option String) (ref : GraphRef) : Step Unit :=
  match name? with
  | none => return
  | some name =>
      modify fun session =>
        { session with graphNames := Session.assign name ref session.graphNames }

/-- Keep a result of a graph under a name, if one is given. -/
def saveResult (name? : Option String) (origin : GraphRef) (result : QueryResult) : Step Unit :=
  match name? with
  | none => return
  | some name =>
      modify fun session =>
        { session with results := Session.assign name ⟨origin, result, .empty⟩ session.results }

/-! ### Reading questions -/

/-- The id that a value writes. -/
def id (value : Datum) : Step PackageId :=
  ofExcept .lookup (PackageId.read value)

/-- The id that a value writes, which has to be that of a package of a graph. -/
def idIn (graph : PackageGraph) (value : Datum) : Step PackageId :=
  ofExcept .lookup (graph.readId value)

/-- The direction that a value writes. -/
def direction (value : Datum) : Step Direction :=
  ofExcept .badDirection (Direction.ofDatum value)

/-! ### Queries -/

/-- Ask a graph what roots reach.  The direction is read before the roots. -/
def query (ref : GraphRef) (roots : List Datum) (direction : Datum) (chosen : EdgePredicate) :
    Step QueryResult := do
  let graph ← graphAt ref
  let direction ← Step.direction direction
  let roots ← roots.mapM (idIn graph)
  let result ← ofExcept .lookup (graph.query roots direction chosen)
  note (.ofQuery result)
  return result

/-- The graph of what a result reached, which is made on the first access. -/
def subgraphOf (name : String) : Step GraphRef := do
  let slot ← resultNamed name
  let make (session : Session) : Except SessionError GraphRef × Session :=
    let part := slot.result.subgraph
    let (ref, session) := session.addGraph part (.ofRestriction slot.result.graph part)
    (.ok ref, session)
  let (ref, cell, session) := slot.subgraph.get make (← get)
  set { session with
    results := Session.replace name { slot with subgraph := cell } session.results }
  ofExcept (fun error => error) ref

/-- Restrict a graph to some packages and chosen edges. -/
def restrict (ref : GraphRef) (ids : List PackageId) (chosen : EdgePredicate) :
    Step GraphRef := do
  let graph ← graphAt ref
  let part := graph.restrict ids chosen
  let (ref, session) := (← get).addGraph part (.ofRestriction graph part)
  set session
  return ref

/-- Combine two results, which have to be of the same graph. -/
def combine (how : QueryResult → QueryResult → QueryResult) (first second : String) :
    Step (GraphRef × QueryResult) := do
  let first ← resultNamed first
  let second ← resultNamed second
  if first.origin = second.origin then
    return (first.origin, how first.result second.result)
  else
    throw .differentGraphs

/-- The top or bottom packages of a result.  The direction is read after the graph of the result is
made. -/
def rootIds (name : String) (direction : Datum) : Step (List PackageId) := do
  let slot ← resultNamed name
  let _ ← subgraphOf name
  return slot.result.rootIds (← Step.direction direction)

/-- The packages of a result in dependency order.  The direction is read last. -/
def orderedIds (name : String) (direction : Datum) : Step (List PackageId) := do
  let slot ← resultNamed name
  let _ ← subgraphOf name
  return slot.result.orderedIds (← Step.direction direction)

/-- Whether one package depends on another. -/
def dependsOn (ref : GraphRef) (source target : Datum) (chosen : EdgePredicate) : Step Bool := do
  let graph ← graphAt ref
  let source ← idIn graph source
  let target ← idIn graph target
  return graph.dependsOn source target chosen

/-- Whether two packages depend on each other. -/
def isCyclic (ref : GraphRef) (first second : Datum) (chosen : EdgePredicate) : Step Bool := do
  let graph ← graphAt ref
  let first ← idIn graph first
  let second ← idIn graph second
  return graph.isCyclic first second chosen

/-- The cycles of a graph. -/
def findCycles (ref : GraphRef) (chosen : EdgePredicate) : Step (List Cycle) := do
  let graph ← graphAt ref
  let cycles := graph.findCycles chosen
  note (.cyclesFound cycles.length graph.shown)
  return cycles

/-- Change a graph in place, which is never allowed. -/
def changeGraph (ref : GraphRef) : Step Unit := do
  let _ ← graphAt ref
  throw .frozen

/-! ### Features -/

/-- The feature graph of a graph, which is derived on the first access. -/
def featureGraph (ref : GraphRef) : Step FeatureGraph := do
  let slot ← slotAt ref
  let make (journal : List Event) : Except SessionError FeatureGraph × List Event :=
    let features := slot.graph.featureGraph
    (.ok features, journal ++ Event.ofDerivation slot.graph features)
  let session ← get
  let (features, cell, journal) := slot.features.get make session.journal
  set { session with
    graphs := session.graphs.set ref { slot with features := cell }
    journal := journal }
  ofExcept (fun error => error) features

/-- Change a feature graph in place, which is never allowed. -/
def changeFeatureGraph (ref : GraphRef) : Step Unit := do
  let _ ← featureGraph ref
  throw .frozen

/-- What a node of the feature graph needs directly. -/
def requirements (ref : GraphRef) (node : FeatureId) (chosen : EdgePredicate) :
    Step (List FeatureId) := do
  let features ← featureGraph ref
  ofExcept .walk (features.requirements chosen node)

/-- All that some nodes of the feature graph need. -/
def closure (ref : GraphRef) (starts : List FeatureId) (chosen : EdgePredicate) :
    Step (List FeatureId) := do
  let features ← featureGraph ref
  ofExcept .walk (features.closure starts chosen)

/-- The features that a selection turns on. -/
def activate (ref : GraphRef) (package : Datum) (requested : List String)
    (chosen : EdgePredicate) : Step (List FeatureId) := do
  let package ← idIn (← graphAt ref) package
  let features ← featureGraph ref
  ofExcept .activation (features.activate package requested chosen)

/-- The packages that a selection turns on. -/
def activatePackages (ref : GraphRef) (package : Datum) (requested : List String)
    (chosen : EdgePredicate) : Step (List PackageId) := do
  let package ← idIn (← graphAt ref) package
  let features ← featureGraph ref
  ofExcept .activation (features.activatePackages package requested chosen)

end Step

end CargoDeps
