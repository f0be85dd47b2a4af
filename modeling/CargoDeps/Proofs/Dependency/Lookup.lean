import CargoDeps.Proofs.Dependency.Filter
import CargoDeps.Proofs.Graph.Representation
import CargoDeps.Proofs.TargetSpec.Lookup

namespace CargoDeps

/-!
# Why filters never fail

A filter that decided platform conditions by their texts, and looked up their keys on the way, could
fail on an edge.  It does not on the edges of graphs that were built, because construction has read
all conditions.
-/

namespace EdgeFilter

/-- The answer to the platform condition of an edge by the text of the condition. -/
def answer? (filter : EdgeFilter) (edge : Edge) : Option Ternary :=
  match edge.platform, filter.platform with
  | some spec, some platform => TargetSpec.answer? spec.text platform
  | _, _ => some .yes

/-- Whether the filter chooses an edge whose condition is decided by its text.  The condition is put
to the platform last, and only for an edge that is not refused already. -/
def accepts? (filter : EdgeFilter) (edge : Edge) : Option Bool :=
  if edge.kind ∈ filter.kinds then
    if edge.isOptional && !filter.includeOptional then
      some false
    else
      (filter.answer? edge).map (Ternary.toBool filter.includeUnknown)
  else
    some false

variable {filter : EdgeFilter} {edge : Edge}

theorem answer?_of_given
    {written : Option String}
    (given : TargetSpec.Given written edge.platform) :
    filter.answer? edge = some (filter.platformAnswer edge) := by
  cases given' : edge.platform with
  | none =>
      simp [answer?, platformAnswer, given']
  | some spec =>
      rw [given'] at given
      cases given with
      | given parses =>
          cases asked : filter.platform with
          | none =>
              simp [answer?, platformAnswer, given', asked]
          | some platform =>
              simp [answer?, platformAnswer, given', asked, TargetSpec.answer?_of_parse parses]

/-- A filter does not fail on an edge whose condition was read from a text. -/
theorem accepts?_of_given
    {written : Option String}
    (given : TargetSpec.Given written edge.platform) :
    filter.accepts? edge = some (filter.accepts edge) := by
  rw [accepts?, answer?_of_given given]
  by_cases isKind : edge.kind ∈ filter.kinds
  · cases optional : edge.isOptional <;>
      cases included : filter.includeOptional <;>
        simp [accepts, isKind, optional, included]
  · simp [accepts, isKind]

end EdgeFilter

namespace PackageGraph

variable {records : List PackageRecord} {input : List RawEdge} {root : Option String}
  {built graph : PackageGraph}

/-- A filter does not fail on any edge of a graph that was built and perhaps cut down since. -/
theorem accepts?_of_mem_edges
    (builds : build records input root = .ok built)
    (descends : built.Descends graph)
    (filter : EdgeFilter)
    {edge : Edge}
    (member : edge ∈ graph.edges) :
    filter.accepts? edge = some (filter.accepts edge) := by
  obtain ⟨_, raw, _, gives⟩ := (keeps_of_descends builds descends).edges edge member
  exact EdgeFilter.accepts?_of_given gives.platform

end PackageGraph

end CargoDeps
