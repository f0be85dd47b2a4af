import CargoDeps.Cfg.Expression
import CargoDeps.Cfg.Parser
import CargoDeps.Cfg.Token
import CargoDeps.Datum
import CargoDeps.Dependency.Edge
import CargoDeps.Dependency.Filter
import CargoDeps.Digraph.Basic
import CargoDeps.Digraph.Component
import CargoDeps.Digraph.Walk
import CargoDeps.Feature.Activation
import CargoDeps.Feature.Derivation
import CargoDeps.Feature.Graph
import CargoDeps.Feature.Id
import CargoDeps.Graph.Basic
import CargoDeps.Graph.Construction
import CargoDeps.Graph.Multigraph
import CargoDeps.Journal
import CargoDeps.Package.Basic
import CargoDeps.Package.Id
import CargoDeps.Package.Source
import CargoDeps.Platform.Basic
import CargoDeps.Platform.Target
import CargoDeps.Query
import CargoDeps.Requirement
import CargoDeps.Sequence.Basic
import CargoDeps.Sequence.Index
import CargoDeps.Session
import CargoDeps.Settings.Argument.Form
import CargoDeps.Settings.Argument.Listing
import CargoDeps.Settings.Argument.Reader
import CargoDeps.Settings.Basic
import CargoDeps.Settings.Json
import CargoDeps.Settings.Options
import CargoDeps.Settings.Reading
import CargoDeps.TargetSpec
import CargoDeps.Ternary
import CargoDeps.Text.Cut
import CargoDeps.Text.Identifier
import CargoDeps.Text.LetterCase
import CargoDeps.Text.Number
import CargoDeps.Text.Quoted
import CargoDeps.Version.Basic
import CargoDeps.Version.Reader
import CargoDeps.Proofs.Cfg.Evaluation
import CargoDeps.Proofs.Cfg.Expression
import CargoDeps.Proofs.Cfg.Grammar
import CargoDeps.Proofs.Cfg.Independence
import CargoDeps.Proofs.Cfg.Printer
import CargoDeps.Proofs.Cfg.Token
import CargoDeps.Proofs.Dependency.Filter
import CargoDeps.Proofs.Dependency.Lookup
import CargoDeps.Proofs.Digraph.BreadthFirst
import CargoDeps.Proofs.Digraph.ClosedWalk
import CargoDeps.Proofs.Digraph.Component
import CargoDeps.Proofs.Digraph.Condensation
import CargoDeps.Proofs.Digraph.DepthFirst
import CargoDeps.Proofs.Digraph.Discovery
import CargoDeps.Proofs.Digraph.Layers
import CargoDeps.Proofs.Digraph.PathSearch
import CargoDeps.Proofs.Digraph.Reachability
import CargoDeps.Proofs.Digraph.ShortestPath
import CargoDeps.Proofs.Feature.Activation
import CargoDeps.Proofs.Feature.Arcs
import CargoDeps.Proofs.Feature.Base
import CargoDeps.Proofs.Feature.Closure
import CargoDeps.Proofs.Feature.Component
import CargoDeps.Proofs.Feature.Cycle
import CargoDeps.Proofs.Feature.Derivation
import CargoDeps.Proofs.Feature.Nodes
import CargoDeps.Proofs.Feature.Part
import CargoDeps.Proofs.Feature.Projection
import CargoDeps.Proofs.Feature.Request
import CargoDeps.Proofs.Feature.Restriction
import CargoDeps.Proofs.Feature.Rules
import CargoDeps.Proofs.Feature.Selection
import CargoDeps.Proofs.Feature.Target
import CargoDeps.Proofs.Graph.Composition
import CargoDeps.Proofs.Graph.Construction
import CargoDeps.Proofs.Graph.Input
import CargoDeps.Proofs.Graph.Path
import CargoDeps.Proofs.Graph.Representation
import CargoDeps.Proofs.Graph.Restriction
import CargoDeps.Proofs.Graph.Sample
import CargoDeps.Proofs.Order
import CargoDeps.Proofs.Query.Choice
import CargoDeps.Proofs.Query.Combination
import CargoDeps.Proofs.Query.Cycle
import CargoDeps.Proofs.Query.Dependence
import CargoDeps.Proofs.Query.Discovery
import CargoDeps.Proofs.Query.Order
import CargoDeps.Proofs.Query.Reach
import CargoDeps.Proofs.Query.Relaxation
import CargoDeps.Proofs.Query.Roots
import CargoDeps.Proofs.Query.Subgraph
import CargoDeps.Proofs.Query.WholeCycle
import CargoDeps.Proofs.Requirement.Alike
import CargoDeps.Proofs.Requirement.Bare
import CargoDeps.Proofs.Requirement.Block
import CargoDeps.Proofs.Requirement.Caret
import CargoDeps.Proofs.Requirement.Conjunction
import CargoDeps.Proofs.Sequence.Distinct
import CargoDeps.Proofs.Sequence.Pairing
import CargoDeps.Proofs.Sequence.Sorted
import CargoDeps.Proofs.Session.Question
import CargoDeps.Proofs.Session.Step
import CargoDeps.Proofs.TargetSpec.Evaluation
import CargoDeps.Proofs.TargetSpec.Lookup
import CargoDeps.Proofs.TargetSpec.Parse
import CargoDeps.Proofs.TargetSpec.Print
import CargoDeps.Proofs.Ternary
import CargoDeps.Proofs.Text.Cut
import CargoDeps.Proofs.Text.Number
import CargoDeps.Proofs.Version.Precedence
import CargoDeps.Proofs.Version.Reader
