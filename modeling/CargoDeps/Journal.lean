import CargoDeps.Feature.Derivation
import CargoDeps.Query
import CargoDeps.Text.Quoted

namespace CargoDeps

/-!
# The journal

What is worth telling about the work on a graph, as it is logged; how much it matters, and the names
under which a level can be asked for.
-/

/-! ### Levels -/

/-- A level; `notset` lets every message through. -/
inductive LogLevel
  | notset
  | debug
  | info
  | warning
  | error
  | critical
deriving DecidableEq, Repr

namespace LogLevel

/-- The rank of a level. -/
def rank : LogLevel → Nat
  | notset => 0
  | debug => 10
  | info => 20
  | warning => 30
  | error => 40
  | critical => 50

/-- The name of a level in messages. -/
def name : LogLevel → String
  | notset => "NOTSET"
  | debug => "DEBUG"
  | info => "INFO"
  | warning => "WARNING"
  | error => "ERROR"
  | critical => "CRITICAL"

/-- The level with a name in capitals; two levels have a second name. -/
def ofCapitals? : String → Option LogLevel
  | "NOTSET" => some notset
  | "DEBUG" => some debug
  | "INFO" => some info
  | "WARNING" => some warning
  | "WARN" => some warning
  | "ERROR" => some error
  | "CRITICAL" => some critical
  | "FATAL" => some critical
  | _ => none

/-- A character in capitals, as far as those are ASCII letters: the ASCII letters themselves, the
dotless i, the long s, the sharp s, and the ligatures that begin with f or s. -/
def capitals (c : Char) : List Char :=
  match c with
  | 'ı' => ['I']
  | 'ſ' => ['S']
  | 'ß' => ['S', 'S']
  | 'ﬀ' => ['F', 'F']
  | 'ﬁ' => ['F', 'I']
  | 'ﬂ' => ['F', 'L']
  | 'ﬃ' => ['F', 'F', 'I']
  | 'ﬄ' => ['F', 'F', 'L']
  | 'ﬅ' => ['S', 'T']
  | 'ﬆ' => ['S', 'T']
  | c => [c.toUpper]

end LogLevel

/-! ### Names that are reserved -/

/-- A way to write the form of a message: the mark of its place holders, its name, and the basic form
written in it. -/
structure FormStyle where
  mark : String
  name : String
  basicForm : String
deriving DecidableEq, Repr

namespace FormStyle

/-- The style of the basic form itself. -/
def percent : FormStyle :=
  ⟨"%", "PercentStyle", "%(levelname)s:%(name)s:%(message)s"⟩

/-- All styles. -/
def all : List FormStyle :=
  [percent,
    ⟨"\x7b", "StrFormatStyle", "\x7blevelname\x7d:\x7bname\x7d:\x7bmessage\x7d"⟩,
    ⟨"$", "StringTemplateStyle", "$\x7blevelname\x7d:$\x7bname\x7d:$\x7bmessage\x7d"⟩]

/-- The style as messages show it. -/
def shown (style : FormStyle) : String :=
  Text.quoted style.mark ++ ": (<class 'logging." ++ style.name ++ "'>, " ++
    Text.quoted style.basicForm ++ ")"

end FormStyle

/-- A name that can be asked for like a level but stands for something else. -/
inductive ReservedName
  | basicForm
  | styles
deriving DecidableEq, Repr

namespace ReservedName

/-- The reserved name that a text in capitals is. -/
def ofCapitals? : String → Option ReservedName
  | "BASIC_FORMAT" => some basicForm
  | "_STYLES" => some styles
  | _ => none

/-- Why a reserved name gives no level. -/
def message : ReservedName → String
  | basicForm => "Unknown level: " ++ Text.quoted FormStyle.percent.basicForm
  | styles =>
      "Level not an integer or a valid string: \x7b" ++
        ", ".intercalate (FormStyle.all.map FormStyle.shown) ++ "\x7d"

end ReservedName

/-- The level that a text asks for, in capitals or not; a text that names nothing asks for `info`.
A reserved name is an error. -/
def LogLevel.ofText (text : String) : Except ReservedName LogLevel :=
  let name := String.ofList (text.toList.flatMap LogLevel.capitals)
  match ReservedName.ofCapitals? name with
  | some reserved => .error reserved
  | none => .ok ((LogLevel.ofCapitals? name).getD .info)

/-- Where messages go: those of some level or above, each handler with the form of its lines. -/
structure LogOutput where
  level : LogLevel
  handlers : List String
deriving DecidableEq, Repr

namespace LogOutput

/-- The form of a line: time, logger, level and message. -/
def lineForm : String := "%(asctime)s - %(name)s - %(levelname)s - %(message)s"

/-- The output before it is set up. -/
def initial : LogOutput := ⟨.warning, []⟩

/-- Set the level, and let one handler take the place of all others. -/
def configure (_output : LogOutput) (level : LogLevel) : LogOutput :=
  ⟨level, [lineForm]⟩

end LogOutput

/-! ### Events -/

/-- Something that happened. -/
inductive Event
  | graphBuilt (packages links members : Nat)
  | graphRestricted (packages ofPackages links ofLinks : Nat)
  | queryAnswered (direction : Direction) (roots reached : Nat)
  | cyclesFound (count : Nat) (graph : String)
  | featureLeftOut (notice : FeatureNotice)
  | featuresDerived (nodes arcs : Nat) (graph : String)

namespace Event

/-- The level of an event: a left out feature entry is a warning unless it is a weak one. -/
def level : Event → LogLevel
  | featureLeftOut (.weakFeature _ _) => .debug
  | featureLeftOut _ => .warning
  | _ => .debug

/-- The name of the logger that tells of an event. -/
def logger : Event → String
  | graphBuilt _ _ _ => "crate_graph.builder"
  | graphRestricted _ _ _ _ => "crate_graph.graph"
  | queryAnswered _ _ _ => "crate_graph.query"
  | cyclesFound _ _ => "crate_graph.query"
  | featureLeftOut _ => "crate_graph.features"
  | featuresDerived _ _ _ => "crate_graph.features"

/-- The event in words. -/
def message : Event → String
  | graphBuilt packages links members =>
      "Built package graph with " ++ toString packages ++ " packages, " ++ toString links ++
        " links and " ++ toString members ++ " workspace members"
  | graphRestricted packages ofPackages links ofLinks =>
      "Induced subgraph with " ++ toString packages ++ " of " ++ toString ofPackages ++
        " packages and " ++ toString links ++ " of " ++ toString ofLinks ++ " links"
  | queryAnswered direction roots reached =>
      direction.name ++ " query from " ++ toString roots ++ " roots reached " ++
        toString reached ++ " packages"
  | cyclesFound count graph => "Found " ++ toString count ++ " cycles in " ++ graph
  | featureLeftOut notice => notice.message
  | featuresDerived nodes arcs graph =>
      "Derived feature graph with " ++ toString nodes ++ " features and " ++ toString arcs ++
        " edges from " ++ graph

/-- The event of building a graph. -/
def ofBuild (graph : PackageGraph) : Event :=
  graphBuilt graph.packages.length graph.edges.length graph.workspace.members.length

/-- The event of restricting a graph. -/
def ofRestriction (graph part : PackageGraph) : Event :=
  graphRestricted part.packages.length graph.packages.length part.edges.length graph.edges.length

/-- The event of answering a query. -/
def ofQuery (result : QueryResult) : Event :=
  queryAnswered result.direction result.roots.length result.ids.length

/-- The events of deriving a feature graph: each entry left out, then the graph. -/
def ofDerivation (graph : PackageGraph) (features : FeatureGraph) : List Event :=
  graph.featureNotices.map featureLeftOut ++
    [featuresDerived features.nodes.length features.arcs.length graph.shown]

end Event

end CargoDeps
