import CargoDeps.Datum
import CargoDeps.Text.Cut

namespace CargoDeps

/-!
# Sources of packages

Where a package was obtained from: a registry, a directory, or a git repository.
-/

/-- The kind of a source. -/
inductive SourceKind
  | registry
  | path
  | git
deriving DecidableEq, Repr

namespace SourceKind

/-- The name of a kind. -/
def name : SourceKind → String
  | registry => "registry"
  | path => "path"
  | git => "git"

/-- The kind with a name. -/
def ofName? : String → Option SourceKind
  | "registry" => some registry
  | "path" => some path
  | "git" => some git
  | _ => none

/-- The kind that a value writes, or the message that it writes none. -/
def ofDatum (value : Datum) : Except String SourceKind :=
  match value.text?.bind ofName? with
  | some kind => .ok kind
  | none => .error (value.shown ++ " is not a valid SourceKind")

theorem ofName?_name (kind : SourceKind) : ofName? kind.name = some kind := by
  cases kind <;> rfl

end SourceKind

/-- A source: its kind, and a URL or a directory. -/
structure Source where
  kind : SourceKind
  location : String
deriving DecidableEq, Repr

namespace Source

/-- What follows a marker at the start of a text. -/
def after? (marker text : String) : Option String :=
  if marker.toList.isPrefixOf text.toList then
    some (String.ofList (text.toList.drop marker.length))
  else
    none

/-- The source that a text writes: the text before the first plus sign tells the kind where it is
a known one, any other text is the URL of a registry. -/
def ofText (text : String) : Source :=
  match after? "git+" text with
  | some location => ⟨.git, location⟩
  | none =>
      match after? "path+" text with
      | some location => ⟨.path, location⟩
      | none =>
          match after? "registry+" text with
          | some location => ⟨.registry, location⟩
          | none =>
              match after? "sparse+" text with
              | some location => ⟨.registry, location⟩
              | none => ⟨.registry, text⟩

/-- The source of a package; one that names none comes from a directory that is not told. -/
def ofText? : Option String → Source
  | some text => ofText text
  | none => ⟨.path, ""⟩

/-- The revision that a git source is pinned to: what follows the last `#` of its location. -/
def revision? (source : Source) : Option String :=
  if source.kind = .git then
    (Text.afterLast? '#' source.location.toList).map String.ofList
  else
    none

/-- The source as written; a directory stands for itself. -/
def text (source : Source) : String :=
  if source.kind = .path then
    source.location
  else
    source.kind.name ++ "+" ++ source.location

/-- The source as messages show it. -/
def shown (source : Source) : String :=
  "PackageSource(" ++ Text.quoted source.kind.name ++ ", " ++ Text.quoted source.location ++ ")"

end Source

end CargoDeps
