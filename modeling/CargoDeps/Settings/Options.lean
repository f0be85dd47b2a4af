import CargoDeps.Settings.Reading

namespace CargoDeps.Settings

/-!
# Options

Some of what is given directly is no setting and tells how settings are read.  The options of this
module tell how the variables of the environment are read: whether their names distinguish capitals
and what they begin with, whether empty variables count, which text stands for no value, and whether
several variables may give the parts of one value.
-/

/-- Values given directly, each under a name. -/
abbrev Direct := List (String × Datum)

namespace Direct

/-- The text under a name. -/
def text? (direct : Direct) (name : String) : Option String :=
  (direct.lookup name).bind Datum.text?

/-- Whether there is a value under a name, other than null. -/
def isGiven (direct : Direct) (name : String) : Bool :=
  match direct.lookup name with
  | none => false
  | some .null => false
  | some _ => true

/-- Whether a value under a name amounts to something, as any value does that switches an option
on. -/
def isOn (direct : Direct) (name : String) : Bool :=
  (direct.lookup name).any fun value => !value.isNothing

end Direct

/-- How the variables of the environment are read. -/
structure Options where
  nameStart : String
  partMark : Option String
  distinguishesCapitals : Bool
  skipsEmpty : Bool
  nullText : Option String
deriving DecidableEq, Repr

namespace Options

/-- The names under which options are given.  Those of sources that are not in use have no
effect. -/
def names : List String :=
  ["_case_sensitive", "_env_prefix", "_env_ignore_empty", "_env_parse_none_str",
    "_env_prefix_target", "_env_file", "_env_file_depth", "_env_file_encoding",
    "_env_nested_delimiter", "_env_nested_max_split", "_env_parse_enums",
    "_nested_model_default_partial_update", "_cli_prog_name", "_cli_parse_args",
    "_cli_settings_source", "_cli_parse_none_str", "_cli_hide_none_type", "_cli_avoid_json",
    "_cli_enforce_required", "_cli_use_class_docs_for_groups", "_cli_exit_on_error", "_cli_prefix",
    "_cli_flag_prefix_char", "_cli_implicit_flags", "_cli_ignore_unknown_args", "_cli_kebab_case",
    "_cli_shortcuts", "_cli_show_env_vars", "_secrets_dir", "_build_sources"]

/-- What the names of variables begin with unless an option says otherwise. -/
def usualNameStart : String := "CRATE_GRAPH_"

/-- Whether the start of names belongs to the names of variables.  It may be meant for other
spellings of them, and the settings have none. -/
def startsNames (direct : Direct) : Bool :=
  match direct.lookup "_env_prefix_target" with
  | none => true
  | some .null => true
  | some (.text target) => target = "variable" || target = "all"
  | some _ => false

/-- The options among values given directly.  An empty mark divides no name. -/
def ofDirect (direct : Direct) : Options where
  nameStart :=
    if startsNames direct then (direct.text? "_env_prefix").getD usualNameStart else ""
  partMark := (direct.text? "_env_nested_delimiter").filter (· ≠ "")
  distinguishesCapitals := direct.isOn "_case_sensitive"
  skipsEmpty := direct.isOn "_env_ignore_empty"
  nullText := direct.text? "_env_parse_none_str"

/-- The form of a name in which the names of variables are compared. -/
def comparedName (options : Options) (name : String) : String :=
  if options.distinguishesCapitals then name else smallName name

/-- The name of a setting is its own compared form. -/
theorem comparedName_name (options : Options) (field : Field) :
    options.comparedName field.name = field.name := by
  unfold comparedName
  split
  · rfl
  · exact field.smallName_name

/-- The name of the variable of a setting, in the form in which names are compared. -/
def variableName (options : Options) (field : Field) : String :=
  options.comparedName (options.nameStart ++ field.name)

/-- Whether a variable with some text counts at all. -/
def counts (options : Options) (value : String) : Bool :=
  !(options.skipsEmpty && value = "")

/-- Whether a variable is that of a setting. -/
def isVariable (options : Options) (field : Field) (name value : String) : Bool :=
  options.comparedName name = options.variableName field && options.counts value

/-- Whether a variable gives a part of a setting.  Its name goes on behind that of the setting with
the mark, whose own letters stay as they are. -/
def isPart (options : Options) (field : Field) (name value : String) : Bool :=
  options.partMark.any fun mark =>
    (options.variableName field ++ mark).toList.isPrefixOf (options.comparedName name).toList &&
      options.counts value

end Options

end CargoDeps.Settings
