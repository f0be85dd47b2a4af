import CargoDeps.Settings.Options
import CargoDeps.Text.Identifier

namespace CargoDeps.Settings

/-!
# How arguments are written

Settings may be given as arguments of a command: each by an option with its name, with a value
behind it or behind an equals sign.  Some values given directly tell how options are written: which
mark begins them, what their names begin with and what divides the words of a name, by which other
names they go, and whether a truth value needs a value at all.  A form in which two options go by one
text is unfit.
-/

/-- How truth values are given. -/
inductive FlagForm
  | valued
  | dual
  | toggle
deriving DecidableEq, Repr

/-- What an option without a value stands for. -/
inductive Flag
  | truth (field : Field) (value : Bool)
  | help
deriving DecidableEq, Repr

/-- What an option stands for: a setting whose value goes with it, or all that it has to say. -/
inductive OptionMeaning
  | setting (field : Field)
  | flag (flag : Flag)
deriving DecidableEq, Repr

/-- How arguments are written and read. -/
structure ArgumentForm where
  marks : List Char
  group : String
  hyphenates : Bool
  flags : FlagForm
  shortcuts : List (String × List String)
  distinguishesCapitals : Bool
  nullText : String
  skipsUnknown : Bool
  endsOnFault : Bool
deriving DecidableEq, Repr

/-- What is wrong with the options of a form. -/
inductive FormFault
  | unnamed
  | clash (option : String) (texts : List String)
deriving DecidableEq, Repr

/-- The fault in words. -/
def FormFault.message : FormFault → String
  | unnamed => "string index out of range"
  | clash option [text] => "argument " ++ option ++ ": conflicting option string: " ++ text
  | clash option texts =>
      "argument " ++ option ++ ": conflicting option strings: " ++ ", ".intercalate texts

namespace ArgumentForm

/-! ### The form that values given directly describe -/

/-- How truth values are given. -/
def flagsOf (direct : Direct) : FlagForm :=
  match direct.text? "_cli_implicit_flags" with
  | some "toggle" => .toggle
  | _ => if direct.isOn "_cli_implicit_flags" then .dual else .valued

/-- The other names of options, each list under the name that they stand for. -/
def shortcutsOf (direct : Direct) : List (String × List String) :=
  let names : Datum → List String
    | .text name => [name]
    | .list names => names.filterMap Datum.text?
    | _ => []
  match direct.lookup "_cli_shortcuts" with
  | some (.table entries) => entries.map fun (target, value) => (target, names value)
  | _ => []

/-- The text that stands for no value.  The one meant for variables stands in arguments too. -/
def nullTextOf (direct : Direct) : String :=
  let named (name : String) := (direct.text? name).filter (· ≠ "")
  match named "_env_parse_none_str" <|> named "_cli_parse_none_str" with
  | some text => text
  | none =>
      match direct.lookup "_cli_avoid_json" with
      | some (.bool true) => "None"
      | _ => "null"

/-- The form that values given directly describe.  A group stands before a name with a dot between
them. -/
def ofDirect (direct : Direct) : ArgumentForm where
  marks := ((direct.text? "_cli_flag_prefix_char").getD "-").toList
  group := (((direct.text? "_cli_prefix").filter (· ≠ "")).map (· ++ ".")).getD ""
  hyphenates := direct.isOn "_cli_kebab_case"
  flags := flagsOf direct
  shortcuts := shortcutsOf direct
  distinguishesCapitals := direct.isOn "_case_sensitive"
  nullText := nullTextOf direct
  skipsUnknown := direct.isOn "_cli_ignore_unknown_args"
  endsOnFault := !direct.isGiven "_cli_exit_on_error" || direct.isOn "_cli_exit_on_error"

/-! ### The names of settings among arguments -/

/-- The name of a setting with its group. -/
def fullName (form : ArgumentForm) (field : Field) : String :=
  form.group ++ field.name

/-- The first name of the option of a setting. -/
def firstName (form : ArgumentForm) (field : Field) : String :=
  if form.hyphenates then
    form.group ++ String.ofList (field.name.toList.map fun c => if c = '_' then '-' else c)
  else
    form.fullName field

/-- The names of the option of a setting that are not taken.  A shortcut adds names where the name
that it stands for is among them. -/
def freeNames (form : ArgumentForm) (taken : List String) (field : Field) : List String :=
  form.shortcuts.foldl
    (fun names (target, others) =>
      if target ∈ names then names ++ others.filter (· ∉ taken) else names)
    ([form.firstName field].filter (· ∉ taken))

/-- Some settings with the names of their options.  A setting whose name is taken has no option. -/
def namings (form : ArgumentForm) : List String → List Field → List (Field × List String)
  | _, [] => []
  | taken, field :: rest =>
      let names := form.freeNames taken field
      if names.isEmpty || form.fullName field ∈ taken then
        form.namings taken rest
      else
        (field, names) :: form.namings (taken ++ names) rest

/-! ### Options -/

/-- An option: the texts by which it goes, in the order in which messages show them, each with what
it stands for. -/
abbrev OptionTexts := List (String × OptionMeaning)

/-- The texts of an option as messages show them. -/
def OptionTexts.shown (option : OptionTexts) : String :=
  "/".intercalate (option.map Prod.fst)

/-- Whether a character is a mark of options. -/
def isMark (form : ArgumentForm) (c : Char) : Bool :=
  form.marks.any (· = c)

/-- A name behind its mark, which is written twice but not before a single letter. -/
def marked (form : ArgumentForm) (name : String) : String :=
  String.ofList ((form.marks ++ form.marks).take name.length ++ name.toList)

/-- The start of a long flag that says no. -/
def denial : String := "--no-"

/-- A flag that says yes, or no if it begins like one that does, and behind a long flag the one that
says no in its place. -/
def dualTexts (field : Field) (text : String) : OptionTexts :=
  (text, .flag (.truth field (!denial.toList.isPrefixOf text.toList))) ::
    match text.toList with
    | '-' :: '-' :: name => [(denial ++ String.ofList name, .flag (.truth field false))]
    | _ => []

/-- The option of a setting with some names.  Where flags say the one thing that is not usual, long
ones that say no tell so by their names. -/
def optionOf (form : ArgumentForm) (field : Field) (names : List String) : OptionTexts :=
  match form.flags, field.usualTruth? with
  | .dual, some _ => names.flatMap fun name => dualTexts field (form.marked name)
  | .toggle, some true =>
      names.map fun name =>
        (form.marked (if 1 < name.length then "no-" ++ name else name), .flag (.truth field false))
  | .toggle, some false => names.map fun name => (form.marked name, .flag (.truth field true))
  | _, _ => names.map fun name => (form.marked name, .setting field)

/-- The option that asks for help.  Its mark is a hyphen wherever that is a mark. -/
def helpOption (form : ArgumentForm) : OptionTexts :=
  let mark := if form.isMark '-' then ['-'] else form.marks.take 1
  [(String.ofList (mark ++ ['h']), .flag .help),
    (String.ofList (mark ++ mark ++ "help".toList), .flag .help)]

/-- All options. -/
def options (form : ArgumentForm) : List OptionTexts :=
  form.helpOption ::
    (form.namings [] Field.all).map fun (field, names) => form.optionOf field names

/-- What an option stands for, if there is one of this text. -/
def meaning? (form : ArgumentForm) (text : String) : Option OptionMeaning :=
  form.options.flatten.lookup text

/-- The option with a text as messages show it. -/
def shown (form : ArgumentForm) (text : String) : String :=
  ((form.options.find? fun option => (option.lookup text).isSome).map OptionTexts.shown).getD text

/-! ### Unfit forms -/

/-- The first fault of some options beside texts that are taken: an option may go by no empty text
and by none that is taken. -/
def faultOf? : List String → List OptionTexts → Option FormFault
  | _, [] => none
  | taken, option :: rest =>
      let texts := option.map Prod.fst
      if "" ∈ texts then
        some .unnamed
      else
        match texts.filter (· ∈ taken) with
        | [] => faultOf? (taken ++ texts) rest
        | clashing => some (.clash option.shown clashing)

/-- What is wrong with a form, if anything is. -/
def fault? (form : ArgumentForm) : Option FormFault :=
  if form.marks = [] then some .unnamed else faultOf? [] form.options

/-- Whether the group of names is fit to stand in an option: identifiers with dots between them. -/
def isGroup (name : String) : Bool :=
  let text := name.toList
  text.head? ≠ some '.' && text.getLast? ≠ some '.' && Text.isIdentifier (text.filter (· ≠ '.'))

/-- In a form without faults no two options go by one text. -/
theorem disjoint_of_faultOf? {taken : List String} {options : List OptionTexts}
    (noFault : faultOf? taken options = none) {option : OptionTexts} (member : option ∈ options)
    {text : String} (present : text ∈ option.map Prod.fst) : text ∉ taken := by
  induction options generalizing taken with
  | nil => simp at member
  | cons first rest inductionHypothesis =>
      unfold faultOf? at noFault
      simp only at noFault
      split at noFault
      · simp at noFault
      · split at noFault
        case h_2 => simp at noFault
        case h_1 free =>
          rcases List.mem_cons.mp member with rfl | later
          · intro clashing
            have kept : text ∈ (option.map Prod.fst).filter (· ∈ taken) :=
              List.mem_filter.mpr ⟨present, decide_eq_true clashing⟩
            rw [free] at kept
            exact absurd kept List.not_mem_nil
          · intro clashing
            exact inductionHypothesis noFault later (List.mem_append_left _ clashing)

end ArgumentForm

end CargoDeps.Settings
