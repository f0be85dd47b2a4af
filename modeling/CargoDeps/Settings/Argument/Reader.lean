import CargoDeps.Settings.Argument.Form
import CargoDeps.Settings.Argument.Listing

namespace CargoDeps.Settings

/-!
# Reading arguments

The arguments are told apart first: options, words that may be values, and what looks like an option
and is none.  Then each option takes its value, and what is left over is a fault unless it is to be
skipped.  Flags of a single letter may stand together behind one mark, and at their end an option
with a value.
-/

/-! ### Faults -/

/-- What is wrong with the use of options. -/
inductive UsageFault
  | missingValue (options : String)
  | unwantedValue (options value : String)
  | unrecognized (arguments : List String)
deriving DecidableEq, Repr

/-- The fault in words. -/
def UsageFault.message : UsageFault → String
  | missingValue options => "argument " ++ options ++ ": expected one argument"
  | unwantedValue options value =>
      "argument " ++ options ++ ": ignored explicit argument " ++ Text.quoted value
  | unrecognized arguments => "unrecognized arguments: " ++ " ".intercalate arguments

/-- Why arguments give no settings.  Help and wrong use may end the program with a code. -/
inductive ArgumentError
  | exit (code : Nat)
  | form (fault : FormFault)
  | usage (fault : UsageFault)
  | list (name : String) (fault : ListFault)
  | group (name : String)
  | notTexts (typeName : String)
deriving DecidableEq, Repr

/-- The error in words. -/
def ArgumentError.message : ArgumentError → String
  | exit code => toString code
  | form fault => fault.message
  | usage fault => "error parsing CLI: " ++ fault.message
  | list name fault => "Parsing error encountered for " ++ name ++ ": " ++ fault.message
  | group name => "CLI settings source prefix is invalid: " ++ name
  | notTexts typeName =>
      "cli_parse_args must be a list or tuple of strings, received <class " ++
        Text.quoted typeName ++ ">"

/-! ### Tokens -/

/-- What an argument is by itself.  An option is held with its text and with the value that is
attached to it. -/
inductive Token
  | option (text : String) (meaning : OptionMeaning) (value : Option (List Char))
  | word
  | unknownOption
  | endOfOptions
deriving DecidableEq, Repr

/-- Whether a text is a negative number in plain digits.  A line break may end it. -/
def isNegativeNumber (text : List Char) : Bool :=
  let line := if text.getLast? = some '\n' then text.dropLast else text
  match line with
  | '-' :: rest =>
      match rest.dropWhile Text.isDecimal with
      | [] => !rest.isEmpty
      | '.' :: places => Text.isDigits places
      | _ => false
  | _ => false

namespace ArgumentForm

/-- An option that goes by a text, or else by the text in small letters. -/
def spelling? (form : ArgumentForm) (text : List Char) : Option (List Char × OptionMeaning) :=
  let known (text : List Char) := (form.meaning? (String.ofList text)).map (text, ·)
  known text <|> known (Text.small text)

/-- The letters behind one mark, each as there is an option of it.  Behind the last flag the
letters stay, since they may be a value. -/
def spelledLetters (form : ArgumentForm) (mark : Char) : List Char → List Char
  | [] => []
  | letter :: rest =>
      match form.spelling? [mark, letter] with
      | some (text, .flag _) => text.drop 1 ++ form.spelledLetters mark rest
      | some (text, .setting _) => text.drop 1 ++ rest
      | none => letter :: rest

/-- The name of an option as there is an option of it.  A name of no option stays as it is. -/
def spelled (form : ArgumentForm) (name : List Char) : List Char :=
  match form.spelling? name with
  | some (text, _) => text
  | none =>
      match name with
      | [] => []
      | mark :: letters =>
          if letters.head?.any form.isMark then name else mark :: form.spelledLetters mark letters

/-- An argument before the end of the options, as it is read.  Where capitals do not count, the name
of an option is spelled as that option is, and of what follows a name only the first line is
kept. -/
def normal (form : ArgumentForm) (argument : String) : String :=
  let text := argument.toList
  let name := text.takeWhile fun c => !Text.isBlank c && c ≠ '='
  let isNamed := form.marks.isPrefixOf name && form.marks.length < name.length
  if form.distinguishesCapitals || !isNamed then
    argument
  else
    String.ofList (form.spelled name ++ (text.drop name.length).takeWhile (· ≠ '\n'))

/-- The arguments as they are read.  Behind two hyphens all arguments stay as they are. -/
def normals (form : ArgumentForm) : List String → List String
  | [] => []
  | argument :: rest =>
      if argument = "--" then argument :: rest else form.normal argument :: form.normals rest

/-- An option and its value with an equals sign between them. -/
def assigned? (form : ArgumentForm) (argument : List Char) : Option Token := do
  let (option, value) ← Text.cutFirst? '=' argument
  let text := String.ofList option
  return .option text (← form.meaning? text) (some value)

/-- An option of a single letter with its value right behind it. -/
def attached? (form : ArgumentForm) : List Char → Option Token
  | mark :: letter :: value =>
      if form.isMark letter then
        none
      else
        let text := String.ofList [mark, letter]
        (form.meaning? text).map fun meaning => .option text meaning (some value)
  | _ => none

/-- Whether some option looks like a negative number. -/
def hasNumberOption (form : ArgumentForm) : Bool :=
  form.options.flatten.any fun (text, _) => isNegativeNumber text.toList

/-- Whether a text that no option explains is a word: a text with a space in it, or a negative
number where no option looks like one. -/
def isLooseWord (form : ArgumentForm) (text : List Char) : Bool :=
  text.any (· = ' ') || isNegativeNumber text && !form.hasNumberOption

/-- What an argument before the end of the options is. -/
def token (form : ArgumentForm) (argument : String) : Token :=
  let text := argument.toList
  if !text.head?.any form.isMark then
    .word
  else
    match form.meaning? argument with
    | some meaning => .option argument meaning none
    | none =>
        if text.length = 1 then
          .word
        else
          match form.assigned? text <|> form.attached? text with
          | some token => token
          | none => if form.isLooseWord text then .word else .unknownOption

/-- The arguments, each with what it is.  Behind two hyphens all arguments are words. -/
def tokens (form : ArgumentForm) : List String → List (String × Token)
  | [] => []
  | argument :: rest =>
      if argument = "--" then
        (argument, .endOfOptions) :: rest.map fun word => (word, .word)
      else
        (argument, form.token argument) :: form.tokens rest

/-! ### The use of options -/

/-- What one argument uses: flags, and behind them perhaps an option of a setting with the value
that is attached to it. -/
structure OptionUse where
  flags : List Flag
  setting : Option (String × Field × Option (List Char))

/-- The use of a flag with a text right behind it.  Behind a single letter the text goes on with
another option; all else is a value that nothing wants. -/
def flagUse (form : ArgumentForm) (text : String) (flag : Flag) :
    List Char → Except UsageFault OptionUse
  | [] => .error (.unwantedValue (form.shown text) "")
  | letter :: rest =>
      let unwanted := .error (.unwantedValue (form.shown text) (String.ofList (letter :: rest)))
      match text.toList with
      | mark :: own :: _ =>
          let next := String.ofList [mark, letter]
          if form.isMark own then
            unwanted
          else
            match form.meaning? next with
            | none => unwanted
            | some (.setting field) =>
                .ok ⟨[flag], some (next, field, if rest.isEmpty then none else some rest)⟩
            | some (.flag other) =>
                if rest.isEmpty then
                  .ok ⟨[flag, other], none⟩
                else
                  (form.flagUse next other rest).map fun use => ⟨flag :: use.flags, use.setting⟩
      | _ => unwanted

/-- The use of an option. -/
def optionUse (form : ArgumentForm) (text : String) (meaning : OptionMeaning)
    (value : Option (List Char)) : Except UsageFault OptionUse :=
  match meaning, value with
  | .setting field, value => .ok ⟨[], some (text, field, value)⟩
  | .flag flag, none => .ok ⟨[flag], none⟩
  | .flag flag, some value => form.flagUse text flag value

/-! ### Values -/

/-- A value that an option gives.  It is nothing where two hyphens are attached to the option. -/
inductive ArgumentValue
  | text (text : String)
  | truth (value : Bool)
  | nothing
deriving DecidableEq, Repr

/-- The value that is attached to an option. -/
def ArgumentValue.ofAttached (value : List Char) : ArgumentValue :=
  let text := String.ofList value
  if text = "--" then .nothing else .text text

/-- The text of a value, if it is one. -/
def ArgumentValue.text? : ArgumentValue → Option String
  | .text value => some value
  | _ => none

/-- What some arguments give, in order, and what is left over. -/
structure Findings where
  values : List (Field × ArgumentValue)
  rest : List String

/-- The findings with one value before the others. -/
def Findings.cons (findings : Findings) (field : Field) (value : ArgumentValue) : Findings :=
  ⟨(field, value) :: findings.values, findings.rest⟩

/-- The findings with one argument more that is left over. -/
def Findings.leave (findings : Findings) (argument : String) : Findings :=
  ⟨findings.values, argument :: findings.rest⟩

/-- Findings behind some flags.  Nothing counts behind a flag that asks for help. -/
def behindFlags (findings : Except ArgumentError Findings) :
    List Flag → Except ArgumentError Findings
  | [] => findings
  | .help :: _ => .error (.exit 0)
  | .truth field value :: rest => (behindFlags findings rest).map (·.cons field (.truth value))

/-- What an error of use comes to. -/
def usageError (form : ArgumentForm) (fault : UsageFault) : ArgumentError :=
  if form.endsOnFault then .exit 2 else .usage fault

/-- What the arguments give; the first fault counts. -/
def find (form : ArgumentForm) : List (String × Token) → Except ArgumentError Findings
  | [] => .ok ⟨[], []⟩
  | (_, .option text meaning value) :: rest =>
      match form.optionUse text meaning value with
      | .error fault => .error (form.usageError fault)
      | .ok ⟨flags, none⟩ => behindFlags (form.find rest) flags
      | .ok ⟨flags, some (_, field, some value)⟩ =>
          behindFlags ((form.find rest).map (·.cons field (.ofAttached value))) flags
      | .ok ⟨flags, some (option, field, none)⟩ =>
          match rest with
          | (value, .word) :: rest =>
              behindFlags ((form.find rest).map (·.cons field (.text value))) flags
          | _ => .error (form.usageError (.missingValue (form.shown option)))
  | (argument, _) :: rest => (form.find rest).map (·.leave argument)

/-- The value of a text for a setting. -/
def given (form : ArgumentForm) (field : Field) (text : String) : Given :=
  if text = form.nullText then .null else .ofVariable field text

/-- The value of a setting that takes one text.  The last value counts; nothing makes a list without
items. -/
def single (form : ArgumentForm) (field : Field) : ArgumentValue → Given
  | .text text => form.given field text
  | .truth value => .bool value
  | .nothing => form.given field "[]"

/-- The value of a setting.  The values of a list are put together, up to the first that is
nothing. -/
def given? (form : ArgumentForm) (values : List (Field × ArgumentValue)) (field : Field) :
    Except ArgumentError (Option Given) :=
  let own := (values.filter fun (other, _) => other = field).map Prod.snd
  match own.getLast? with
  | none => .ok none
  | some last =>
      if field = .targetFeatures then
        let texts := (own.takeWhile (· ≠ .nothing)).filterMap ArgumentValue.text?
        match Listing.json form.nullText texts with
        | .ok json => .ok (some (form.given field json))
        | .error fault => .error (.list (form.fullName field) fault)
      else
        .ok (some (form.single field last))

/-- The settings that some arguments give. -/
def read (form : ArgumentForm) (arguments : List String) :
    Except ArgumentError (List (Field × Given)) := do
  let findings ← form.find (form.tokens (form.normals arguments))
  if findings.rest ≠ [] && !form.skipsUnknown then
    throw (form.usageError (.unrecognized findings.rest))
  Field.all.filterMapM fun field => do
    return (← form.given? findings.values field).map fun given => (field, given)

end ArgumentForm

end CargoDeps.Settings
