import Wayfinder.Input.Coercion
import Wayfinder.Settings.Options
import Wayfinder.Settings.Substitution

/-!
# Where options come from

An option is taken from the arguments if they give it, else from the environment, else from the
environment file, and else it has its default. Names count without regard to the case of their letters.
Of several texts whose names differ in nothing else the last one counts; of several such arguments that
of the very name counts, and else the first one.

The environment and its file give texts. That of a list is JSON, and null there gives nothing. A text
that is no JSON is reported before anything is checked, even if the arguments give the list.
-/

namespace Wayfinder.Settings

open Input

/-- Everything that may give an option. -/
structure Sources where
  arguments : List (String × Json) := []
  environment : List (String × String) := []
  file : String := ""

/-- A source of texts. -/
inductive TextSource where
  | environment
  | file
  deriving DecidableEq, Repr

namespace TextSource

/-- The word that names a source in a report. -/
def word : TextSource → String
  | .environment => "EnvSettingsSource"
  | .file => "DotEnvSettingsSource"

end TextSource

/-- Why the options cannot be had. -/
inductive SettingsFault where
  | unreadable (field : String) (source : TextSource)
  | faulty (errors : List FieldError)

namespace SettingsFault

/-- The report that a text is no JSON. -/
def unreadableMessage (field : String) (source : TextSource) : String :=
  "error parsing value for field \"" ++ field ++ "\" from source \"" ++ source.word ++ "\""

end SettingsFault

/-- A name without regard to the case of its letters. -/
def caseless (name : String) : List Char :=
  name.toList.map Char.toLower

/-- The first value given under a name. -/
def firstNamed? {α : Type} (values : List (String × α)) (name : String) : Option α :=
  (values.find? fun (other, _) => caseless other == caseless name).map Prod.snd

/-- The last value given under a name. -/
def lastNamed? {α : Type} (values : List (String × α)) (name : String) : Option α :=
  firstNamed? values.reverse name

/-- The field that holds a list. -/
def originsField : String := "ALLOWED_ORIGINS"

namespace Sources

/-- The texts that a source gives. A name without a value stands for nothing. -/
def texts (sources : Sources) : TextSource → List (String × Option String)
  | .environment => sources.environment.map fun (name, value) => (name, some value)
  | .file => (Binding.resolveAll sources.environment (EnvFile.bindings sources.file)).map
      fun binding => (binding.name, binding.value)

/-- The text that a source gives for an option. -/
def text? (sources : Sources) (source : TextSource) (field : String) : Option String :=
  (lastNamed? (sources.texts source) field).join

/-- What the arguments give for an option. -/
def argument? (sources : Sources) (field : String) : Option Json :=
  sources.arguments.lookup field <|> firstNamed? sources.arguments field

/-- The list that a source gives. -/
def origins? (sources : Sources) (source : TextSource) : Except SettingsFault (Option Json) :=
  match sources.text? source originsField with
  | none => .ok none
  | some text =>
    match Json.parse text with
    | .ok .null => .ok none
    | .ok value => .ok (some value)
    | .error _ => .error (.unreadable originsField source)

/-- What is given for an option that is no list. -/
def value? (sources : Sources) (field : String) : Option Json :=
  sources.argument? field <|>
    ((sources.text? .environment field <|> sources.text? .file field).map Json.text)

/-- Everything that is given, as a record of the options by their names. -/
def given (sources : Sources) : Except SettingsFault Json := do
  let fromEnvironment ← sources.origins? .environment
  let fromFile ← sources.origins? .file
  let origins := sources.argument? originsField <|> fromEnvironment <|> fromFile
  let named (field : String) : Option (String × Json) :=
    (sources.value? field).map fun value => (field, value)
  return .record (
    ["DATABASE_URL", "DATABASE_ECHO", "API_V1_STR", "PROJECT_NAME"].filterMap named ++
    (origins.map fun value => (originsField, value)).toList ++
    ["LOG_LEVEL", "SEARCH_MAX_SUGGESTIONS", "SEARCH_EXACT_CASE_SENSITIVE"].filterMap named)

end Sources

/-- A text that locates a database; it must show something. -/
def readDatabaseUrl (value : Json) : Except FieldFault String :=
  let blank := match value with
    | .text text => Text.isBlankText text
    | _ => false
  if value.isEmpty || blank then .error (.refused "DATABASE_URL cannot be empty")
  else readText value

/-- A word that names a log level. -/
def readLevel (value : Json) : Except FieldFault LevelName :=
  let level := match value with
    | .text word => LevelName.ofWord? word
    | _ => none
  match level with
  | some level => .ok level
  | none => .error (.refused ("LOG_LEVEL must be a logging level name, got " ++ value.display))

/-- A whole number above zero. -/
def readMaxSuggestions (value : Json) : Except FieldFault Int :=
  match readWhole value with
  | .error fault => .error fault
  | .ok limit =>
    if limit ≤ 0 then .error (.refused "SEARCH_MAX_SUGGESTIONS must be a positive integer")
    else .ok limit

namespace Options

/-- Check what is given and fill in the defaults. -/
def ofGiven (given : Json) : Checked Options :=
  let defaults : Options := {}
  let field {α : Type} (name : String) (read : Json → Checked α) (default : α) : Checked α :=
    (givenField name read given).map fun value => value.getD default
  let database :=
    (field "DATABASE_URL" (checking readDatabaseUrl) defaults.databaseUrl).pair
      (field "DATABASE_ECHO" (checking readFlag) defaults.databaseEcho)
  let site :=
    ((field "API_V1_STR" (checking readText) defaults.apiBase).pair
      (field "PROJECT_NAME" (checking readText) defaults.title)).pair
      (field originsField readTexts defaults.allowedOrigins)
  let search :=
    ((field "LOG_LEVEL" (checking readLevel) defaults.logLevel).pair
      (field "SEARCH_MAX_SUGGESTIONS" (checking readMaxSuggestions) defaults.maxSuggestions)).pair
      (field "SEARCH_EXACT_CASE_SENSITIVE" (checking readFlag) defaults.caseSensitive)
  ((database.pair site).pair search).map
    fun (((databaseUrl, databaseEcho), ((apiBase, title), allowedOrigins)),
      ((logLevel, maxSuggestions), caseSensitive)) =>
      { databaseUrl, databaseEcho, apiBase, title, allowedOrigins, logLevel, maxSuggestions,
        caseSensitive }

/-- The options that the sources give. -/
def ofSources (sources : Sources) : Except SettingsFault Options := do
  match ofGiven (← sources.given) with
  | .sound options => return options
  | .faulty errors => throw (.faulty errors)

end Options

end Wayfinder.Settings
