import Wayfinder.Search.QuickSearch

/-!
# Options

What a deployment can set, with the values in force when it sets nothing.
-/

namespace Wayfinder.Settings

/-- The names of log levels. -/
inductive LevelName where
  | critical
  | fatal
  | error
  | warn
  | warning
  | info
  | debug
  | notset
  deriving DecidableEq, Repr

namespace LevelName

/-- The word that writes a level. -/
def word : LevelName → String
  | .critical => "CRITICAL"
  | .fatal => "FATAL"
  | .error => "ERROR"
  | .warn => "WARN"
  | .warning => "WARNING"
  | .info => "INFO"
  | .debug => "DEBUG"
  | .notset => "NOTSET"

def all : List LevelName :=
  [.critical, .fatal, .error, .warn, .warning, .info, .debug, .notset]

/-- The capital form of a character, where it is an ASCII letter. Besides the small letters, the
dotless i and the long s have such a form. -/
def upperChar (c : Char) : Char :=
  if c = 'ı' then 'I' else if c = 'ſ' then 'S' else c.toUpper

/-- The level that a word writes, in small or capital letters. -/
def ofWord? (word : String) : Option LevelName :=
  let upper := String.ofList (word.toList.map upperChar)
  all.find? fun level => level.word == upper

end LevelName

/-- The options of a deployment. -/
structure Options where
  databaseUrl : String := "sqlite+aiosqlite:///./quicksearch.db"
  databaseEcho : Bool := false
  apiBase : String := "/api/v1"
  title : String := "Workspace Quick Search"
  allowedOrigins : List Text.Wide := [.sound "http://localhost:3000"]
  logLevel : LevelName := .info
  maxSuggestions : Int := 100
  caseSensitive : Bool := true
  deriving DecidableEq, Repr

namespace Options

/-- Whether the database is kept in a file of its own. -/
def isSqlite (options : Options) : Bool :=
  "sqlite".toList.isPrefixOf options.databaseUrl.toList

/-- The quick search that the options describe. -/
def quick (options : Options) : Search.QuickSearch :=
  ⟨options.caseSensitive, some options.maxSuggestions⟩

end Options

end Wayfinder.Settings
