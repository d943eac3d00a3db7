import SortPath.Fields
import SortPath.Settings.EnvFile
import SortPath.Text.Case

/-!
# Settings

What is configurable: the name of the sort parameter and the delimiter in its values, whether models
are seen by their aliases, the base path of the repositories, and the log level.

Settings come from a record, or from environment variables: a variable that is set counts, even an
empty one, then the environment file, then the default. An environment cannot hold every variable that
a file can write down.
-/
namespace SortPath

structure Settings where
  sortParameter : String
  delimiter : String
  byAlias : Bool
  basePath : String
  logLevel : String
deriving DecidableEq, Repr

namespace Settings

def default : Settings := ⟨"sort", ",", true, "", "INFO"⟩

/-- The settings that a record describes. -/
def ofRecord (r : Record) : Except Rejection Settings :=
  Checked.toExcept <|
    Settings.mk
      <$> r.field "sort_parameter" (some default.sortParameter) Datum.readText
      <*> r.field "property_delimiter" (some default.delimiter) Datum.readText
      <*> r.field "by_alias" (some default.byAlias) Datum.readBool
      <*> r.field "base_path" (some default.basePath) Datum.readText
      <*> r.field "log_level" (some default.logLevel) Datum.readText

/-- The words that switch a variable on. -/
def onWords : List String := ["1", "true", "yes", "on"]

/-- The settings from the variables of an environment. -/
def ofVariables (vars : List (String × String)) : Settings where
  sortParameter := (vars.lookup "SORT_PARAMETER").getD default.sortParameter
  delimiter := (vars.lookup "SORT_PROPERTY_DELIMITER").getD default.delimiter
  byAlias := ((vars.lookup "SORT_BY_ALIAS").map fun v =>
    onWords.contains (Text.lower (Text.trim v))).getD default.byAlias
  basePath := (vars.lookup "REPOSITORY_BASE_PATH").getD default.basePath
  logLevel := ((vars.lookup "LOG_LEVEL").map Text.upper).getD default.logLevel

/-- Why a variable cannot be set. -/
inductive VariableError
  | nullCharacter
  /-- The name holds an equals sign. -/
  | illegalName
deriving DecidableEq, Repr

def VariableError.message : VariableError → String
  | nullCharacter => "embedded null byte"
  | illegalName => "illegal environment variable name"

/-- Why a variable with its value cannot be set, if it cannot. -/
def variableError? (name value : String) : Option VariableError :=
  if '\x00' ∈ name.toList ∨ '\x00' ∈ value.toList then some .nullCharacter
  else if '=' ∈ name.toList then some .illegalName
  else none

/-- The settings from the variables of an environment and the text of an environment file. -/
def ofEnvironment (vars : List (String × String)) (file : String) : Except VariableError Settings :=
  let all := vars ++ EnvFile.additions vars file
  match all.findSome? fun v => variableError? v.1 v.2 with
  | some e => .error e
  | none => .ok (ofVariables all)

end Settings

end SortPath
