import StagedSql.Fault
import StagedSql.Text.Case
import StagedSql.Text.Number

/-!
# Settings

The settings of the service as environment variables give them. Numbers are read first, in a fixed
order; then their ranges are checked.
-/

namespace StagedSql

structure Settings where
  appTitle : String
  logLevel : String
  database : String
  previewRows : Int
  chatEndpoint : String
  chatKey : String
  chatDeployment : String
  chatVersion : String
  chatDisabled : Bool
  chatTimeout : Binary64
  chatAttempts : Int
  deriving DecidableEq, Repr

namespace Settings

/-- The variable `name` without blanks at its ends, or `default` if it is not set. -/
def textSetting (env : Keyed String) (name default : String) : String :=
  Text.stripped ((env.lookup? name).getD default)

def wholeSetting (env : Keyed String) (name default : String) : Except Fault Int :=
  let given := (env.lookup? name).getD default
  match Text.readWhole given with
  | .ok n => .ok n
  | .error .notANumber => .error (.value (.notWhole given))
  | .error (.tooLong digits) => .error (.value (.longWhole digits))

def fractionSetting (env : Keyed String) (name default : String) : Except Fault Binary64 :=
  let given := (env.lookup? name).getD default
  match Text.readFraction? given with
  | some x => .ok x
  | none => .error (.value (.notFraction given))

def yesWords : List String := ["1", "true", "True", "YES", "yes"]

def withoutTrailingSlashes (s : String) : String :=
  String.ofList (Text.dropTrailing (· = '/') s.toList)

def readUnchecked (env : Keyed String) : Except Fault Settings := do
  let previewRows ← wholeSetting env "PREVIEW_ROW_LIMIT" "100"
  let chatTimeout ← fractionSetting env "LLM_TIMEOUT_SECONDS" "30"
  let chatAttempts ← wholeSetting env "LLM_MAX_RETRIES" "3"
  return {
    appTitle := textSetting env "APP_TITLE" "Stageflow - Staged SQL Transformations"
    logLevel := Text.upper (textSetting env "LOG_LEVEL" "INFO")
    database := textSetting env "DUCKDB_DATABASE" ":memory:"
    previewRows
    chatEndpoint := withoutTrailingSlashes (textSetting env "AZURE_OPENAI_ENDPOINT" "")
    chatKey := textSetting env "AZURE_OPENAI_API_KEY" ""
    chatDeployment := textSetting env "AZURE_OPENAI_DEPLOYMENT" ""
    chatVersion := textSetting env "AZURE_OPENAI_API_VERSION" "2025-01-01-preview"
    chatDisabled := yesWords.contains (textSetting env "DISABLE_AZURE_LLM" "0")
    chatTimeout
    chatAttempts }

def check (s : Settings) : Except Fault Settings :=
  if s.previewRows < 1 then .error (.setting "PREVIEW_ROW_LIMIT must be at least 1.")
  else if s.chatAttempts < 1 then .error (.setting "LLM_MAX_RETRIES must be at least 1.")
  else .ok s

def variableProblem? (name value : String) : Option String :=
  if Char.ofNat 0 ∈ name.toList ∨ Char.ofNat 0 ∈ value.toList then some "embedded null byte"
  else if '=' ∈ name.toList then some "illegal environment variable name"
  else none

def checkVariables (env : Keyed String) : Except Fault Unit :=
  match env.findSome? fun e => variableProblem? e.1 e.2 with
  | some reason => .error (.value (.other reason))
  | none => .ok ()

def read (env : Keyed String) : Except Fault Settings := do
  checkVariables env
  check (← readUnchecked env)

def chatEnabled (s : Settings) : Bool :=
  !s.chatDisabled && s.chatEndpoint ≠ "" && s.chatKey ≠ "" && s.chatDeployment ≠ ""

end Settings

end StagedSql
