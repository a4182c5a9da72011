import FlowLint.Json.Convert
import FlowLint.Log
import FlowLint.Text.Case

/-!
# Settings of the service

Settings are read from named texts of the environment. What is not given, or is no number where
one is needed, has a default.
-/

namespace FlowLint

/-- Named texts from outside. -/
abbrev Environment := List (String × String)

namespace Environment

/-- The text of a name, without blanks around it; a default stands for one that is not given. -/
def text (env : Environment) (name fallback : String) : String :=
  String.ofList (Text.trim (((env.find? (·.1 = name)).map Prod.snd).getD fallback).toList)

/-- The whole number of a name. -/
def number (env : Environment) (name : String) (fallback : Int) : Int :=
  match env.find? (·.1 = name) with
  | some (_, text) => (Reading.integer? 10 text.toList).getD fallback
  | none => fallback

/-- The truth value of a name; anything that is given counts as false but four words. -/
def flag (env : Environment) (name : String) : Bool :=
  ["1", "true", "yes", "on"].contains (String.ofList ((env.text name "").toList.map Char.toLower))

end Environment

/-- The settings of the service. -/
structure Settings where
  host : String
  port : Int
  logLevel : String
  detectionLevel : Int
  verbose : Bool
  /-- Where quality records are kept; empty if they are not. -/
  databasePath : String
  retentionDays : Int
  webhookUrl : String
  instanceUrl : String
  deriving Repr, DecidableEq, Inhabited

namespace Settings

/-- The text, or a default for the empty one. -/
def orDefault (text fallback : String) : String :=
  if text = "" then fallback else text

/-- The settings that an environment gives. -/
def ofEnvironment (env : Environment) : Settings :=
  { host := env.text "HOST" "0.0.0.0"
    port := env.number "PORT" 8000
    logLevel :=
      orDefault (String.ofList (Text.upperText (env.text "LOG_LEVEL" "INFO").toList)) "INFO"
    detectionLevel := max 1 (min 3 (env.number "DETECTION_LEVEL" 2))
    verbose := env.flag "ANALYZER_VERBOSE"
    databasePath := env.text "METRICS_DB_PATH" "quality_metrics.db"
    retentionDays := max 1 (min 30 (env.number "METRICS_RETENTION_DAYS" 7))
    webhookUrl := env.text "SLACK_WEBHOOK_URL" ""
    instanceUrl := orDefault (env.text "NODE_RED_BASE_URL" "") "http://localhost:1880" }

/-- Notes at the start of the service, without a file of settings. -/
def startupNotes (s : Settings) : List LogEntry :=
  [⟨.info, ".env file not found; using environment variables and defaults."⟩]
    ++ (if s.databasePath = "" then
          [⟨.warning, "METRICS_DB_PATH is empty. Quality history will not be stored."⟩]
        else [])
    ++ (if s.webhookUrl = "" then
          [⟨.warning, "SLACK_WEBHOOK_URL not set. Code analysis alerts will only be logged."⟩]
        else [])

end Settings

end FlowLint
