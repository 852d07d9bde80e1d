import OrgFederation.Logging.Line
import OrgFederation.Settings.Basic
import OrgFederation.Text.Quoted

namespace OrgFederation

/-- A program prints a text and is done, refuses its command line or its settings, or starts. -/
inductive Startup where
  | definition
  | version
  | help
  | refusedCommandLine (problem : CommandLineError)
  | refusedSettings (error : OperatorError)
  | started (settings : Settings) (lines : List LogLine)
  deriving Repr

namespace Startup

def programName : String := "nimbus-operator"

def programVersion : String := "0.1.0"

/-- The line that tells the version. -/
def versionLine : String := programName ++ " " ++ programVersion

/-- The variable that holds the log filter. -/
def filterVariable : String := "RUST_LOG"

/-- The log filter, which is the standard one when there is none or when it is not understood. -/
def filter (environment : Environment) : LogFilter :=
  ((environment.lookup filterVariable).bind LogFilter.ofText?).getD .standard

/-- The description of a value that may be absent. -/
def describe : Option String → String
  | none => "None"
  | some text => "Some(" ++ Text.quoted text ++ ")"

/-- The lines of a program that starts. -/
def lines (settings : Settings) : List LogLine :=
  [⟨.info, "nimbus_common::telemetry", "tracing initialized",
      [("service", programName), ("format", settings.logFormat.name)]⟩,
    ⟨.info, "nimbus_operator", "Starting Nimbus operator",
      [("api_base_url", settings.apiBaseUrl.text),
        ("watch_namespace", describe settings.watchNamespace)]⟩]

/-- The definition is printed whatever the settings are. -/
def ofCommandLine (arguments : List String) (environment : Environment) : Startup :=
  match readCommandLine [.help, .version, .definition] arguments environment with
  | .error .helpWanted => .help
  | .error .versionWanted => .version
  | .error problem => .refusedCommandLine problem
  | .ok (true, _) => .definition
  | .ok (false, raw) =>
      match Settings.ofRaw raw with
      | .error error => .refusedSettings error
      | .ok settings =>
          let filter := filter environment
          .started settings
            ((lines settings).filter fun line => filter.allows line.source line.level)

/-- The message of a program that finds no cluster. -/
def noCluster : String := "Failed to create Kubernetes client"

/-- The code that a program exits with when it finds no cluster. -/
def exitCode : Startup → Nat
  | .definition | .version | .help => 0
  | .refusedCommandLine _ => 2
  | .refusedSettings _ | .started _ _ => 1

/-- The error that a program reports when it finds no cluster. -/
def errorLine? : Startup → Option String
  | .refusedSettings error => some ("Error: " ++ error.message?.getD "")
  | .started _ _ => some ("Error: " ++ noCluster)
  | _ => none

end Startup

end OrgFederation
