import OrgFederation.Settings.CommandLine

namespace OrgFederation

namespace Setting

/-- What a setting is for. -/
def purpose : Setting → String
  | .apiBaseUrl => "Base URL of the management API"
  | .watchNamespace =>
      "Only watch FederatedAuth resources in this namespace (all namespaces when unset)"
  | .resyncInterval => "Seconds between passes for a converged resource"
  | .retryInterval => "Seconds before retrying a resource that failed with a retryable reason"
  | .requestTimeout => "Timeout for a single management API request"
  | .logFormat => "Log output format (json or text)"

/-- The value of a setting that is told nowhere. -/
def standard? : Setting → Option String
  | .apiBaseUrl => some RawSettings.standard.apiBaseUrl
  | .watchNamespace => RawSettings.standard.watchNamespace
  | .resyncInterval => some (toString RawSettings.standard.resyncInterval)
  | .retryInterval => some (toString RawSettings.standard.retryInterval)
  | .requestTimeout => some (toString RawSettings.standard.requestTimeout)
  | .logFormat => some RawSettings.standard.logFormat

/-- The name that stands for the value. -/
def placeholder (setting : Setting) : String :=
  String.ofList (setting.flag.toList.map fun letter =>
    if letter == '-' then '_' else letter.toUpper)

/-- The lines about a setting, with its variable as it is and its standard value. -/
def helpLines (environment : Environment) (setting : Setting) : List String :=
  let held := (environment.lookup setting.variableName).getD ""
  let standard := setting.standard?.elim "" fun value => " [default: " ++ value ++ "]"
  ["      --" ++ setting.flag ++ " <" ++ setting.placeholder ++ ">",
    "          " ++ setting.purpose ++ " [env: " ++ setting.variableName ++ "=" ++ held ++ "]" ++
      standard]

end Setting

/-- The help text, one line after another. -/
def helpLines (environment : Environment) : List String :=
  ["Nimbus operator: keeps managed database-service federated authentication in sync with " ++
      "FederatedAuth resources", "", "Usage: nimbus-operator [OPTIONS]", "", "Options:",
    "      --crd", "          Generate CRD manifests and exit"] ++
    Setting.all.flatMap (Setting.helpLines environment) ++
    ["  -h, --help", "          Print help", "  -V, --version", "          Print version"]

namespace CommandLineError

/-- The wording of a problem with the command line. -/
def message : CommandLineError → String
  | .unknownArgument => "unexpected argument found"
  | .valueMissing => "a value is required but none was supplied"
  | .valueInvalid => "invalid value"
  | .valueUnexpected => "unexpected value found; no more were accepted"
  | .repeated => "an argument cannot be used multiple times"
  | .helpWanted => "help was asked for"
  | .versionWanted => "the version was asked for"

end CommandLineError

end OrgFederation
