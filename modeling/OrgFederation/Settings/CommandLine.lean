import OrgFederation.Number.Word64

namespace OrgFederation

/-- What can be set by a flag or a variable. -/
inductive Setting where
  | apiBaseUrl
  | watchNamespace
  | resyncInterval
  | retryInterval
  | requestTimeout
  | logFormat
  deriving DecidableEq, Repr

namespace Setting

/-- The settings in order of declaration. -/
def all : List Setting :=
  [.apiBaseUrl, .watchNamespace, .resyncInterval, .retryInterval, .requestTimeout, .logFormat]

/-- The name of the flag, behind two dashes. -/
def flag : Setting → String
  | .apiBaseUrl => "api-base-url"
  | .watchNamespace => "watch-namespace"
  | .resyncInterval => "resync-interval-secs"
  | .retryInterval => "retry-interval-secs"
  | .requestTimeout => "request-timeout-secs"
  | .logFormat => "log-format"

/-- The variable that counts when the flag is not given. -/
def variableName : Setting → String
  | .apiBaseUrl => "NIMBUS_API_BASE_URL"
  | .watchNamespace => "NIMBUS_WATCH_NAMESPACE"
  | .resyncInterval => "NIMBUS_RESYNC_INTERVAL_SECS"
  | .retryInterval => "NIMBUS_RETRY_INTERVAL_SECS"
  | .requestTimeout => "NIMBUS_REQUEST_TIMEOUT_SECS"
  | .logFormat => "NIMBUS_LOG_FORMAT"

/-- Whether the value is a number of seconds. -/
def isCount : Setting → Bool
  | .resyncInterval | .retryInterval | .requestTimeout => true
  | _ => false

def ofFlag? (name : String) : Option Setting :=
  all.find? fun setting => setting.flag == name

end Setting

/-- A switch has no value. -/
inductive Switch where
  | help
  | version
  | definition
  deriving DecidableEq, Repr

namespace Switch

/-- The name behind two dashes. -/
def flag : Switch → String
  | .help => "help"
  | .version => "version"
  | .definition => "crd"

/-- The letter behind one dash. -/
def letter? : Switch → Option Char
  | .help => some 'h'
  | .version => some 'V'
  | .definition => none

end Switch

/-- Why a command line is not run: something on it is wrong, or it asks for a text instead. -/
inductive CommandLineError where
  | unknownArgument
  | valueMissing
  | valueInvalid
  | valueUnexpected
  | repeated
  | helpWanted
  | versionWanted
  deriving DecidableEq, Repr

/-- A number of seconds fits into a word of 64 bits; a plus sign and zeros in front change
nothing. -/
def countOfText? (text : String) : Option Nat :=
  let digits := match text.toList with
    | '+' :: rest => rest
    | letters => letters
  if digits.isEmpty || !digits.all Char.isDigit then none
  else
    let value := digits.foldl (fun value digit => value * 10 + (digit.toNat - 48)) 0
    if value ≤ Word64.greatest then some value else none

/-- The values given so far; the last flag may still wait for its value or to be settled. -/
structure CommandLine where
  pending : Option (Setting × Option String)
  given : List (Setting × String)
  definitionWanted : Bool
  deriving DecidableEq, Repr

namespace CommandLine

def empty : CommandLine := ⟨none, [], false⟩

/-- A value of the right form for a setting. -/
def checked (setting : Setting) (value : String) : Except CommandLineError String :=
  if setting.isCount && (countOfText? value).isNone then .error .valueInvalid else .ok value

/-- The last flag is settled when something else begins: it needs a value, must be the first of its
name, and its value must be of the right form. -/
def settle (line : CommandLine) : Except CommandLineError CommandLine :=
  match line.pending with
  | none => .ok line
  | some (_, none) => .error .valueMissing
  | some (setting, some value) =>
      if (line.given.lookup setting).isSome then .error .repeated
      else do
        let value ← checked setting value
        return { line with pending := none, given := line.given ++ [(setting, value)] }

/-- A switch that asks for a text ends the reading. -/
def turn (line : CommandLine) : Switch → Except CommandLineError CommandLine
  | .help => .error .helpWanted
  | .version => .error .versionWanted
  | .definition =>
      if line.definitionWanted then .error .repeated else .ok { line with definitionWanted := true }

/-- A name and the value behind the first equals sign. -/
def splitValue (letters : List Char) : String × Option String :=
  match letters.span (· != '=') with
  | (name, _ :: value) => (String.ofList name, some (String.ofList value))
  | (name, []) => (String.ofList name, none)

/-- An argument behind two dashes. -/
def long (switches : List Switch) (line : CommandLine) (letters : List Char) :
    Except CommandLineError CommandLine :=
  match splitValue letters with
  | (name, value) =>
      match Setting.ofFlag? name, value with
      | some setting, some value => do
          let line ← line.settle
          settle { line with pending := some (setting, some value) }
      | some setting, none => do
          let line ← line.settle
          return { line with pending := some (setting, none) }
      | none, value =>
          match switches.find? (fun switch => switch.flag == name), value with
          | none, _ => .error .unknownArgument
          | some _, some _ => .error .valueUnexpected
          | some switch, none => do
              let line ← line.settle
              line.turn switch

/-- An argument behind one dash, of which the first letter decides. -/
def short (switches : List Switch) (line : CommandLine) (letter : Char) :
    Except CommandLineError CommandLine :=
  match switches.find? fun switch => switch.letter? == some letter with
  | none => .error .unknownArgument
  | some switch => do
      let line ← line.settle
      line.turn switch

/-- Any other argument is the value of the last flag. -/
def value (line : CommandLine) (argument : String) : Except CommandLineError CommandLine :=
  match line.pending with
  | some (setting, none) => .ok { line with pending := some (setting, some argument) }
  | _ => .error .unknownArgument

/-- Arguments are read one after another. Nothing may follow two bare dashes. -/
def read (switches : List Switch) :
    CommandLine → List String → Except CommandLineError CommandLine
  | line, [] => line.settle
  | line, argument :: rest =>
      match argument.toList with
      | ['-', '-'] => if rest.isEmpty then line.settle else .error .unknownArgument
      | '-' :: '-' :: letters => do
          let line ← line.long switches letters
          read switches line rest
      | '-' :: letter :: _ => do
          let line ← line.short switches letter
          read switches line rest
      | _ => do
          let line ← line.value argument
          read switches line rest

end CommandLine

/-- Variables by their names. -/
abbrev Environment := List (String × String)

/-- The values of all settings before they are validated. -/
structure RawSettings where
  apiBaseUrl : String
  watchNamespace : Option String
  resyncInterval : Nat
  retryInterval : Nat
  requestTimeout : Nat
  logFormat : String
  deriving DecidableEq, Repr

namespace RawSettings

/-- The settings of a program that is told nothing. -/
def standard : RawSettings :=
  ⟨"https://cloud.mongodb.com", none, 300, 30, 30, "json"⟩

def set (raw : RawSettings) (setting : Setting) (value : String) : RawSettings :=
  let count := (countOfText? value).getD 0
  match setting with
  | .apiBaseUrl => { raw with apiBaseUrl := value }
  | .watchNamespace => { raw with watchNamespace := some value }
  | .resyncInterval => { raw with resyncInterval := count }
  | .retryInterval => { raw with retryInterval := count }
  | .requestTimeout => { raw with requestTimeout := count }
  | .logFormat => { raw with logFormat := value }

/-- A flag wins over its variable, which is then not looked at. -/
def ofCommandLine (line : CommandLine) (environment : Environment) :
    Except CommandLineError RawSettings :=
  Setting.all.foldlM (fun raw setting => do
    match line.given.lookup setting, environment.lookup setting.variableName with
    | some value, _ => return raw.set setting value
    | none, some value => do
        let value ← CommandLine.checked setting value
        return raw.set setting value
    | none, none => return raw) standard

end RawSettings

/-- The command line and the variables together; tells too whether the definition is wanted. -/
def readCommandLine (switches : List Switch) (arguments : List String)
    (environment : Environment) : Except CommandLineError (Bool × RawSettings) := do
  let line ← CommandLine.read switches .empty arguments
  let raw ← RawSettings.ofCommandLine line environment
  return (line.definitionWanted, raw)

end OrgFederation
