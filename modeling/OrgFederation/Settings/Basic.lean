import OrgFederation.Logging.Format
import OrgFederation.Reconciliation.Basic
import OrgFederation.Settings.CommandLine
import OrgFederation.Url.Reader

namespace OrgFederation

/-- Without a namespace to watch, all namespaces are watched. Times are in seconds. -/
structure Settings where
  apiBaseUrl : Url
  watchNamespace : Option String
  intervals : Intervals
  requestTimeout : Nat
  logFormat : LogFormat
  deriving DecidableEq, Repr

namespace Settings

/-- The base address of the service, which is reached over the web. -/
def baseUrl (text : String) : Except OperatorError Url :=
  let flag := Setting.apiBaseUrl.flag
  match Url.ofText text with
  | .error cause => .error (.validation flag (text ++ ": " ++ cause.message))
  | .ok url =>
      if url.isHttp then .ok url
      else .error (.validation flag ("unsupported scheme " ++ url.scheme))

/-- A number of seconds that is not zero. -/
def positive (setting : Setting) (value : Nat) : Except OperatorError Nat :=
  if value = 0 then .error (.validation setting.flag "must be greater than zero") else .ok value

/-- The first check that fails is reported. -/
def ofRaw (raw : RawSettings) : Except OperatorError Settings := do
  let apiBaseUrl ← baseUrl raw.apiBaseUrl
  let resync ← positive .resyncInterval raw.resyncInterval
  let retry ← positive .retryInterval raw.retryInterval
  let requestTimeout ← positive .requestTimeout raw.requestTimeout
  let logFormat ← LogFormat.ofText raw.logFormat
  let watchNamespace := raw.watchNamespace.filter fun name => !name.isEmpty
  return ⟨apiBaseUrl, watchNamespace, ⟨resync, retry⟩, requestTimeout, logFormat⟩

end Settings

end OrgFederation
