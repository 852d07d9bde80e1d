import OrgFederation.Proofs.Json.Objects
import OrgFederation.Proofs.Sequence
import OrgFederation.Proofs.Text.Casing
import OrgFederation.Settings.Basic

namespace OrgFederation

namespace LogFormat

/-- The names of a format. -/
def names : LogFormat → List String
  | .json => ["json"]
  | .text => ["text", "pretty"]

end LogFormat

namespace Settings

/-- What raw settings are checked for. -/
inductive Check where
  | urlSyntax
  | urlScheme
  | resyncInterval
  | retryInterval
  | requestTimeout
  | logFormat

namespace Check

/-- The checks in their order. -/
def all : List Check :=
  [.urlSyntax, .urlScheme, .resyncInterval, .retryInterval, .requestTimeout, .logFormat]

/-- The setting that a check is for. The check of the log format does not tell it. -/
def told : Check → String
  | .urlSyntax | .urlScheme => "api-base-url"
  | .resyncInterval => "resync-interval-secs"
  | .retryInterval => "retry-interval-secs"
  | .requestTimeout => "request-timeout-secs"
  | .logFormat => "unknown"

end Check

section Steps

variable {raw : RawSettings} {problem : OperatorError} {message : String}

end Steps

section Validation

variable {raw : RawSettings}

/-- The scheme is told before times that are zero, and these before the format. -/
example : (ofRaw ⟨"ftp://cloud", none, 0, 0, 0, "xml"⟩ =
      .error (.validation "api-base-url" "unsupported scheme ftp")) ∧
    ofRaw ⟨"HTTPS://cloud", some "", 300, 0, 30, "xml"⟩ =
      .error (.validation "retry-interval-secs" "must be greater than zero") := by
  decide +kernel

end Validation

end Settings

end OrgFederation
