/-!
# Errors

Everything that can go wrong between a configuration or a document and the written site, with the
text, the kind and the advice shown for it.

## Main definitions

* `SiteError`: the causes.
* `SiteError.message`: what happened.
* `SiteError.category`, `SiteError.severity`, `SiteError.suggestion`: what kind of trouble it is,
  how grave, and what to do.
* `SiteError.worst?`: where the gravest of several errors stands.
-/

namespace Matchday

/-- What can go wrong in making a site, with what its message tells. -/
inductive SiteError where
  | api (context message : String)
  | transport (text : String)
  | io (text : String)
  | config (message : String)
  | configValidation (field message : String)
  | invalidValue (field value reason : String)
  | missingConfig (field : String)
  | write (path message : String)
  | model (message : String)
deriving DecidableEq, Repr, Inhabited

/-- What an error is about. -/
inductive ErrorCategory where
  | network
  | storage
  | configuration
  | data
deriving DecidableEq, Repr

/-- How grave an error is, from the least. -/
inductive ErrorSeverity where
  | low
  | medium
  | high
  | critical
deriving DecidableEq, Repr

namespace ErrorSeverity

/-- A number that grows with the severity. -/
def rank : ErrorSeverity → Nat
  | low => 0
  | medium => 1
  | high => 2
  | critical => 3

/-- The severity as reports show it. -/
def name : ErrorSeverity → String
  | low => "Low"
  | medium => "Medium"
  | high => "High"
  | critical => "Critical"

end ErrorSeverity

namespace ErrorCategory

/-- The category as reports show it. -/
def name : ErrorCategory → String
  | network => "Network"
  | storage => "Storage"
  | configuration => "Configuration"
  | data => "Data"

/-- Trouble with the network tends to pass; lost output does not. -/
def severity : ErrorCategory → ErrorSeverity
  | network => .medium
  | data => .high
  | configuration => .high
  | storage => .critical

end ErrorCategory

namespace SiteError

/-- The wording of an error. -/
def message : SiteError → String
  | api context message => s!"API request failed for {context}: {message}"
  | transport text => s!"HTTP transport error: {text}"
  | io text => s!"IO error: {text}"
  | config message => s!"Configuration error: {message}"
  | configValidation field message =>
    s!"Configuration validation failed for '{field}': {message}"
  | invalidValue field value reason => s!"Invalid value '{value}' for '{field}': {reason}"
  | missingConfig field => s!"Missing required configuration '{field}'"
  | write path message => s!"Failed to write '{path}': {message}"
  | model message => s!"Model document error: {message}"

/-- What an error is about. -/
def category : SiteError → ErrorCategory
  | api .. | transport .. => .network
  | io .. | write .. => .storage
  | config .. | configValidation .. | invalidValue .. | missingConfig .. => .configuration
  | model .. => .data

/-- How severe an error is, which its category decides. -/
def severity (e : SiteError) : ErrorSeverity :=
  e.category.severity

/-- What the user may do about an error. -/
def suggestion : SiteError → String
  | api .. | transport .. =>
    "Check the API key, the base URL and the vendor's rate limits, then retry"
  | io .. | write .. => "Check that the output directory exists and is writable"
  | config .. => "Make sure the config file exists, is readable and is valid TOML"
  | configValidation .. | invalidValue .. | missingConfig .. =>
    "Fix the configuration file and run again"
  | model .. => "Check that the fixture document is valid JSON with every required field"

/-- The message led in by what the user was about to do. -/
def userMessage (e : SiteError) : String :=
  match e.category with
  | .network => s!"Could not reach the fixture provider: {e.message}"
  | .storage => s!"Could not persist output: {e.message}"
  | .configuration => s!"Configuration problem: {e.message}"
  | .data => s!"Input data problem: {e.message}"

/-- The place of the first error of the highest severity. -/
def worst? (errors : List SiteError) : Option Nat :=
  let ranks := errors.map fun e => e.severity.rank
  ranks.max?.bind fun top => ranks.findIdx? (· == top)

end SiteError

end Matchday
