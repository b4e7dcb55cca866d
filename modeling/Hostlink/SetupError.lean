import Hostlink.Error

/-!
# Failures of setup

The causes for which a configuration is refused or logging cannot be set up.
-/

namespace Hostlink

/-- The timeouts of a configuration. -/
inductive Timeout where
  | request
  | probe
  deriving DecidableEq, Repr

/-- The name of a timeout at the start of a sentence. -/
def Timeout.title : Timeout → String
  | .request => "Request timeout"
  | .probe => "Probe timeout"

/-- The greatest timeout in seconds. -/
def maxTimeoutSeconds : Nat := 300

/-- What a host has to provide. -/
inductive Capability where
  | fileSystem
  | httpClient
  | networkChange
  deriving DecidableEq, Repr

/-- The name of a capability. -/
def Capability.name : Capability → String
  | .fileSystem => "FileSystem"
  | .httpClient => "HttpClient"
  | .networkChange => "NetworkChange"

/-- What to do about a capability that is missing. -/
def Capability.advice : Capability → String
  | .fileSystem =>
    "FileSystem implementation is required for file I/O. " ++
    "Desktop: enable the 'desktop-shims' feature to use the default TokioFileSystem. " ++
    "Other hosts: inject an adapter over the platform file API."
  | .httpClient =>
    "HttpClient implementation is required for network requests. " ++
    "Desktop: enable the 'desktop-shims' feature to use the default ReqwestHttpClient. " ++
    "Other hosts: inject an adapter over the platform HTTP stack."
  | .networkChange =>
    "Network awareness requires a NetworkChange implementation. " ++
    "Desktop: enable the 'desktop-shims' feature to use the default DesktopNetworkChange. " ++
    "Other hosts: inject an adapter over the platform connectivity API, " ++
    "or disable network awareness."

/-- Why setup failed. -/
inductive SetupError where
  | timeoutZero (timeout : Timeout)
  | timeoutTooLong (timeout : Timeout)
  | awarenessWithoutMonitor
  | capabilityMissing (capability : Capability)
  /-- An adapter of the desktop that cannot be made. -/
  | host (error : HostError)
  /-- A log filter with something other than a level where a level has to stand. -/
  | filterLevel
  /-- A log filter with a part that is no directive. -/
  | filterDirective
  /-- A log filter that asks for a value by a pattern that is not well formed. -/
  | filterPattern
  /-- A log filter with a pattern that looks for the edges of words. -/
  | filterWordEdge
  /-- A log filter with blanks in front, whose parts would be cut off inside a character. -/
  | brokenCut (complaint : String)
  | loggingAlreadySet
  deriving DecidableEq, Repr

/-- The sentence that reports a failure of setup. -/
def SetupError.message : SetupError → String
  | .timeoutZero timeout => s!"Configuration error: {timeout.title} must be greater than 0"
  | .timeoutTooLong timeout =>
    s!"Configuration error: {timeout.title} exceeds maximum of {maxTimeoutSeconds} seconds"
  | .awarenessWithoutMonitor =>
    "Configuration error: Network awareness enabled but no NetworkChange provided. " ++
    "Disable the feature or inject a NetworkChange implementation."
  | .capabilityMissing capability =>
    s!"Capability missing: {capability.name} - {capability.advice}"
  | .host error => error.message
  | .filterLevel =>
    "Configuration error: Invalid log filter: error parsing level filter: expected one of " ++
    "\"off\", \"error\", \"warn\", \"info\", \"debug\", \"trace\", or a number 0-5"
  | .filterDirective => "Configuration error: Invalid log filter: invalid filter directive"
  | .filterPattern =>
    "Configuration error: Invalid log filter: invalid field filter: error building NFA"
  | .filterWordEdge =>
    "Configuration error: Invalid log filter: invalid field filter: " ++
    "unsupported regex feature for DFAs: cannot build DFAs for regexes with Unicode word " ++
    "boundaries; switch to ASCII word boundaries, or heuristically enable Unicode word " ++
    "boundaries or use a different regex engine"
  | .brokenCut complaint => complaint
  | .loggingAlreadySet =>
    "Configuration error: Failed to initialize logging: " ++
    "a global default trace dispatcher has already been set"

end Hostlink
