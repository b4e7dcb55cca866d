import Hostlink.Http.Client
import Hostlink.Network.Adapter
import Hostlink.SetupError

/-!
# Configuration

A configuration collects the capabilities that an application runs on, with two timeouts and the
feature flags.  It is built from settings; of several calls that set the same thing the last one
counts.  A capability that was not injected gets the desktop's own adapter where these are
available, and is an error where they are not.
-/

namespace Hostlink.Config

open Time

/-- Feature flags. -/
structure Features where
  /-- Whether the application wants to hear about the network. -/
  networkAwareness : Bool
  deriving DecidableEq, Repr

/-- No features. -/
def Features.standard : Features := ⟨false⟩

/-- A capability in use: an object that was injected, known by a number, or the desktop's own
adapter, made with some setting. -/
inductive Provider (setting : Type) where
  | injected (object : Nat)
  | standard (made : setting)
  deriving DecidableEq, Repr

/-! ## Settings -/

/-- What has been set so far. -/
structure Settings where
  fileSystem : Option Nat
  httpClient : Option Nat
  networkChange : Option Nat
  requestTimeout : Option Duration
  probeTimeout : Option Duration
  features : Features
  deriving DecidableEq, Repr

/-- Nothing has been set. -/
def Settings.empty : Settings := ⟨none, none, none, none, none, .standard⟩

/-- One call that sets something. -/
inductive Call where
  | fileSystem (object : Nat)
  | httpClient (object : Nat)
  | networkChange (object : Nat)
  | requestTimeout (timeout : Duration)
  | probeTimeout (timeout : Duration)
  | networkAwareness (enabled : Bool)
  | features (features : Features)
  deriving DecidableEq, Repr

/-- The settings after a call. -/
def Settings.set (s : Settings) : Call → Settings
  | .fileSystem object => { s with fileSystem := some object }
  | .httpClient object => { s with httpClient := some object }
  | .networkChange object => { s with networkChange := some object }
  | .requestTimeout timeout => { s with requestTimeout := some timeout }
  | .probeTimeout timeout => { s with probeTimeout := some timeout }
  | .networkAwareness enabled => { s with features := ⟨enabled⟩ }
  | .features features => { s with features }

/-- The settings after a list of calls. -/
def Settings.ofCalls (calls : List Call) : Settings := calls.foldl Settings.set .empty

/-! ## Configurations -/

/-- A complete configuration. -/
structure Complete where
  fileSystem : Provider Unit
  /-- The standard client is made with a timeout. -/
  httpClient : Provider Duration
  /-- The standard monitor is made with a timeout. -/
  networkChange : Option (Provider Duration)
  requestTimeout : Duration
  probeTimeout : Duration
  features : Features
  deriving DecidableEq, Repr

/-- The request timeout unless another one is set. -/
def defaultRequestTimeout : Duration := .ofSeconds 30

/-- The probe timeout unless another one is set. -/
def defaultProbeTimeout : Duration := .ofSeconds 5

/-- A timeout is positive and at most five minutes. -/
def checkTimeout (which : Timeout) (timeout : Duration) : Except SetupError Unit :=
  if timeout.isZero then .error (.timeoutZero which)
  else if (Duration.ofSeconds maxTimeoutSeconds).toNanos < timeout.toNanos then
    .error (.timeoutTooLong which)
  else .ok ()

/-- Whether a configuration holds together. -/
def Complete.validate (c : Complete) : Except SetupError Unit := do
  checkTimeout .request c.requestTimeout
  checkTimeout .probe c.probeTimeout
  if c.features.networkAwareness && c.networkChange.isNone then .error .awarenessWithoutMonitor
  else .ok ()

/-- The desktop's own adapters.  Making the HTTP client can fail with a complaint. -/
structure Desktop where
  makeClient : Duration → Except String Unit

namespace Desktop

/-- A desktop on which every client can be made. -/
def working : Desktop := ⟨fun _ => .ok ()⟩

/-- The HTTP client with a timeout. -/
def client (d : Desktop) (timeout : Duration) : Except SetupError Duration :=
  match d.makeClient timeout with
  | .ok _ => .ok timeout
  | .error complaint => .error (.host (.http s!"Failed to build HTTP client: {complaint}"))

end Desktop

/-- The injected object, or the desktop's own adapter where there is a desktop. -/
def provide {setting : Type} (capability : Capability) (object : Option Nat)
    (desktop : Option Desktop) (make : Desktop → Except SetupError setting) :
    Except SetupError (Provider setting) :=
  match object, desktop with
  | some object, _ => .ok (.injected object)
  | none, some desktop => .standard <$> make desktop
  | none, none => .error (.capabilityMissing capability)

/-- The monitor, where one was injected or the application wants to hear about the network. -/
def Settings.monitor (desktop : Option Desktop) (probeTimeout : Duration) (s : Settings) :
    Except SetupError (Option (Provider Duration)) :=
  if s.networkChange.isSome || s.features.networkAwareness then
    some <$> provide .networkChange s.networkChange desktop fun _ => .ok probeTimeout
  else .ok none

/-- Builds a configuration, with the desktop's own adapters if there are any. -/
def Settings.build (desktop : Option Desktop) (s : Settings) : Except SetupError Complete := do
  let requestTimeout := s.requestTimeout.getD defaultRequestTimeout
  let probeTimeout := s.probeTimeout.getD defaultProbeTimeout
  checkTimeout .request requestTimeout
  checkTimeout .probe probeTimeout
  let fileSystem ← provide .fileSystem s.fileSystem desktop fun _ => .ok ()
  let httpClient ← provide .httpClient s.httpClient desktop (·.client requestTimeout)
  let networkChange ← s.monitor desktop probeTimeout
  let config : Complete :=
    ⟨fileSystem, httpClient, networkChange, requestTimeout, probeTimeout, s.features⟩
  config.validate
  return config

/-- The configuration for diagnosis. -/
def Complete.shown (c : Complete) : Text.Diagnostic :=
  .record "InteropConfig" [
    ("file_system", .quoted "FileSystem \x7b ... \x7d"),
    ("http_client", .quoted "HttpClient \x7b ... \x7d"),
    ("network_change",
      .option (c.networkChange.map fun _ => .quoted "NetworkChange \x7b ... \x7d")),
    ("request_timeout", .atom c.requestTimeout.shown),
    ("probe_timeout", .atom c.probeTimeout.shown),
    ("features", .record "FeatureFlags" [
      ("enable_network_awareness", .bool c.features.networkAwareness)])]

/-! ## Changes to a finished configuration -/

/-- An assignment to a part of a configuration. -/
inductive Change where
  | fileSystem (object : Nat)
  | httpClient (object : Nat)
  | requestTimeout (timeout : Duration)
  | probeTimeout (timeout : Duration)
  | networkAwareness (enabled : Bool)
  /-- Sets an injected monitor, or none. -/
  | networkChange (object : Option Nat)
  | nothing
  deriving DecidableEq, Repr

/-- The configuration after an assignment. -/
def Complete.change (c : Complete) : Change → Complete
  | .fileSystem object => { c with fileSystem := .injected object }
  | .httpClient object => { c with httpClient := .injected object }
  | .requestTimeout timeout => { c with requestTimeout := timeout }
  | .probeTimeout timeout => { c with probeTimeout := timeout }
  | .networkAwareness enabled => { c with features := ⟨enabled⟩ }
  | .networkChange object => { c with networkChange := object.map .injected }
  | .nothing => c

/-! ## The end of a configuration

The desktop's own client and monitor are wrappers, which report when they are dropped. -/

/-- The log event of dropping a wrapper that only referred to an object of a type. -/
def dropped (typeName : String) : Log.Event :=
  (Wrapper.borrowed ⟨typeName, 0⟩).disposalNotice 0

/-- The log events of dropping the client. -/
def dropClient : Provider Duration → List Log.Event
  | .standard _ => [dropped Http.clientTypeName]
  | .injected _ => []

/-- The log events of dropping the monitor. -/
def dropMonitor (monitor : Option (Provider Duration)) : List Log.Event :=
  match monitor with
  | some (.standard _) => [dropped SourceId.typeName]
  | _ => []

/-- The log events of dropping a configuration. -/
def Complete.drop (c : Complete) : List Log.Event :=
  dropClient c.httpClient ++ dropMonitor c.networkChange

/-- Makes changes one by one and validates after each; the result has the outcomes, and the log
events up to the end of the configuration. -/
def Complete.changeAll (c : Complete) : List Change → List (Except SetupError Unit) × List Log.Event
  | [] => ([], c.drop)
  | change :: rest =>
    let next := c.change change
    let replaced :=
      match change with
      | .httpClient _ => dropClient c.httpClient
      | .networkChange _ => dropMonitor c.networkChange
      | _ => []
    let (outcomes, events) := next.changeAll rest
    (next.validate :: outcomes, replaced ++ events)

end Hostlink.Config
