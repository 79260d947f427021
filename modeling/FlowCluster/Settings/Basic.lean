import FlowCluster.Duration
import FlowCluster.Text.Basic
import FlowCluster.Text.Shown
import FlowCluster.Text.Utf8

/-! # Settings and where they come from

The settings of a run, what a lookup needs of them, and how they are read from the environment. -/

/-! ## Settings

Where the two directories are, the key that opens the cluster directory, and how they are called. A listing of
the settings never shows the key. -/

namespace FlowCluster

/-- One of the settings, as the environment knows it. -/
inductive Setting
  | flowHost
  | clusterHost
  | masterKey
  | scheme
  | timeout
  deriving DecidableEq, Repr

def Setting.variable : Setting → String
  | .flowHost => "KUBE_PROXY_RIVER_HOST"
  | .clusterHost => "KUBE_PROXY_AUTHENTICATOR_HOST"
  | .masterKey => "KUBE_PROXY_MASTER_API_KEY"
  | .scheme => "KUBE_PROXY_UPSTREAM_SCHEME"
  | .timeout => "KUBE_PROXY_UPSTREAM_TIMEOUT_SECS"

/-- What a run is configured with. -/
structure Settings where
  flowHost : String
  clusterHost : String
  masterKey : String
  scheme : String
  timeout : Duration
  deriving DecidableEq, Repr

/-- What is shown in place of a secret. -/
def redaction : String := "<redacted>"

namespace Settings

def defaultScheme : String := "https"

/-- Seconds to wait for an answer when nothing else is said. -/
def defaultSeconds : Nat := 30

/-- Settings with the default scheme and timeout. -/
def of (flowHost clusterHost masterKey : String) : Settings :=
  ⟨flowHost, clusterHost, masterKey, defaultScheme, .ofSeconds defaultSeconds⟩

/-- The settings for a reader, without the key. -/
def listing (s : Settings) : Text.Listing where
  title := "ResolverConfig"
  entries := [
    ("flow_host", Text.Quoted.quote s.flowHost),
    ("cluster_host", Text.Quoted.quote s.clusterHost),
    ("master_api_key", Text.Quoted.quote redaction),
    ("scheme", Text.Quoted.quote s.scheme),
    ("timeout", s.timeout.text)]

end Settings

/-! ## Readiness

What each lookup needs of the settings, checked before it sends anything. The flow lookup does not ask for the
settings of the cluster directory. -/

/-- Why settings do not allow a lookup. -/
inductive Misconfiguration
  | unknownScheme (found : String)
  | notSet (setting : Setting)
  | other (reason : String)
  deriving DecidableEq, Repr

def Misconfiguration.message : Misconfiguration → String
  | .unknownScheme found =>
    Setting.scheme.variable ++ " must be http or https, got " ++ Text.Quoted.quote found
  | .notSet s => s.variable ++ " is not set"
  | .other reason => reason

namespace Settings

/-- The scheme is one of the two that can be spoken. -/
def checkScheme (s : Settings) : Except Misconfiguration Unit :=
  if s.scheme = "https" ∨ s.scheme = "http" then .ok () else .error (.unknownScheme s.scheme)

/-- A setting whose value is not white space alone. -/
def checkPresent (value : String) (setting : Setting) : Except Misconfiguration Unit :=
  if Text.Blank.isEmpty value then .error (.notSet setting) else .ok ()

/-- All that the flow lookup needs. -/
def checkFlow (s : Settings) : Except Misconfiguration Unit := do
  s.checkScheme
  checkPresent s.flowHost .flowHost

/-- All that the cluster lookup needs. -/
def checkClusters (s : Settings) : Except Misconfiguration Unit := do
  s.checkScheme
  checkPresent s.clusterHost .clusterHost
  checkPresent s.masterKey .masterKey

end Settings

/-! ## Settings from the environment

Variables hold bytes. One that is not text counts as absent, and absent texts are empty. A scheme that says
nothing and a timeout that is no count give way to their defaults without complaint; a lookup reports what is
missing when it needs it. -/

structure Environment where
  values : List (String × Bytes)

namespace Environment

def bytes? (e : Environment) (name : String) : Option Bytes :=
  (e.values.find? fun v => v.1 == name).map Prod.snd

/-- The text of a variable that is set and is text. -/
def text? (e : Environment) (name : String) : Option String := (e.bytes? name).bind Text.Utf8.decode?

def setting? (e : Environment) (s : Setting) : Option String := e.text? s.variable

end Environment

namespace Settings

/-- The whole seconds that a text gives once it is trimmed. -/
def seconds? (s : String) : Option Nat := (Text.Count.read (Text.Blank.trim s)).toOption

def ofEnvironment (e : Environment) : Settings where
  flowHost := (e.setting? .flowHost).getD ""
  clusterHost := (e.setting? .clusterHost).getD ""
  masterKey := (e.setting? .masterKey).getD ""
  scheme := ((e.setting? .scheme).filter fun s => !Text.Blank.isEmpty s).getD defaultScheme
  timeout := .ofSeconds (((e.setting? .timeout).bind seconds?).getD defaultSeconds)

end Settings
end FlowCluster
