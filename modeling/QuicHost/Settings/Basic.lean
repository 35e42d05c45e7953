import QuicHost.Connection.Settings
import QuicHost.Settings.Level

/-!
# Settings of an endpoint

The settings of an endpoint are three groups: what the endpoint as a whole does,
what each of its connections gets, and what is logged. As with the settings of a
connection, `problems` lists everything that is wrong, in a fixed order.
Settings without a problem may still ask for more than is wise, which `warnings`
tells.
-/

namespace QuicHost

/-! ## The endpoint as a whole -/

/-- What an endpoint does for all its connections. -/
structure EndpointSettings where
  /-- how many connections may be held at a time -/
  maxConnections : Nat := 10000
  /-- the protocol versions that are spoken; a datagram of another one is
  answered with this list -/
  supportedVersions : List Nat := [1]
  /-- whether a datagram with an unknown identifier may open a connection -/
  acceptIncoming : Bool := true
  /-- whether a short header with an unknown identifier is answered with a reset -/
  statelessReset : Bool := true
  /-- how many events the channel to the host holds -/
  eventChannelCapacity : Nat := 4096
deriving DecidableEq, Repr

namespace EndpointSettings

instance : Inhabited EndpointSettings := ⟨{}⟩

/-- Whether a version is one of those reserved for testing that negotiation
works: each of its four bytes ends in the digit `a`. -/
def isReservedVersion (version : Nat) : Bool := version &&& 0x0f0f0f0f == 0x0a0a0a0a

/-- Something wrong with the settings of an endpoint. -/
inductive Problem where
  /-- no connection could ever be held -/
  | noConnections
  /-- no version is spoken -/
  | noVersions
  /-- a version is spoken that is never used -/
  | reservedVersion (version : Nat)
  /-- the event channel would hold nothing -/
  | noEventCapacity
deriving DecidableEq, Repr

/-- The text of a problem. -/
def Problem.message : Problem → String
  | noConnections => "endpoint.max_connections must be greater than 0"
  | noVersions => "endpoint.supported_versions must not be empty"
  | reservedVersion version =>
    "endpoint.supported_versions contains reserved version 0x" ++
      Bytes.toHex (Bytes.bigEndian 4 version)
  | noEventCapacity => "endpoint.event_channel_capacity must be greater than 0"

/-- Everything wrong with the settings. -/
def problems (s : EndpointSettings) : List Problem :=
  (if s.maxConnections = 0 then [.noConnections] else [])
    ++ (if s.supportedVersions = [] then [.noVersions] else [])
    ++ (s.supportedVersions.filter isReservedVersion).map .reservedVersion
    ++ (if s.eventChannelCapacity = 0 then [.noEventCapacity] else [])

end EndpointSettings

/-! ## Logging -/

/-- What is logged, and how. -/
structure LoggingSettings where
  /-- the lightest messages that are logged -/
  level : LogLevel := .info
  /-- whether messages are coloured -/
  enableColors : Bool := true
  /-- whether messages name the place they come from -/
  includeFileLine : Bool := false
deriving DecidableEq, Repr

/-! ## All settings -/

/-- The settings of an endpoint and of everything it does. -/
structure Settings where
  /-- the endpoint as a whole -/
  endpoint : EndpointSettings := {}
  /-- each of its connections -/
  connection : ConnectionSettings := {}
  /-- what is logged -/
  logging : LoggingSettings := {}
deriving DecidableEq, Repr

namespace Settings

instance : Inhabited Settings := ⟨{}⟩

/-- Something wrong with the settings. -/
inductive Problem where
  /-- of the endpoint -/
  | endpoint (p : EndpointSettings.Problem)
  /-- of its connections -/
  | connection (p : ConnectionSettings.Problem)
deriving DecidableEq, Repr

/-- The text of a problem. -/
def Problem.message : Problem → String
  | endpoint p => p.message
  | connection p => "connection: " ++ p.message

/-- Everything wrong with the settings. -/
def problems (s : Settings) : List Problem :=
  s.endpoint.problems.map .endpoint ++ s.connection.problems.map .connection

/-- Settings with which nothing is wrong. -/
def Valid (s : Settings) : Prop := s.problems = []

instance (s : Settings) : Decidable s.Valid := inferInstanceAs (Decidable (_ = _))

/-! ## Warnings -/

/-- Something unwise in the settings. -/
inductive Warning where
  /-- the connections together may hold very much unread data -/
  | muchMemory (connections bytes megabytes : Nat)
  /-- a connection drains for longer than a silent one lives -/
  | longDrain (drain idle : Nat)
deriving DecidableEq, Repr

/-- The text of a warning. -/
def Warning.message : Warning → String
  | muchMemory connections bytes megabytes =>
    "max_connections (" ++ toString connections ++ ") * initial_max_data (" ++ toString bytes
      ++ ") may buffer ~" ++ toString megabytes ++ "MB of receive data"
  | longDrain drain idle =>
    "connection.drain_timeout_ms (" ++ toString drain ++ ") exceeds idle_timeout_ms (" ++
      toString idle ++ ")"

/-- How many megabytes of unread data all connections together may hold, counted
in a word. -/
def worstCaseMegabytes (s : Settings) : Nat :=
  min (s.endpoint.maxConnections * s.connection.initialMaxData) maxWord / (1024 * 1024)

/-- Everything unwise in the settings. -/
def warnings (s : Settings) : List Warning :=
  (if 16 * 1024 < s.worstCaseMegabytes then
    [.muchMemory s.endpoint.maxConnections s.connection.initialMaxData
      s.worstCaseMegabytes] else [])
    ++ (if s.connection.idleTimeoutMs ≠ 0 ∧
      s.connection.idleTimeoutMs < s.connection.drainTimeoutMs then
      [.longDrain s.connection.drainTimeoutMs s.connection.idleTimeoutMs] else [])

/-- Settings are valid when both groups are. -/
theorem valid_iff {s : Settings} : s.Valid ↔ s.endpoint.problems = [] ∧ s.connection.Valid := by
  simp [Valid, problems, ConnectionSettings.Valid]

end Settings

end QuicHost
