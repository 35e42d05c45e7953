import QuicHost.ConnectionId
import QuicHost.Transport.Parameters

/-!
# Settings of a connection

What the host decides about a connection before it begins. Settings may be
anything; `problems` lists what is wrong with them, in a fixed order and
completely, and settings are valid when the list is empty.
-/

namespace QuicHost

/-- The smallest bound on datagrams that lets a handshake through. -/
def minUdpPayloadSize : Nat := 1200

/-- The largest datagram there is. -/
def maxUdpDatagram : Nat := 65527

/-- The settings of one connection. -/
structure ConnectionSettings where
  /-- milliseconds of silence that we announce to wait; zero for ever -/
  idleTimeoutMs : Nat := 30000
  /-- milliseconds for which a closing connection absorbs what still arrives -/
  drainTimeoutMs : Nat := 3000
  /-- length of the longest datagram -/
  maxUdpPayloadSize : Nat := 1200
  /-- number of datagrams of one poll -/
  maxDatagramsPerPoll : Nat := 16
  /-- bytes the peer may have under way on the connection -/
  initialMaxData : Nat := 1024 * 1024
  /-- bytes the peer may have under way on a stream -/
  initialMaxStreamData : Nat := 256 * 1024
  /-- two-way streams the peer may keep open -/
  maxStreamsBidi : Nat := 100
  /-- one-way streams the peer may keep open -/
  maxStreamsUni : Nat := 100
  /-- length of the connection identifiers we choose -/
  scidLength : Nat := 18
deriving DecidableEq, Repr

namespace ConnectionSettings

instance : Inhabited ConnectionSettings := ⟨{}⟩

/-- The idle timeout we announce. -/
def idleTimeout (s : ConnectionSettings) : Option Duration := timeoutOfMillis s.idleTimeoutMs

/-- How long a closing connection absorbs what still arrives. -/
def drainTimeout (s : ConnectionSettings) : Duration := .ofMillis s.drainTimeoutMs

/-- The parameters we announce. One window serves every class of stream. -/
def localParameters (s : ConnectionSettings) : TransportParameters where
  maxIdleTimeoutMs := s.idleTimeoutMs
  initialMaxData := s.initialMaxData
  initialMaxStreamDataBidiLocal := s.initialMaxStreamData
  initialMaxStreamDataBidiRemote := s.initialMaxStreamData
  initialMaxStreamDataUni := s.initialMaxStreamData
  initialMaxStreamsBidi := s.maxStreamsBidi
  initialMaxStreamsUni := s.maxStreamsUni

/-- Something wrong with the settings. -/
inductive Problem where
  /-- datagrams are too short for a handshake -/
  | payloadTooSmall (size : Nat)
  /-- datagrams are longer than the network carries -/
  | payloadTooLarge (size : Nat)
  /-- nothing would ever be sent -/
  | noDatagrams
  /-- a closing connection would not drain -/
  | noDrain
  /-- a stream is granted more than the whole connection -/
  | streamWindowTooLarge (stream connection : Nat)
  /-- identifiers are too long -/
  | scidTooLong (length : Nat)
deriving DecidableEq, Repr

/-- The text of a problem. -/
def Problem.message : Problem → String
  | payloadTooSmall size =>
    "max_udp_payload_size (" ++ toString size ++ ") must be at least " ++ toString minUdpPayloadSize
  | payloadTooLarge size =>
    "max_udp_payload_size (" ++ toString size ++ ") exceeds the UDP maximum of " ++
      toString maxUdpDatagram
  | noDatagrams => "max_datagrams_per_poll must be greater than 0"
  | noDrain => "drain_timeout_ms must be greater than 0"
  | streamWindowTooLarge stream connection =>
    "initial_max_stream_data (" ++ toString stream ++ ") exceeds initial_max_data ("
      ++ toString connection ++ ")"
  | scidTooLong length =>
    "scid_length (" ++ toString length ++ ") exceeds the maximum of " ++
      toString ConnectionId.maxLength

/-- A problem, if there is one. -/
def problemIf (p : Prop) [Decidable p] (problem : Problem) : List Problem :=
  if p then [problem] else []

/-- Everything wrong with the settings. -/
def problems (s : ConnectionSettings) : List Problem :=
  problemIf (s.maxUdpPayloadSize < minUdpPayloadSize) (.payloadTooSmall s.maxUdpPayloadSize)
    ++ problemIf (maxUdpDatagram < s.maxUdpPayloadSize) (.payloadTooLarge s.maxUdpPayloadSize)
    ++ problemIf (s.maxDatagramsPerPoll = 0) .noDatagrams
    ++ problemIf (s.drainTimeoutMs = 0) .noDrain
    ++ problemIf (s.initialMaxData < s.initialMaxStreamData)
      (.streamWindowTooLarge s.initialMaxStreamData s.initialMaxData)
    ++ problemIf (ConnectionId.maxLength < s.scidLength) (.scidTooLong s.scidLength)

/-- Settings with which nothing is wrong. -/
def Valid (s : ConnectionSettings) : Prop := s.problems = []

instance (s : ConnectionSettings) : Decidable s.Valid := inferInstanceAs (Decidable (_ = _))

@[simp] theorem problemIf_eq_nil_iff {p : Prop} [Decidable p] {problem : Problem} :
    problemIf p problem = [] ↔ ¬ p := by
  unfold problemIf
  split <;> simp [*]

/-- Settings are valid when every number lies within its bounds. -/
theorem valid_iff {s : ConnectionSettings} :
    s.Valid ↔
      (minUdpPayloadSize ≤ s.maxUdpPayloadSize ∧ s.maxUdpPayloadSize ≤ maxUdpDatagram) ∧
        0 < s.maxDatagramsPerPoll ∧ 0 < s.drainTimeoutMs ∧
        s.initialMaxStreamData ≤ s.initialMaxData ∧ s.scidLength ≤ ConnectionId.maxLength := by
  simp only [Valid, problems, List.append_eq_nil_iff, problemIf_eq_nil_iff]
  omega

end ConnectionSettings

end QuicHost
